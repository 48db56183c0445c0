import Mathlib.Logic.Relation
import ServiceDiscovery.Discovery.Run

/-!
# The turns of a run

In what order the two tasks of a run get their turns. `Tasks.Turn` leaves it open
which task goes on when both can, and lets time pass only while neither can. In a
run there is never a choice (`Tasks.Orderly.turn_iff`): the listener begins, the
initiator sends the first question when it hears of that, and only then something
is received (`Tasks.asked_before_received`). So it does not matter how turns are
given, every run comes to the same report (`Discovery.run_of_turns`).
-/

namespace ServiceDiscovery

namespace Discovery

namespace Tasks

variable {window : Nat} {message : Message} {tasks next last : Tasks}

/-! ## The end of a run -/

theorem finish_of_turn? (h : tasks.turn? window = some next) :
    tasks.finish window = next.finish window := by
  rw [finish]
  split
  · rename_i hnone
    cases hnone.symm.trans h
  · rename_i other hother
    cases hother.symm.trans h
    rfl

theorem finish_of_over (h : tasks.turn? window = none) : tasks.finish window = tasks := by
  rw [finish]
  split
  · rfl
  · rename_i other hother
    cases h.symm.trans hother

/-! ## Turns that tasks may get -/

/-- One turn of a run. A task that can go on may have the turn, and time passes only
while neither can. -/
inductive Turn (window : Nat) (tasks next : Tasks) : Prop where
  | listener (h : tasks.listenerTurn? = some next)
  | initiator (h : tasks.initiatorTurn? = some next)
  | receive (hlistener : tasks.listenerTurn? = none) (hinitiator : tasks.initiatorTurn? = none)
      (h : tasks.receiveTurn? window = some next)

/-- A turn that is given to the listener first is one that may be had. -/
theorem turn_of_turn? (h : tasks.turn? window = some next) : tasks.Turn window next := by
  obtain htask | ⟨hneither, hreceive⟩ := Option.or_eq_some_iff.mp h
  · obtain hlistener | ⟨-, hinitiator⟩ := Option.or_eq_some_iff.mp htask
    · exact .listener hlistener
    · exact .initiator hinitiator
  · obtain ⟨hlistener, hinitiator⟩ := Option.or_eq_none_iff.mp hneither
    exact .receive hlistener hinitiator hreceive

/-- How far a run has come: the listener has not begun, it has begun and the first
question is to be sent, or the question was sent. -/
inductive Orderly (message : Message) (tasks : Tasks) : Prop where
  | spawned (hinitiator : tasks.initiator = .ready message) (hlistener : tasks.listener = .spawned)
      (hsignalled : tasks.signalled = false) (hsent : tasks.network.sent = #[])
      (hreceived : tasks.network.received = 0)
  | signalled (hinitiator : tasks.initiator = .ready message)
      (hlistener : tasks.listener = .receiving) (hsignalled : tasks.signalled = true)
      (hsent : tasks.network.sent = #[]) (hreceived : tasks.network.received = 0)
  | asked (hinitiator : tasks.initiator = .listenerEnd) (hlistener : tasks.listener ≠ .spawned)
      (hsignalled : tasks.signalled = true)

theorem orderly_spawn {initial : Question} {groups : List Endpoint} {arrivals : List Arrival}
    {outcomes : List SendOutcome} :
    (spawn initial message arrivals { groups, outcomes }).Orderly message :=
  .spawned rfl rfl rfl rfl rfl

/-! ## The ways a receive can end -/

theorem receive_of_nil (h : tasks.arrivals = []) :
    tasks.receive window =
      { tasks with listener := .ended, network := tasks.network.wait window } := by
  simp only [receive, h]

section

variable {arrival : Arrival} {rest : List Arrival}

theorem receive_of_late (h : tasks.arrivals = arrival :: rest) (hlate : window < arrival.delay) :
    tasks.receive window =
      { tasks with listener := .ended, network := tasks.network.wait window } := by
  simp only [receive, h, if_pos hlate]

theorem receive_of_none (h : tasks.arrivals = arrival :: rest) (hdelay : arrival.delay ≤ window)
    (hmessage : arrival.message? = none) :
    tasks.receive window =
      { tasks with
        listener := .ended
        arrivals := rest
        network := tasks.network.receive arrival } := by
  simp only [receive, h, if_neg (Nat.not_lt_of_le hdelay), hmessage]

theorem receive_of_some {received : Message} (h : tasks.arrivals = arrival :: rest)
    (hdelay : arrival.delay ≤ window) (hmessage : arrival.message? = some received) :
    tasks.receive window =
      { tasks with
        session := (tasks.session.handle (received.take Multicast.maxMessageLength)).2
        arrivals := rest
        network :=
          (tasks.session.handle (received.take Multicast.maxMessageLength)).1.foldl Network.ask
            (tasks.network.receive arrival) } := by
  simp only [receive, h, if_neg (Nat.not_lt_of_le hdelay), hmessage]

end

theorem receive_initiator : (tasks.receive window).initiator = tasks.initiator := by
  unfold receive
  repeat' split
  all_goals rfl

theorem receive_signalled : (tasks.receive window).signalled = tasks.signalled := by
  unfold receive
  repeat' split
  all_goals rfl

theorem receive_listener (h : tasks.listener = .receiving) :
    (tasks.receive window).listener ≠ .spawned := by
  unfold receive
  repeat' split
  all_goals simp [h]

/-! ## The turns of a run, one after the other -/

theorem turn?_of_spawned (hlistener : tasks.listener = .spawned) :
    tasks.turn? window = some { tasks with listener := .receiving, signalled := true } := by
  simp [turn?, listenerTurn?_eq_some_iff.mpr ⟨hlistener, rfl⟩]

theorem turn?_of_signalled (hinitiator : tasks.initiator = .ready message)
    (hlistener : tasks.listener = .receiving) (hsignalled : tasks.signalled = true) :
    tasks.turn? window =
      some { tasks with
        initiator := .listenerEnd
        network := tasks.network.sendToAll message } := by
  simp [turn?, listenerTurn?, hlistener, initiatorTurn?, hinitiator, hsignalled]

theorem turn?_of_asked (hinitiator : tasks.initiator = .listenerEnd)
    (hlistener : tasks.listener ≠ .spawned) :
    tasks.turn? window = tasks.receiveTurn? window := by
  have hbegun : tasks.listenerTurn? = none := by
    unfold listenerTurn?
    split
    · contradiction
    all_goals rfl
  simp [turn?, hbegun, initiatorTurn?, hinitiator]

/-- The first question is sent when the listener has begun. -/
theorem finish_spawn {initial : Question} {arrivals : List Arrival} {network : Network} :
    (spawn initial message arrivals network).finish window =
      finish window {
        initiator := .listenerEnd
        listener := .receiving
        signalled := true
        session := Session.start initial
        arrivals
        network := network.sendToAll message } := by
  rw [finish_of_turn? (turn?_of_spawned rfl), finish_of_turn? (turn?_of_signalled rfl rfl rfl)]
  rfl

theorem finish_of_receiving (hinitiator : tasks.initiator = .listenerEnd)
    (hlistener : tasks.listener = .receiving) :
    tasks.finish window = (tasks.receive window).finish window := by
  refine finish_of_turn? ?_
  rw [turn?_of_asked hinitiator (by simp [hlistener])]
  exact receiveTurn?_eq_some_iff.mpr ⟨hlistener, rfl⟩

/-- A receive that ends the listener ends the run. -/
theorem finish_of_last (hinitiator : tasks.initiator = .listenerEnd)
    (hlistener : tasks.listener = .receiving)
    (hended : (tasks.receive window).listener = .ended) :
    tasks.finish window = tasks.receive window := by
  rw [finish_of_receiving hinitiator hlistener]
  refine finish_of_over ?_
  rw [turn?_of_asked (receive_initiator.trans hinitiator) (receive_listener hlistener),
    receiveTurn?, hended]

namespace Orderly

/-- There is never a choice between turns. -/
theorem turn_iff (h : tasks.Orderly message) :
    tasks.Turn window next ↔ tasks.turn? window = some next := by
  refine ⟨fun hturn => ?_, turn_of_turn?⟩
  cases hturn with
  | listener hturn => simp [turn?, hturn]
  | receive hidle hwaits hturn => simp [turn?, hidle, hwaits, hturn]
  | initiator hturn =>
    -- the initiator can only go on when the listener has had its turn
    cases h with
    | spawned hinitiator hlistener hsignalled =>
      simp [initiatorTurn?, hinitiator, hsignalled, hlistener] at hturn
    | signalled hinitiator hlistener hsignalled =>
      simp [turn?, listenerTurn?, hlistener, hturn]
    | asked hinitiator => simp [initiatorTurn?, hinitiator] at hturn

theorem turn (h : tasks.Orderly message) (hturn : tasks.Turn window next) :
    next.Orderly message := by
  have hturn := h.turn_iff.mp hturn
  cases h with
  | spawned hinitiator hlistener hsignalled hsent hreceived =>
    cases (turn?_of_spawned hlistener).symm.trans hturn
    exact .signalled hinitiator rfl rfl hsent hreceived
  | signalled hinitiator hlistener hsignalled =>
    cases (turn?_of_signalled hinitiator hlistener hsignalled).symm.trans hturn
    exact .asked rfl (by simp [hlistener]) hsignalled
  | asked hinitiator hlistener hsignalled =>
    rw [turn?_of_asked hinitiator hlistener] at hturn
    obtain ⟨hreceiving, rfl⟩ := receiveTurn?_eq_some_iff.mp hturn
    exact .asked (receive_initiator.trans hinitiator) (receive_listener hreceiving)
      (receive_signalled.trans hsignalled)

theorem turns (h : tasks.Orderly message)
    (hturns : Relation.ReflTransGen (Turn window) tasks last) : last.Orderly message := by
  induction hturns with
  | refl => exact h
  | tail _ hturn ih => exact ih.turn hturn

/-- However turns are given, a run that can't go on has come to its end. -/
theorem finish_eq (h : tasks.Orderly message)
    (hturns : Relation.ReflTransGen (Turn window) tasks last)
    (hover : ∀ next, ¬last.Turn window next) : tasks.finish window = last := by
  induction hturns using Relation.ReflTransGen.head_induction_on with
  | refl =>
    refine finish_of_over (Option.eq_none_iff_forall_not_mem.mpr fun next hturn => ?_)
    exact hover next (turn_of_turn? hturn)
  | head hturn _ ih => rw [finish_of_turn? (h.turn_iff.mp hturn), ih (h.turn hturn)]

end Orderly

/-- Nothing is sent before the listener has begun, and nothing is received before
the first question was sent. -/
theorem asked_before_received {initial : Question} {groups : List Endpoint}
    {arrivals : List Arrival} {outcomes : List SendOutcome}
    (h : Relation.ReflTransGen (Turn window)
      (spawn initial message arrivals { groups, outcomes }) tasks) :
    (tasks.listener = .spawned → tasks.network.sent = #[]) ∧
      (tasks.initiator ≠ .listenerEnd → tasks.network.received = 0) := by
  cases orderly_spawn.turns h with
  | spawned hinitiator hlistener hsignalled hsent hreceived =>
    exact ⟨fun _ => hsent, fun _ => hreceived⟩
  | signalled hinitiator hlistener hsignalled hsent hreceived =>
    exact ⟨fun _ => hsent, fun _ => hreceived⟩
  | asked hinitiator hlistener hsignalled =>
    exact ⟨fun hspawned => absurd hspawned hlistener, fun hasking => absurd hinitiator hasking⟩

end Tasks

/-- Whichever task is given its turn first, a run comes to the same report. -/
theorem run_of_turns {initial : Question} {message : Message} {window : Nat}
    {groups : List Endpoint} {arrivals : List Arrival} {outcomes : List SendOutcome}
    {last : Tasks} (hencode : initial.encode = .ok message)
    (hturns : Relation.ReflTransGen (Tasks.Turn window)
      (.spawn initial message arrivals { groups, outcomes }) last)
    (hover : ∀ next, ¬last.Turn window next) :
    run initial window groups arrivals outcomes =
      { result := .ok last.session.instances, network := last.network } := by
  simp only [run, hencode, Tasks.orderly_spawn.finish_eq hturns hover]

end Discovery

end ServiceDiscovery

import Mathlib.Algebra.Ring.Nat
import ServiceDiscovery.Proofs.Discovery.Turns
import ServiceDiscovery.Proofs.Session.Ledger

/-!
# Transcripts of discovery runs

What a run does to the network, told without running it. The receives that count
are those in front of the first one that is late or fails (`timely`,
`failure?`), the session takes in the messages they bring (`heard`), and the
questions of each of its steps are copied to every group behind the receive that
led to them (`answering`). `run_eq` states that a run is just that, whatever
becomes of its sends.
-/

namespace ServiceDiscovery

namespace Discovery

/-- The receives that bring a message in time, in front of the first one that
does not. -/
def timely (window : Nat) (arrivals : List Arrival) : List Arrival :=
  arrivals.takeWhile fun arrival => arrival.delay ≤ window ∧ arrival.message?.isSome

/-- The receive behind them if it fails in time. Without one, silence ends the
run. -/
def failure? (window : Nat) (arrivals : List Arrival) : Option Arrival :=
  (arrivals.drop (timely window arrivals).length).head?.filter (·.delay ≤ window)

/-- The receives that are complete when the run ends, a failed one included. -/
def completed (window : Nat) (arrivals : List Arrival) : List Arrival :=
  timely window arrivals ++ (failure? window arrivals).toList

/-- The messages that are taken in, cut off at the greatest length. -/
def heard (window : Nat) (arrivals : List Arrival) : List Message :=
  (timely window arrivals).filterMap fun arrival =>
    arrival.message?.map (·.take Multicast.maxMessageLength)

/-- How long a run takes: the time of the receives that are complete, and one
window if it ends with silence. -/
def span (window : Nat) (arrivals : List Arrival) : Nat :=
  ((completed window arrivals).map (·.delay)).sum +
    match failure? window arrivals with
    | none => window
    | some _ => 0

/-- One message for every group, sent behind a number of receives. -/
def copies (groups : List Endpoint) (after : Nat) (message : Message) : List Sent :=
  groups.map fun group => { after, group, message }

/-- The sends for questions, one question after the other. A question that can't
be written leads to none. -/
def asking (groups : List Endpoint) (after : Nat) (questions : List Question) : List Sent :=
  questions.flatMap fun question =>
    match question.encode with
    | .ok message => copies groups after message
    | .error _ => []

/-- The sends for the steps of a session, the first of them behind the receive
that follows `received` others. -/
def answering (groups : List Endpoint) (received : Nat) :
    List (List Question × Session) → List Sent
  | [] => []
  | (questions, _) :: steps =>
    asking groups (received + 1) questions ++ answering groups (received + 1) steps

namespace Network

/-- The network behind some sends, each of which uses up one outcome. -/
def sending (network : Network) (sends : List Sent) : Network :=
  { network with
    outcomes := network.outcomes.drop sends.length
    sent := network.sent ++ sends.toArray }

variable {network : Network}

@[simp] theorem groups_sending {sends : List Sent} :
    (network.sending sends).groups = network.groups := rfl

@[simp] theorem received_sending {sends : List Sent} :
    (network.sending sends).received = network.received := rfl

@[simp] theorem sending_nil : network.sending [] = network := by
  simp [sending]

theorem sending_append {first rest : List Sent} :
    network.sending (first ++ rest) = (network.sending first).sending rest := by
  simp [sending]

theorem foldl_send (message : Message) (groups : List Endpoint) :
    groups.foldl (fun network group => (network.send message group).2) network =
      network.sending (copies groups network.received message) := by
  induction groups generalizing network with
  | nil => simp [copies]
  | cons group rest ih =>
    have hsend : (network.send message group).2 =
        network.sending [{ after := network.received, group, message }] := by
      simp [send, sending]
    rw [List.foldl_cons, ih, hsend, ← sending_append]
    rfl

theorem sendToAll_eq (message : Message) :
    network.sendToAll message =
      network.sending (copies network.groups network.received message) :=
  foldl_send message network.groups

theorem ask_eq (question : Question) :
    network.ask question = network.sending (asking network.groups network.received [question]) := by
  unfold ask
  cases h : question.encode with
  | ok message => simp [asking, h, sendToAll_eq]
  | error cause => simp [asking, h]

theorem foldl_ask (questions : List Question) :
    questions.foldl ask network =
      network.sending (asking network.groups network.received questions) := by
  induction questions generalizing network with
  | nil => simp [asking]
  | cons question rest ih =>
    rw [List.foldl_cons, ih, ask_eq, groups_sending, received_sending, ← sending_append]
    simp [asking]

end Network

/-! ## The ways a receive can end -/

variable {window : Nat} {arrival : Arrival} {arrivals : List Arrival}

theorem timely_cons_of_some {message : Message} (hdelay : arrival.delay ≤ window)
    (hmessage : arrival.message? = some message) :
    timely window (arrival :: arrivals) = arrival :: timely window arrivals := by
  simp [timely, hdelay, hmessage]

theorem failure?_cons_of_some {message : Message} (hdelay : arrival.delay ≤ window)
    (hmessage : arrival.message? = some message) :
    failure? window (arrival :: arrivals) = failure? window arrivals := by
  simp [failure?, timely_cons_of_some hdelay hmessage]

theorem timely_cons_of_none (hmessage : arrival.message? = none) :
    timely window (arrival :: arrivals) = [] := by
  simp [timely, hmessage]

theorem failure?_cons_of_none (hdelay : arrival.delay ≤ window)
    (hmessage : arrival.message? = none) :
    failure? window (arrival :: arrivals) = some arrival := by
  simp [failure?, timely_cons_of_none hmessage, hdelay]

theorem timely_cons_of_late (hlate : window < arrival.delay) :
    timely window (arrival :: arrivals) = [] := by
  simp [timely, Nat.not_le_of_lt hlate]

theorem failure?_cons_of_late (hlate : window < arrival.delay) :
    failure? window (arrival :: arrivals) = none := by
  simp [failure?, timely_cons_of_late hlate, hlate]

/-- The network behind the listener: what is heard was answered step by step, and the
receives took their time. -/
def listening (window : Nat) (arrivals : List Arrival) (session : Session) (network : Network) :
    Network :=
  { network.sending (answering network.groups network.received
      (session.run (heard window arrivals))) with
    received := network.received + (completed window arrivals).length
    elapsed := network.elapsed + span window arrivals }

/-- The listener takes in what is heard, answers it step by step and ends when the
first receive is late or fails. -/
theorem finish_listening {tasks : Tasks} (hinitiator : tasks.initiator = .listenerEnd)
    (hlistener : tasks.listener = .receiving) :
    (tasks.finish window).session = tasks.session.after (heard window tasks.arrivals) ∧
      (tasks.finish window).network =
        listening window tasks.arrivals tasks.session tasks.network := by
  induction harrivals : tasks.arrivals generalizing tasks with
  | nil =>
    have hreceive := @Tasks.receive_of_nil window _ harrivals
    rw [Tasks.finish_of_last hinitiator hlistener (by rw [hreceive]), hreceive]
    simp [listening, heard, timely, failure?, completed, span, answering, Session.run,
      Network.wait]
  | cons arrival rest ih =>
    -- a receive is late, fails or brings a message, and only the last goes on
    by_cases hlate : window < arrival.delay
    · have hreceive := Tasks.receive_of_late harrivals hlate
      rw [Tasks.finish_of_last hinitiator hlistener (by rw [hreceive]), hreceive]
      simp [listening, heard, completed, span, timely_cons_of_late hlate,
        failure?_cons_of_late hlate, answering, Session.run, Network.wait]
    · have hdelay : arrival.delay ≤ window := Nat.le_of_not_lt hlate
      cases hmessage : arrival.message? with
      | none =>
        have hreceive := Tasks.receive_of_none harrivals hdelay hmessage
        rw [Tasks.finish_of_last hinitiator hlistener (by rw [hreceive]), hreceive]
        simp [listening, heard, completed, span, timely_cons_of_none hmessage,
          failure?_cons_of_none hdelay hmessage, answering, Session.run, Network.receive,
          Network.wait]
      | some message =>
        have hreceive := Tasks.receive_of_some harrivals hdelay hmessage
        obtain ⟨hsession, hnetwork⟩ :=
          @ih (tasks.receive window) (Tasks.receive_initiator.trans hinitiator)
            (by rw [hreceive, hlistener]) (by rw [hreceive])
        rw [Tasks.finish_of_receiving hinitiator hlistener, hsession, hnetwork, hreceive]
        simp [listening, Network.foldl_ask, heard, completed, span,
          timely_cons_of_some hdelay hmessage, failure?_cons_of_some hdelay hmessage, hmessage,
          answering, Session.run, Network.receive, Network.wait, Network.sending, Nat.add_assoc,
          Nat.add_comm, Nat.add_left_comm]

/-- All sends of a run whose first question is written as `message`. -/
def transcript (initial : Question) (message : Message) (window : Nat) (groups : List Endpoint)
    (arrivals : List Arrival) : List Sent :=
  copies groups 0 message ++
    answering groups 0 ((Session.start initial).run (heard window arrivals))

/-- A run whose first question can't be written fails and leaves the network
alone. Any other run finds the instances of the session that takes in what is
heard, its sends are those of the transcript, and what becomes of them changes
nothing else. -/
theorem run_eq (initial : Question) (window : Nat) (groups : List Endpoint)
    (arrivals : List Arrival) (outcomes : List SendOutcome) :
    run initial window groups arrivals outcomes =
      match initial.encode with
      | .error cause => { result := .error (.encode cause), network := { groups, outcomes } }
      | .ok message =>
        { result := .ok ((Session.start initial).after (heard window arrivals)).instances
          network := {
            groups
            outcomes := outcomes.drop (transcript initial message window groups arrivals).length
            sent := (transcript initial message window groups arrivals).toArray
            received := (completed window arrivals).length
            elapsed := span window arrivals } } := by
  unfold run
  cases initial.encode with
  | error cause => rfl
  | ok message =>
    simp only [Tasks.finish_spawn]
    obtain ⟨hsession, hnetwork⟩ := @finish_listening window
      { initiator := .listenerEnd
        listener := .receiving
        signalled := true
        session := Session.start initial
        arrivals
        network := Network.sendToAll { groups, outcomes } message } rfl rfl
    rw [hsession, hnetwork]
    simp only [listening, Network.sendToAll_eq, Network.groups_sending,
      Network.received_sending, ← Network.sending_append]
    simp [Network.sending, transcript]

/-- A run has found what the session makes of the messages heard. Its sends are
those of the transcript, and it has received and waited as long as the arrivals
demand. -/
structure Report.Refines (initial : Question) (message : Message) (window : Nat)
    (groups : List Endpoint) (arrivals : List Arrival) (report : Report) : Prop where
  result : report.result = .ok ((Session.start initial).after (heard window arrivals)).instances
  sent : report.network.sent.toList = transcript initial message window groups arrivals
  received : report.network.received = (completed window arrivals).length
  elapsed : report.network.elapsed = span window arrivals

/-- Two runs that differ in what became of their sends at most. -/
structure Report.Agrees (report other : Report) : Prop where
  result : report.result = other.result
  sent : report.network.sent = other.network.sent
  received : report.network.received = other.network.received
  elapsed : report.network.elapsed = other.network.elapsed

/-- A run refines its session. If the first question can't be written the run
fails and leaves the network alone, else it does what the session demands, and
either way nothing depends on what becomes of the sends. -/
theorem run_refines_session (initial : Question) (window : Nat) (groups : List Endpoint)
    (arrivals : List Arrival) (outcomes : List SendOutcome) :
    (match initial.encode with
      | .error cause =>
        run initial window groups arrivals outcomes =
          { result := .error (.encode cause), network := { groups, outcomes } }
      | .ok message =>
        (run initial window groups arrivals outcomes).Refines initial message window groups
          arrivals) ∧
    ∀ others, (run initial window groups arrivals others).Agrees
      (run initial window groups arrivals outcomes) := by
  simp only [run_eq]
  cases initial.encode with
  | error cause => exact ⟨rfl, fun others => ⟨rfl, rfl, rfl, rfl⟩⟩
  | ok message => exact ⟨⟨rfl, rfl, rfl, rfl⟩, fun others => ⟨rfl, rfl, rfl, rfl⟩⟩

end Discovery

end ServiceDiscovery

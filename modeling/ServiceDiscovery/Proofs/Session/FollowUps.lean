import ServiceDiscovery.Proofs.Message.RoundTrip
import ServiceDiscovery.Proofs.Session.Ledger
import Mathlib.Algebra.Order.BigOperators.Group.Finset

/-!
# Follow-up questions

Which questions a discovery asks, and when. A question follows in the first step
behind which the records refer to what it asks for, if they do not answer it
then, and at no other time (`Session.mem_questions_iff`). So nothing is asked
twice, and the number of questions is bounded by what the records refer to and
not by the number of messages (`Session.length_followUps_le`).
-/

namespace ServiceDiscovery

namespace Session

/-- The records of a session satisfy what those behind no earlier step did. -/
def Arises (holds : Response → Prop) (earlier : List (List Question × Session))
    (session : Session) : Prop :=
  holds session.records ∧ ∀ before ∈ earlier, ¬holds before.2.records

variable {initial : Question} {session : Session}

theorem take_run (messages : List Message) (step : Nat) :
    (session.run messages).take step = session.run (messages.take step) := by
  induction messages generalizing session step with
  | nil => simp [run]
  | cons message rest ih =>
    cases step with
    | zero => rfl
    | succ step => simp [run, ih]

/-- What lasts when records are added is missing behind a run just if it was
missing all along. -/
theorem not_holds_after (holds : Response → Prop)
    (hmono : ∀ response other : Response,
      response.records ⊆ other.records → holds response → holds other)
    (session : Session) (messages : List Message) :
    ¬holds (session.after messages).records ↔
      ¬holds session.records ∧ ∀ before ∈ session.run messages, ¬holds before.2.records := by
  induction messages generalizing session with
  | nil => simp [run]
  | cons message rest ih =>
    rw [after_cons, ih, run, List.forall_mem_cons]
    constructor
    · rintro ⟨hnext, hrest⟩
      exact ⟨fun h => hnext (hmono _ _ records_subset_handle h), hnext, hrest⟩
    · rintro ⟨-, hnext, hrest⟩
      exact ⟨hnext, hrest⟩

/-- The questions of a step are those that its records give the first reason for
and do not answer, except for the initial one. -/
theorem mem_questions_iff {messages : List Message} {step : Nat} {questions : List Question}
    (h : ((start initial).run messages)[step]? = some (questions, session))
    (question : Question) :
    question ∈ questions ↔
      question ≠ initial ∧
        Arises (·.LeadsTo question) (((start initial).run messages).take step) session ∧
        ¬session.records.Settles question := by
  rw [getElem?_run] at h
  obtain ⟨message, _, hhandle⟩ := Option.map_eq_some_iff.mp h
  -- the invariant holds in front of the step, and what a reason was missing for there was
  -- missing behind every step before
  have haccounted := (Accounted.start initial).after (messages.take step)
  have hstep := haccounted.mem_handle message question
  have hearlier :=
    not_holds_after (·.LeadsTo question) (fun _ _ => Response.LeadsTo.mono)
  rw [hhandle, initial_after, hearlier] at hstep
  rw [hstep, take_run]
  constructor
  · rintro ⟨hne, hleads, ⟨_, hnew⟩, hlacks⟩
    exact ⟨hne, ⟨hleads, hnew⟩, hlacks⟩
  · rintro ⟨hne, ⟨hleads, hnew⟩, hlacks⟩
    exact ⟨hne, hleads, ⟨Response.not_leadsTo_empty question, hnew⟩, hlacks⟩

/-- What the questions of a step are, given the session behind it and the steps in
front of it. -/
structure FollowUp (initial : Question) (earlier : List (List Question × Session))
    (questions : List Question) (session : Session) : Prop where
  location : ∀ target, .internet target .srv ∈ questions ↔
    .internet target .srv ≠ initial ∧ Arises (·.PointsTo target) earlier session ∧
      ¬session.records.Has target .srv
  attributes : ∀ target, .internet target .txt ∈ questions ↔
    .internet target .txt ≠ initial ∧ Arises (·.PointsTo target) earlier session ∧
      ¬session.records.Has target .txt
  ipv4 : ∀ host, .internet host .a ∈ questions ↔
    .internet host .a ≠ initial ∧ Arises (·.Locates host) earlier session ∧
      ¬(session.records.Has host .a ∨ session.records.Has host .aaaa)
  ipv6 : ∀ host, .internet host .aaaa ∈ questions ↔
    .internet host .aaaa ≠ initial ∧ Arises (·.Locates host) earlier session ∧
      ¬(session.records.Has host .a ∨ session.records.Has host .aaaa)
  no_other : ∀ question ∈ questions, ∃ name, ∃ type ∈ [QueryType.srv, .txt, .a, .aaaa],
    question = .internet name type

/-- What the records of a session refer to is known or was asked for. -/
structure Pursued (session : Session) : Prop where
  location : ∀ target, session.records.PointsTo target →
    session.records.Has target .srv ∨ .internet target .srv ∈ session.asked
  attributes : ∀ target, session.records.PointsTo target →
    session.records.Has target .txt ∨ .internet target .txt ∈ session.asked
  addresses : ∀ host, session.records.Locates host →
    (session.records.Has host .a ∨ session.records.Has host .aaaa) ∨
      (.internet host .a ∈ session.asked ∧ .internet host .aaaa ∈ session.asked)

theorem Accounted.pursued (h : session.Accounted) : session.Pursued where
  location _ hpoints := h.covered _ (.location hpoints)
  attributes _ hpoints := h.covered _ (.attributes hpoints)
  addresses host hlocates := by
    rcases h.covered _ (.ipv4 hlocates) with hknown | ha
    · exact Or.inl hknown
    · rcases h.covered _ (.ipv6 hlocates) with hknown | haaaa
      · exact Or.inl hknown
      · exact Or.inr ⟨ha, haaaa⟩

theorem followUp_of_step {messages : List Message} {step : Nat} {questions : List Question}
    (h : ((start initial).run messages)[step]? = some (questions, session)) :
    FollowUp initial (((start initial).run messages).take step) questions session where
  location target := by
    have hlaw := mem_questions_iff h (.internet target .srv)
    simp only [Arises, Response.leadsTo_srv] at hlaw
    exact hlaw
  attributes target := by
    have hlaw := mem_questions_iff h (.internet target .txt)
    simp only [Arises, Response.leadsTo_txt] at hlaw
    exact hlaw
  ipv4 host := by
    have hlaw := mem_questions_iff h (.internet host .a)
    simp only [Arises, Response.leadsTo_a] at hlaw
    exact hlaw
  ipv6 host := by
    have hlaw := mem_questions_iff h (.internet host .aaaa)
    simp only [Arises, Response.leadsTo_aaaa] at hlaw
    exact hlaw
  no_other question hmem := by
    obtain ⟨_, ⟨hleads, _⟩, _⟩ := (mem_questions_iff h question).mp hmem
    cases hleads <;> exact ⟨_, _, by simp, rfl⟩

theorem length_run (messages : List Message) :
    (session.run messages).length = messages.length := by
  induction messages generalizing session with
  | nil => rfl
  | cons message rest ih => rw [run, List.length_cons, List.length_cons, ih]

/-- Every message leads to a step of the run, the questions of every step are the
follow-ups that its records give reason for, and behind every run all that the
records refer to was pursued. -/
theorem followUp_run (initial : Question) (messages : List Message) :
    ((start initial).run messages).length = messages.length ∧
      (∀ step questions session,
        ((start initial).run messages)[step]? = some (questions, session) →
          FollowUp initial (((start initial).run messages).take step) questions session) ∧
      ((start initial).after messages).Pursued :=
  ⟨length_run messages, fun _ _ _ h => followUp_of_step h,
    ((Accounted.start initial).after messages).pursued⟩

/-- The announcement tells all about its instance, and it leads to the questions
for the addresses of the host. -/
theorem handle_announcement :
    (start (.internet "x." .ptr)).handle announcement =
      ([.internet "x." .a, .internet "x." .aaaa],
        { initial := .internet "x." .ptr
          asked := [.internet "x." .ptr, .internet "x." .a, .internet "x." .aaaa]
          records := { records := announced.records } }) := by
  have hdecode : Response.decode announcement = .ok announced :=
    announcement_laidOut.decode_eq rfl rfl rfl rfl rfl
  rw [handle, hdecode]
  decide

/-- The reminder leads to the questions about the instance. The announcement behind it
leads to those for the addresses of the host alone. -/
theorem followUp_announcement :
    (start (.internet "x." .ptr)).run [reminder, announcement] =
        [([.internet "y.x." .srv, .internet "y.x." .txt],
            (start (.internet "x." .ptr)).after [reminder]),
          ([.internet "x." .a, .internet "x." .aaaa],
            (start (.internet "x." .ptr)).after [reminder, announcement])] ∧
      FollowUp (.internet "x." .ptr)
        [([.internet "y.x." .srv, .internet "y.x." .txt],
          (start (.internet "x." .ptr)).after [reminder])]
        [.internet "x." .a, .internet "x." .aaaa]
        ((start (.internet "x." .ptr)).after [reminder, announcement]) := by
  have hrun : (start (.internet "x." .ptr)).run [reminder, announcement] =
      [([.internet "y.x." .srv, .internet "y.x." .txt],
          (start (.internet "x." .ptr)).after [reminder]),
        ([.internet "x." .a, .internet "x." .aaaa],
          (start (.internet "x." .ptr)).after [reminder, announcement])] := by
    decide +kernel
  have hfollow := (followUp_run (.internet "x." .ptr) [reminder, announcement]).2.1 1
  rw [hrun] at hfollow
  exact ⟨hrun, hfollow _ _ rfl⟩

/-! ## How much is asked -/

/-- The questions that follow in a run, in the order they are asked. -/
def followUps (initial : Question) (messages : List Message) : List Question :=
  ((start initial).run messages).flatMap Prod.fst

/-- The names that PTR records point to, each of them once. -/
def pointedTo (session : Session) : Finset Name :=
  (session.records.ptrRecords.map Prod.snd).toFinset

/-- The hosts that SRV records name, each of them once. -/
def located (session : Session) : Finset Name :=
  session.records.srvTargets.toFinset

theorem mem_pointedTo {target : Name} :
    target ∈ session.pointedTo ↔ session.records.PointsTo target := by
  simp [pointedTo, ← Response.exists_mem_ptrRecords]

theorem mem_located {host : Name} : host ∈ session.located ↔ session.records.Locates host := by
  rw [located, List.mem_toFinset, Response.mem_srvTargets]

/-- All that can be asked about what the records refer to. -/
def askable (session : Session) : Finset Question :=
  session.pointedTo.biUnion (fun target => {.internet target .srv, .internet target .txt}) ∪
    session.located.biUnion fun host => {.internet host .a, .internet host .aaaa}

theorem mem_askable {question : Question} (h : session.records.LeadsTo question) :
    question ∈ session.askable := by
  simp only [askable, Finset.mem_union, Finset.mem_biUnion, mem_pointedTo, mem_located,
    Finset.mem_insert, Finset.mem_singleton]
  cases h with
  | location h => exact Or.inl ⟨_, h, Or.inl rfl⟩
  | attributes h => exact Or.inl ⟨_, h, Or.inr rfl⟩
  | ipv4 h => exact Or.inr ⟨_, h, Or.inl rfl⟩
  | ipv6 h => exact Or.inr ⟨_, h, Or.inr rfl⟩

theorem card_askable_le (session : Session) :
    session.askable.card ≤ 2 * session.pointedTo.card + 2 * session.located.card := by
  rw [Nat.mul_comm 2, Nat.mul_comm 2]
  refine (Finset.card_union_le _ _).trans (Nat.add_le_add ?_ ?_)
  · exact Finset.card_biUnion_le_card_mul _ _ _ fun _ _ => Finset.card_le_two
  · exact Finset.card_biUnion_le_card_mul _ _ _ fun _ _ => Finset.card_le_two

theorem asked_start_after (initial : Question) (messages : List Message) :
    ((start initial).after messages).asked = initial :: followUps initial messages :=
  asked_after messages

theorem nodup_initial_followUps (initial : Question) (messages : List Message) :
    (initial :: followUps initial messages).Nodup := by
  rw [← asked_start_after]
  exact ((Accounted.start initial).after messages).nodup

/-- What follows in a run is askable behind it. -/
theorem mem_askable_of_mem_followUps {messages : List Message} {question : Question}
    (h : question ∈ followUps initial messages) :
    question ∈ ((start initial).after messages).askable := by
  have hasked : question ∈ ((start initial).after messages).asked := by
    rw [asked_start_after]
    exact List.mem_cons_of_mem _ h
  rcases ((Accounted.start initial).after messages).reason question hasked with heq | hleads
  · obtain rfl : question = initial := heq.trans (initial_after messages)
    exact absurd h (List.nodup_cons.mp (nodup_initial_followUps question messages)).1
  · exact mem_askable hleads

theorem length_followUps_le (initial : Question) (messages : List Message) :
    (followUps initial messages).length ≤ ((start initial).after messages).askable.card := by
  have hnodup := (List.nodup_cons.mp (nodup_initial_followUps initial messages)).2
  rw [← List.toFinset_card_of_nodup hnodup]
  apply Finset.card_le_card
  intro question hmem
  exact mem_askable_of_mem_followUps (List.mem_toFinset.mp hmem)

/-- No question is asked twice, the initial one included. However many messages
arrive, at most two questions follow for each name that PTR records point to and
two for each host that SRV records name. -/
theorem nodup_followUps (initial : Question) (messages : List Message) :
    (initial :: followUps initial messages).Nodup ∧
      (followUps initial messages).length ≤
        2 * ((start initial).after messages).pointedTo.card +
          2 * ((start initial).after messages).located.card :=
  ⟨nodup_initial_followUps initial messages,
    (length_followUps_le initial messages).trans (card_askable_le _)⟩

end Session

end ServiceDiscovery

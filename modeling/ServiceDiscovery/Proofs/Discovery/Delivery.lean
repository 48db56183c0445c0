import ServiceDiscovery.Proofs.Discovery.Transcript
import ServiceDiscovery.Proofs.Session.Targets

/-!
# Delivery of questions

Every question that a session enters in its ledger leaves the machine. Names that
were decoded can be written, so follow-up questions can be encoded, and none is
passed over when it is to be sent. The sends of a run are the questions of the
ledger one after the other, each of them to all groups
(`Discovery.followUps_delivered`).
-/

namespace ServiceDiscovery

namespace Discovery

/-- The sends are those of the questions, each of them encoded and copied to every
group before the next. -/
inductive Delivered (groups : List Endpoint) : List Question → List Sent → Prop where
  | nil : Delivered groups [] []
  | cons {question : Question} {query : Message} {rest : List Question} {sends : List Sent}
      (after : Nat) (hencode : question.encode = .ok query)
      (hrest : Delivered groups rest sends) :
      Delivered groups (question :: rest) (copies groups after query ++ sends)

variable {groups : List Endpoint} {questions others : List Question} {sends more : List Sent}

theorem Delivered.append (h : Delivered groups questions sends)
    (hmore : Delivered groups others more) :
    Delivered groups (questions ++ others) (sends ++ more) := by
  induction h with
  | nil => exact hmore
  | cons after hencode hrest ih =>
    rw [List.append_assoc]
    exact .cons after hencode ih

theorem Delivered.exists_encode_eq {question : Question} (h : Delivered groups questions sends)
    (hmem : question ∈ questions) : ∃ query, question.encode = .ok query := by
  induction h with
  | nil => exact absurd hmem List.not_mem_nil
  | @cons first query rest sends after hencode hrest ih =>
    rcases List.mem_cons.mp hmem with rfl | hmem
    · exact ⟨query, hencode⟩
    · exact ih hmem

theorem delivered_asking (after : Nat)
    (h : ∀ question ∈ questions, ∃ query, question.encode = .ok query) :
    Delivered groups questions (asking groups after questions) := by
  induction questions with
  | nil => exact .nil
  | cons question rest ih =>
    obtain ⟨⟨query, hencode⟩, hrest⟩ := List.forall_mem_cons.mp h
    have hsends : asking groups after (question :: rest) =
        copies groups after query ++ asking groups after rest := by
      simp [asking, hencode]
    rw [hsends]
    exact .cons after hencode (ih hrest)

/-- The questions of all steps of a run are delivered. -/
theorem delivered_answering {session : Session} (h : session.Accounted) (received : Nat)
    (messages : List Message) :
    Delivered groups ((session.run messages).flatMap Prod.fst)
      (answering groups received (session.run messages)) := by
  induction messages generalizing session received with
  | nil => exact .nil
  | cons message rest ih =>
    have hstep : Delivered groups (session.handle message).1
        (asking groups (received + 1) (session.handle message).1) :=
      delivered_asking (received + 1) fun _ => Session.exists_encode_eq h
    exact hstep.append (ih (h.handle message) (received + 1))

theorem delivered_followUps (initial : Question) (groups : List Endpoint)
    (messages : List Message) :
    Delivered groups (Session.followUps initial messages)
      (answering groups 0 ((Session.start initial).run messages)) :=
  delivered_answering (Session.Accounted.start initial) 0 messages

theorem delivered_transcript (initial : Question) {first : Message} (window : Nat)
    (groups : List Endpoint) (arrivals : List Arrival) (hfirst : initial.encode = .ok first) :
    Delivered groups ((Session.start initial).after (heard window arrivals)).asked
      (transcript initial first window groups arrivals) := by
  rw [Session.asked_start_after]
  exact .cons 0 hfirst (delivered_followUps initial groups _)

/-- Every name that is decoded can be written again, so every question that
follows in a session can be encoded, whatever the session began with. If the
first question can be encoded too, the sends of a run are those of its ledger. -/
theorem followUps_delivered (initial : Question) :
    (∀ message start reading, Name.decode message start = .ok reading →
      ∃ octets, reading.text.write = .ok octets) ∧
    (∀ messages, ∀ question ∈ Session.followUps initial messages,
      ∃ query, question.encode = .ok query) ∧
    ∀ window groups arrivals outcomes first, initial.encode = .ok first →
      Delivered groups ((Session.start initial).after (heard window arrivals)).asked
        (run initial window groups arrivals outcomes).network.sent.toList := by
  refine ⟨?_, ?_, ?_⟩
  · intro message start reading hdecode
    exact ⟨_, Name.write_ofLabels (Name.decode_eq_ok_iff.mp hdecode).fitting⟩
  · intro messages question hmem
    exact (delivered_followUps initial [] messages).exists_encode_eq hmem
  · intro window groups arrivals outcomes first hfirst
    rw [run_eq, hfirst]
    exact delivered_transcript initial window groups arrivals hfirst

/-- A browse that hears the announcement sends three questions to its group. -/
theorem followUps_delivered_announcement :
    (Name.decode announcement 31 = .ok { labels := ["y", "x"], consumed := 4 } ∧
      ∃ octets, (Name.ofLabels ["y", "x"]).write = .ok octets) ∧
    (.internet "x." .aaaa ∈ Session.followUps (.internet "x." .ptr) [announcement] ∧
      ∃ query, (Question.internet "x." .aaaa).encode = .ok query) ∧
    (Question.internet "x." .ptr).encode =
        .ok ((Question.internet "x." .ptr).queryOctets ["x"]).toArray ∧
      Delivered [Family.group .v4]
        [.internet "x." .ptr, .internet "x." .a, .internet "x." .aaaa]
        (run (.internet "x." .ptr) 10 [Family.group .v4]
          [{ delay := 1, message? := some announcement }] [.failed]).network.sent.toList := by
  have hname := announcement_instance.decode_eq
  have hmem : .internet "x." .aaaa ∈
      Session.followUps (.internet "x." .ptr) [announcement] := by
    rw [Session.followUps, Session.run, Session.handle_announcement]
    decide
  have hencode : (Question.internet "x." .ptr).encode =
      .ok ((Question.internet "x." .ptr).queryOctets ["x"]).toArray := by decide
  have hledger : ((Session.start (.internet "x." .ptr)).after
      (heard 10 [{ delay := 1, message? := some announcement }])).asked =
        [.internet "x." .ptr, .internet "x." .a, .internet "x." .aaaa] := by
    have hheard : heard 10 [{ delay := 1, message? := some announcement }] = [announcement] := by
      decide
    rw [hheard, Session.after_cons, Session.after_nil, Session.handle_announcement]
  obtain ⟨hwrite, hfollow, hsent⟩ := followUps_delivered (.internet "x." .ptr)
  refine ⟨⟨hname, hwrite announcement 31 _ hname⟩, ⟨hmem, hfollow [announcement] _ hmem⟩,
    hencode, ?_⟩
  rw [← hledger]
  exact hsent 10 _ _ _ _ hencode

end Discovery

end ServiceDiscovery

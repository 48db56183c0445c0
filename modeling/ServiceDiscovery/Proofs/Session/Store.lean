import ServiceDiscovery.Proofs.Message.RoundTrip
import ServiceDiscovery.Proofs.Response.Merge
import ServiceDiscovery.Proofs.Session.Ledger

/-!
# The store of a session

Which records a session keeps, and in which order. A message is relevant to a
session if it is a response and has a record with the name of a question that
was asked (`Session.Relevant`). Such a message adds its new records behind the
others (`Response.fresh`), any other one changes nothing. So the store is free of
repetitions, and it consists of the records of the messages that were relevant
when they arrived (`Session.records_run`).
-/

namespace ServiceDiscovery

namespace Session

/-- A message is a response, and one of its records has the name of a question
that the session has asked, be it of the same type or not. -/
def Relevant (session : Session) (message : Message) (response : Response) : Prop :=
  Response.decode message = .ok response ∧
    ∃ question ∈ session.asked, ∃ record ∈ response.records, record.name = question.name

variable {session : Session} {message : Message} {response : Response} {record : Record}

/-! ## One step -/

theorem handle_of_relevant (h : session.Relevant message response) :
    session.handle message = session.collect response := by
  obtain ⟨hdecode, hanswers⟩ := h
  rw [handle, hdecode]
  exact if_pos (Response.answers_iff.mpr hanswers)

theorem handle_of_irrelevant (h : ∀ response, ¬session.Relevant message response) :
    session.handle message = ([], session) := by
  rw [handle]
  cases hdecode : Response.decode message with
  | error cause => rfl
  | ok response =>
    refine if_neg fun hanswers => ?_
    exact h response ⟨hdecode, Response.answers_iff.mp hanswers⟩

theorem records_handle_of_relevant (h : session.Relevant message response) :
    (session.handle message).2.records.records =
      session.records.records ++
        Response.fresh session.records.records response.records := by
  rw [handle_of_relevant h]
  exact Response.foldl_addRecord _ _

theorem mem_records_handle :
    record ∈ (session.handle message).2.records.records ↔
      record ∈ session.records.records ∨
        ∃ response, session.Relevant message response ∧ record ∈ response.records := by
  by_cases h : ∃ response, session.Relevant message response
  · obtain ⟨response, hrelevant⟩ := h
    rw [handle_of_relevant hrelevant]
    have hmerge : record ∈ (session.collect response).2.records.records ↔
        record ∈ session.records.records ∨ record ∈ response.records := Response.mem_merge
    rw [hmerge]
    refine or_congr_right ⟨fun hmem => ⟨response, hrelevant, hmem⟩, ?_⟩
    rintro ⟨other, ⟨hdecode, -⟩, hmem⟩
    -- a message is one response at most
    obtain rfl : response = other := Except.ok.inj (hrelevant.1.symm.trans hdecode)
    exact hmem
  · rw [handle_of_irrelevant (not_exists.mp h)]
    constructor
    · exact Or.inl
    · rintro (hmem | ⟨response, hrelevant, -⟩)
      · exact hmem
      · exact absurd ⟨response, hrelevant⟩ h

theorem nodup_records_handle (h : session.records.records.Nodup) :
    (session.handle message).2.records.records.Nodup := by
  obtain hpass | ⟨response, _, hcollect⟩ := handle_cases session message
  · rw [hpass]
    exact h
  · rw [hcollect]
    exact Response.nodup_foldl_addRecord h

/-! ## Runs -/

theorem nodup_records_after (messages : List Message) (h : session.records.records.Nodup) :
    (session.after messages).records.records.Nodup := by
  induction messages generalizing session with
  | nil => exact h
  | cons message rest ih => exact ih (nodup_records_handle h)

/-- A record is in the store behind messages if it was there before or belongs to
one of them that was relevant to the session behind the messages in front of
it. -/
theorem mem_records_after (messages : List Message) :
    record ∈ (session.after messages).records.records ↔
      record ∈ session.records.records ∨
        ∃ earlier message later response, messages = earlier ++ message :: later ∧
          (session.after earlier).Relevant message response ∧ record ∈ response.records := by
  induction messages generalizing session with
  | nil => simp
  | cons first rest ih =>
    rw [after_cons, ih, mem_records_handle, or_assoc]
    refine or_congr_right ?_
    constructor
    · rintro (⟨response, hrelevant, hmem⟩ | ⟨earlier, message, later, response, rfl, h⟩)
      · exact ⟨[], first, rest, response, rfl, hrelevant, hmem⟩
      · exact ⟨first :: earlier, message, later, response, rfl, h⟩
    · rintro ⟨earlier, message, later, response, hsplit, h⟩
      cases earlier with
      | nil =>
        obtain ⟨rfl, rfl⟩ := List.cons.inj hsplit
        exact Or.inl ⟨response, h⟩
      | cons head earlier =>
        obtain ⟨rfl, rfl⟩ := List.cons.inj hsplit
        exact Or.inr ⟨earlier, message, later, response, rfl, h⟩

/-- The store behind a run has no record twice. A message that is not relevant to
it changes nothing and leads to no question, any other one adds its new records
in their order. Altogether the store has the records of the messages that were
relevant when they arrived. -/
theorem records_run (initial : Question) (messages : List Message) :
    ((start initial).after messages).records.records.Nodup ∧
      (∀ message, (∀ response, ¬((start initial).after messages).Relevant message response) →
        ((start initial).after messages).handle message =
          ([], (start initial).after messages)) ∧
      (∀ message response, ((start initial).after messages).Relevant message response →
        (((start initial).after messages).handle message).2.records.records =
          ((start initial).after messages).records.records ++
            Response.fresh ((start initial).after messages).records.records response.records) ∧
      ∀ record, record ∈ ((start initial).after messages).records.records ↔
        ∃ earlier message later response, messages = earlier ++ message :: later ∧
          ((start initial).after earlier).Relevant message response ∧
          record ∈ response.records := by
  refine ⟨nodup_records_after messages List.nodup_nil, fun _ => handle_of_irrelevant,
    fun _ _ => records_handle_of_relevant, fun record => ?_⟩
  rw [mem_records_after]
  exact or_iff_right List.not_mem_nil

/-- The announcement is relevant to a session that has asked for its service, and
an empty message is not. -/
theorem records_announcement :
    ((start (.internet "x." .ptr)).Relevant announcement announced ∧
      ((start (.internet "x." .ptr)).handle announcement).2.records.records =
        announced.records) ∧
    (∀ response, ¬((start (.internet "x." .ptr)).after [announcement]).Relevant #[] response) ∧
      ((start (.internet "x." .ptr)).after [announcement]).handle #[] =
        ([], (start (.internet "x." .ptr)).after [announcement]) := by
  have hrelevant : (start (.internet "x." .ptr)).Relevant announcement announced :=
    ⟨announcement_laidOut.decode_eq rfl rfl rfl rfl rfl, .internet "x." .ptr,
      List.mem_singleton_self _, { name := "x.", ttl := 10, data := .ptr "y.x." },
      List.mem_cons_self, rfl⟩
  have hirrelevant : ∀ response,
      ¬((start (.internet "x." .ptr)).after [announcement]).Relevant #[] response := by
    rintro response ⟨hdecode, -⟩
    cases hdecode
  have hstored := (records_run (.internet "x." .ptr) []).2.2.1 announcement announced hrelevant
  exact ⟨⟨hrelevant, hstored.trans (by decide)⟩, hirrelevant,
    (records_run _ [announcement]).2.1 #[] hirrelevant⟩

end Session

end ServiceDiscovery

import ServiceDiscovery.Proofs.Response.Knowledge
import ServiceDiscovery.Session

/-!
# The ledger of a session

The questions that a session has asked are its ledger. `Session.Accounted` is
the invariant that ties it to the collected records: nothing is entered twice or
without a reason, and whatever the records lead to is entered unless they settle
it. A message keeps the invariant (`Accounted.handle`), and the questions it
leads to are those that its records give the first reason for
(`Accounted.mem_handle`). `Session.after` is the session behind a sequence of
messages.
-/

namespace ServiceDiscovery

namespace Session

/-- The session behind messages that are taken in one by one. -/
def after (session : Session) (messages : List Message) : Session :=
  messages.foldl (fun session message => (session.handle message).2) session

/-- The ledger of a session accounts for the records it has collected. -/
structure Accounted (session : Session) : Prop where
  initial_mem : session.initial ∈ session.asked
  nodup : session.asked.Nodup
  /-- Questions are entered for a reason. -/
  reason : ∀ question ∈ session.asked,
    question = session.initial ∨ session.records.LeadsTo question
  /-- What the records refer to is known or was asked for. -/
  covered : ∀ question, session.records.LeadsTo question →
    session.records.Settles question ∨ question ∈ session.asked

/-! ## The questions of one step -/

theorem mem_wantedOfInstance {records : Response} {target : Name} {question : Question} :
    question ∈ wantedOfInstance records target ↔
      (question = .internet target .srv ∧ ¬records.Has target .srv) ∨
        (question = .internet target .txt ∧ ¬records.Has target .txt) := by
  simp [wantedOfInstance, ← Response.hasSrvFor_iff, ← Response.hasTxtFor_iff, and_comm]

theorem mem_wantedOfHost {records : Response} {host : Name} {question : Question} :
    question ∈ wantedOfHost records host ↔
      (question = .internet host .a ∨ question = .internet host .aaaa) ∧
        ¬(records.Has host .a ∨ records.Has host .aaaa) := by
  simp [wantedOfHost, ← Response.hasAddressFor_iff, and_comm]

/-- A session wants to ask what the records refer to and do not answer. -/
theorem mem_wanted {records : Response} {question : Question} :
    question ∈ wanted records ↔ records.LeadsTo question ∧ ¬records.Settles question := by
  have htargets : question ∈ wanted records ↔
      (∃ target, records.PointsTo target ∧ question ∈ wantedOfInstance records target) ∨
        ∃ host, records.Locates host ∧ question ∈ wantedOfHost records host := by
    simp only [wanted, List.mem_append, List.mem_flatMap, Prod.exists,
      ← Response.exists_mem_ptrRecords, ← Response.mem_srvTargets]
    grind
  rw [htargets]
  constructor
  · rintro (⟨target, hpoints, hmem⟩ | ⟨host, hlocates, hmem⟩)
    · rcases mem_wantedOfInstance.mp hmem with ⟨rfl, hlacks⟩ | ⟨rfl, hlacks⟩
      · exact ⟨.location hpoints, hlacks⟩
      · exact ⟨.attributes hpoints, hlacks⟩
    · obtain ⟨rfl | rfl, hlacks⟩ := mem_wantedOfHost.mp hmem
      · exact ⟨.ipv4 hlocates, hlacks⟩
      · exact ⟨.ipv6 hlocates, hlacks⟩
  · rintro ⟨hleads, hlacks⟩
    cases hleads with
    | location h => exact Or.inl ⟨_, h, mem_wantedOfInstance.mpr (Or.inl ⟨rfl, hlacks⟩)⟩
    | attributes h => exact Or.inl ⟨_, h, mem_wantedOfInstance.mpr (Or.inr ⟨rfl, hlacks⟩)⟩
    | ipv4 h => exact Or.inr ⟨_, h, mem_wantedOfHost.mpr ⟨Or.inl rfl, hlacks⟩⟩
    | ipv6 h => exact Or.inr ⟨_, h, mem_wantedOfHost.mpr ⟨Or.inr rfl, hlacks⟩⟩

theorem mem_unasked {asked questions : List Question} {question : Question} :
    question ∈ unasked asked questions ↔ question ∈ questions ∧ question ∉ asked := by
  induction questions generalizing asked with
  | nil => simp [unasked]
  | cons first rest ih =>
    rw [unasked]
    by_cases h : first ∈ asked
    · rw [if_pos h, ih]
      grind
    · rw [if_neg h, List.mem_cons, ih]
      grind

/-- Questions that are new to the ledger are new to it one after the other. -/
theorem nodup_append_unasked {asked questions : List Question} (h : asked.Nodup) :
    (asked ++ unasked asked questions).Nodup := by
  induction questions generalizing asked with
  | nil => simpa [unasked] using h
  | cons first rest ih =>
    rw [unasked]
    -- the ledger grows by a question that is new, and is free of repetitions behind it
    by_cases hfirst : first ∈ asked
    · rw [if_pos hfirst]
      exact ih h
    · rw [if_neg hfirst, List.append_cons]
      refine ih (List.nodup_append.mpr ⟨h, by simp, ?_⟩)
      intro question hmem other hother
      rw [List.mem_singleton] at hother
      exact fun heq => hfirst (hother ▸ heq ▸ hmem)

/-! ## One step -/

variable {initial : Question} {session : Session} {message : Message}

/-- A message is passed over, or the records of the response it is are
collected. -/
theorem handle_cases (session : Session) (message : Message) :
    session.handle message = ([], session) ∨
      ∃ response, Response.decode message = .ok response ∧
        session.handle message = session.collect response := by
  unfold handle
  cases hdecode : Response.decode message with
  | error cause => exact Or.inl rfl
  | ok response =>
    by_cases hanswers : response.answers session.asked
    · exact Or.inr ⟨response, rfl, if_pos hanswers⟩
    · exact Or.inl (if_neg hanswers)

@[simp] theorem initial_handle : (session.handle message).2.initial = session.initial := by
  obtain h | ⟨response, _, h⟩ := handle_cases session message <;> rw [h]
  rfl

theorem asked_handle :
    (session.handle message).2.asked = session.asked ++ (session.handle message).1 := by
  obtain h | ⟨response, _, h⟩ := handle_cases session message <;> rw [h]
  · exact (List.append_nil _).symm
  · rfl

theorem records_subset_handle :
    session.records.records ⊆ (session.handle message).2.records.records := by
  obtain h | ⟨response, _, h⟩ := handle_cases session message <;> rw [h]
  · exact List.Subset.refl _
  · exact Response.subset_merge

namespace Accounted

theorem start (initial : Question) : (Session.start initial).Accounted where
  initial_mem := List.mem_singleton_self initial
  nodup := List.pairwise_singleton _ initial
  reason _ h := Or.inl (List.mem_singleton.mp h)
  covered question h := absurd h (Response.not_leadsTo_empty question)

/-- Collecting a response keeps the ledger and the records accounted for. -/
theorem collect (h : session.Accounted) (response : Response) :
    (session.collect response).2.Accounted where
  initial_mem := List.mem_append_left _ h.initial_mem
  nodup := nodup_append_unasked h.nodup
  reason := by
    intro question hmem
    rcases List.mem_append.mp hmem with hold | hnew
    · exact (h.reason question hold).imp_right (·.mono Response.subset_merge)
    · exact Or.inr (mem_wanted.mp (mem_unasked.mp hnew).1).1
  covered := by
    intro question hleads
    by_cases hsettles : (session.records.merge response).Settles question
    · exact Or.inl hsettles
    · refine Or.inr (List.mem_append.mpr ?_)
      by_cases hasked : question ∈ session.asked
      · exact Or.inl hasked
      · exact Or.inr (mem_unasked.mpr ⟨mem_wanted.mpr ⟨hleads, hsettles⟩, hasked⟩)

theorem handle (h : session.Accounted) (message : Message) :
    (session.handle message).2.Accounted := by
  obtain hpass | ⟨response, _, hcollect⟩ := handle_cases session message
  · rw [hpass]
    exact h
  · rw [hcollect]
    exact h.collect response

/-- The questions of a step are those that its records give the first reason for
and do not answer, except for the one the session began with. -/
theorem mem_handle (h : session.Accounted) (message : Message) (question : Question) :
    question ∈ (session.handle message).1 ↔
      question ≠ session.initial ∧
        (session.handle message).2.records.LeadsTo question ∧
        ¬session.records.LeadsTo question ∧
        ¬(session.handle message).2.records.Settles question := by
  obtain hpass | ⟨response, _, hcollect⟩ := handle_cases session message
  · rw [hpass]
    constructor
    · exact fun hmem => absurd hmem List.not_mem_nil
    · exact fun ⟨_, hleads, hnew, _⟩ => absurd hleads hnew
  · rw [hcollect]
    change question ∈ unasked _ (wanted (session.records.merge response)) ↔ _
    rw [mem_unasked, mem_wanted]
    constructor
    · rintro ⟨⟨hleads, hlacks⟩, hasked⟩
      refine ⟨fun heq => hasked (heq ▸ h.initial_mem), hleads, fun hold => ?_, hlacks⟩
      -- a reason that is not new was settled or asked for when it arose
      rcases h.covered question hold with hsettles | hmem
      · exact hlacks (hsettles.mono Response.subset_merge)
      · exact hasked hmem
    · rintro ⟨hne, hleads, hnew, hlacks⟩
      refine ⟨⟨hleads, hlacks⟩, fun hmem => ?_⟩
      exact (h.reason question hmem).elim hne hnew

end Accounted

/-! ## Runs -/

@[simp] theorem after_nil : session.after [] = session := rfl

@[simp] theorem after_cons {messages : List Message} :
    session.after (message :: messages) = (session.handle message).2.after messages := rfl

theorem after_append {front rest : List Message} :
    session.after (front ++ rest) = (session.after front).after rest := by
  induction front generalizing session with
  | nil => rfl
  | cons message front ih => exact ih

@[simp] theorem initial_after (messages : List Message) :
    (session.after messages).initial = session.initial := by
  induction messages generalizing session with
  | nil => rfl
  | cons message rest ih => rw [after_cons, ih, initial_handle]

theorem Accounted.after (h : session.Accounted) (messages : List Message) :
    (session.after messages).Accounted := by
  induction messages generalizing session with
  | nil => exact h
  | cons message rest ih => exact ih (h.handle message)

/-- The ledger behind a run: what was in it, and the questions of all steps. -/
theorem asked_after (messages : List Message) :
    (session.after messages).asked =
      session.asked ++ (session.run messages).flatMap Prod.fst := by
  induction messages generalizing session with
  | nil => simp [run]
  | cons message rest ih =>
    rw [after_cons, ih, asked_handle, run, List.flatMap_cons, List.append_assoc]

/-- A step of a run handles its message in the session behind the messages in
front of it. -/
theorem getElem?_run (messages : List Message) (step : Nat) :
    (session.run messages)[step]? =
      messages[step]?.map (session.after (messages.take step)).handle := by
  induction messages generalizing session step with
  | nil => simp [run]
  | cons message rest ih =>
    cases step with
    | zero => rfl
    | succ step => simpa [run] using ih step

end Session

end ServiceDiscovery

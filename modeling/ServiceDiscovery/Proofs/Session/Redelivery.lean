import Mathlib.Data.List.Perm.Basic
import ServiceDiscovery.Proofs.Session.Instances

/-!
# Redelivery

A message that tells nothing new changes nothing. What the records of a session
refer to is known or was asked for, so there is nothing left to ask either
(`Session.Accounted.unasked_wanted`). Hence a session passes over a message whose
records it has, and a message that was relevant once can be delivered again at
any time (`Session.handle_redelivered`).
-/

namespace ServiceDiscovery

namespace Session

variable {session : Session} {message : Message} {response : Response}

/-- All that the records of a session lack was asked for. -/
theorem Accounted.unasked_wanted (h : session.Accounted) :
    unasked session.asked (wanted session.records) = [] := by
  rw [List.eq_nil_iff_forall_not_mem]
  intro question hmem
  obtain ⟨hwanted, hnew⟩ := mem_unasked.mp hmem
  obtain ⟨hleads, hlacks⟩ := mem_wanted.mp hwanted
  exact (h.covered question hleads).elim hlacks hnew

theorem Accounted.collect_of_subset (h : session.Accounted)
    (hknown : response.records ⊆ session.records.records) :
    session.collect response = ([], session) := by
  simp only [Session.collect, Response.merge_of_subset hknown, h.unasked_wanted,
    List.append_nil]

/-- A message whose records are all there changes nothing, be it relevant or
not. -/
theorem Accounted.handle_of_subset (h : session.Accounted)
    (hknown : ∀ response, Response.decode message = .ok response →
      response.records ⊆ session.records.records) :
    session.handle message = ([], session) := by
  obtain hpass | ⟨response, hdecode, hcollect⟩ := handle_cases session message
  · exact hpass
  · rw [hcollect, h.collect_of_subset (hknown response hdecode)]

/-- Behind any run, a message whose records are all in the store leads to no
question and leaves the session as it is. A message that was relevant when it
arrived in the run is such a message. -/
theorem handle_redelivered (initial : Question) (messages : List Message) :
    (∀ message, (∀ response, Response.decode message = .ok response →
        response.records ⊆ ((start initial).after messages).records.records) →
      ((start initial).after messages).handle message =
        ([], (start initial).after messages)) ∧
    ∀ earlier message later response, messages = earlier ++ message :: later →
      ((start initial).after earlier).Relevant message response →
      ((start initial).after messages).handle message =
        ([], (start initial).after messages) := by
  have haccounted := (Accounted.start initial).after messages
  refine ⟨fun message => haccounted.handle_of_subset, ?_⟩
  intro earlier message later response hsplit hrelevant
  refine haccounted.handle_of_subset fun found hdecode record hmem => ?_
  cases hrelevant.1.symm.trans hdecode
  exact (mem_records_after messages).mpr
    (Or.inr ⟨earlier, message, later, response, hsplit, hrelevant, hmem⟩)

/-- The reminder is passed over behind the announcement, and so is the announcement
itself, also behind a message that contradicts it. -/
theorem handle_redelivered_announcement :
    ((start (.internet "x." .ptr)).after [announcement]).handle reminder =
        ([], (start (.internet "x." .ptr)).after [announcement]) ∧
      (start (.internet "x." .ptr)).Relevant announcement announced ∧
      ((start (.internet "x." .ptr)).after [announcement, counterAnnouncement]).handle
          announcement =
        ([], (start (.internet "x." .ptr)).after [announcement, counterAnnouncement]) := by
  have hreminder : Response.decode reminder = .ok {
      header := { flags := 0x8400, answers := 1 }
      records := [{ name := "x.", ttl := 10, data := .ptr "y.x." }] } := by decide +kernel
  have hstored : ((start (.internet "x." .ptr)).after [announcement]).records.records =
      announced.records := by decide +kernel
  have hrelevant : (start (.internet "x." .ptr)).Relevant announcement announced :=
    records_announcement.1.1
  refine ⟨(handle_redelivered (.internet "x." .ptr) [announcement]).1 reminder ?_, hrelevant,
    (handle_redelivered (.internet "x." .ptr) [announcement, counterAnnouncement]).2 [] _ _ _
      rfl hrelevant⟩
  intro response hdecode record hmem
  cases hreminder.symm.trans hdecode
  rw [hstored]
  exact List.mem_of_mem_head? (List.mem_singleton.mp hmem ▸ rfl)

end Session

end ServiceDiscovery

import ServiceDiscovery.Proofs.Message.Origin
import ServiceDiscovery.Proofs.QueryPacket.Encoding
import ServiceDiscovery.Proofs.Session.FollowUps

/-!
# Follow-up questions and the names they come from

A follow-up question asks for a name that a record of the message just handled
points to (`Session.exists_targetAt`). The labels of that name in the message fit
into a query, so every follow-up question can be encoded. Its query has the
labels of the message, each divided at the dots it has itself
(`Session.labels_followUp`).
-/

namespace ServiceDiscovery

namespace Response

variable {response other : Response} {question : Question}

theorem pointsTo_merge {target : Name} :
    (response.merge other).PointsTo target ↔ response.PointsTo target ∨ other.PointsTo target := by
  simp only [PointsTo, mem_merge]
  grind

theorem locates_merge {host : Name} :
    (response.merge other).Locates host ↔ response.Locates host ∨ other.Locates host := by
  simp only [Locates, mem_merge]
  grind

/-- What merged records lead to is what one of them leads to. -/
theorem leadsTo_of_merge (h : (response.merge other).LeadsTo question) :
    response.LeadsTo question ∨ other.LeadsTo question := by
  cases h with
  | location h => exact (pointsTo_merge.mp h).imp .location .location
  | attributes h => exact (pointsTo_merge.mp h).imp .attributes .attributes
  | ipv4 h => exact (locates_merge.mp h).imp .ipv4 .ipv4
  | ipv6 h => exact (locates_merge.mp h).imp .ipv6 .ipv6

theorem LeadsTo.exists_refersTo (h : response.LeadsTo question) :
    ∃ record ∈ response.records, record.data.RefersTo question.name := by
  cases h with
  | location h | attributes h =>
    obtain ⟨record, hmem, hdata⟩ := h
    exact ⟨record, hmem, hdata ▸ .ptr⟩
  | ipv4 h | ipv6 h =>
    obtain ⟨record, hmem, priority, weight, port, hdata⟩ := h
    exact ⟨record, hmem, hdata ▸ .srv⟩

end Response

namespace Session

variable {initial question : Question} {session : Session} {message : Message}

/-- A question of a step asks for what a record of that step's message points
to. -/
theorem exists_targetAt (h : session.Accounted)
    (hmem : question ∈ (session.handle message).1) :
    ∃ response labels, Response.decode message = .ok response ∧
      response.TargetAt message question.name labels := by
  obtain ⟨-, hleads, hnew, -⟩ := (h.mem_handle message question).mp hmem
  obtain hpass | ⟨response, hdecode, hcollect⟩ := handle_cases session message
  · rw [hpass] at hmem
    exact absurd hmem List.not_mem_nil
  · rw [hcollect] at hleads
    -- the reason for the question is new, so it is not in the store
    obtain hold | hresponse := Response.leadsTo_of_merge hleads
    · exact absurd hold hnew
    · obtain ⟨record, hrecord, hrefers⟩ := hresponse.exists_refersTo
      obtain ⟨labels, hat⟩ := Response.exists_targetAt hdecode hrecord hrefers
      exact ⟨response, labels, hdecode, hat⟩

/-- Every question that follows in a run asks for what a record of some message points
to. -/
theorem exists_targetAt_of_mem_run {messages : List Message} (h : session.Accounted)
    (hmem : question ∈ (session.run messages).flatMap Prod.fst) :
    ∃ message ∈ messages, ∃ response labels, Response.decode message = .ok response ∧
      response.TargetAt message question.name labels := by
  induction messages generalizing session with
  | nil => exact absurd hmem List.not_mem_nil
  | cons message rest ih =>
    rw [run, List.flatMap_cons] at hmem
    rcases List.mem_append.mp hmem with hstep | hrest
    · exact ⟨message, List.mem_cons_self, exists_targetAt h hstep⟩
    · obtain ⟨other, hother, hfound⟩ := ih (h.handle message) hrest
      exact ⟨other, List.mem_cons_of_mem _ hother, hfound⟩

/-- Every question of a step can be encoded. -/
theorem exists_encode_eq (h : session.Accounted)
    (hmem : question ∈ (session.handle message).1) :
    ∃ query, question.encode = .ok query := by
  obtain ⟨response, labels, -, hat⟩ := exists_targetAt h hmem
  exact ⟨_, Question.encode_of_fitting hat.ofLabels_eq hat.fitting⟩

/-- A follow-up question asks for a name that the message it follows from points
to. Its query has the labels of that name in the message, each divided at its
dots, and so they are the same labels just if none of them has a dot. The same
goes for every name that is decoded and written again. -/
theorem labels_followUp (initial : Question) :
    (∀ messages message question,
      question ∈ (((start initial).after messages).handle message).1 →
      ∃ response, Response.decode message = .ok response ∧
        (∃ labels, response.TargetAt message question.name labels) ∧
        ∀ labels, response.TargetAt message question.name labels →
          question.encode = .ok (question.queryOctets (Name.divided labels)).toArray ∧
            (question.encode = .ok (question.queryOctets labels).toArray ↔
              Name.Dotless labels)) ∧
      ∀ message start reading, Name.decode message start = .ok reading →
        reading.text.write = .ok (Name.fullOctets (Name.divided reading.labels)) ∧
          (reading.text.write = .ok (Name.fullOctets reading.labels) ↔
            Name.Dotless reading.labels) := by
  constructor
  · intro messages message question hmem
    have haccounted := (Accounted.start initial).after messages
    obtain ⟨response, labels, hdecode, hat⟩ := exists_targetAt haccounted hmem
    refine ⟨response, hdecode, ⟨labels, hat⟩, fun labels hat => ⟨?_, ?_⟩⟩
    · exact Question.encode_of_fitting hat.ofLabels_eq hat.fitting
    · exact Question.encode_eq_iff_dotless hat.ofLabels_eq hat.fitting
  · intro message start reading hdecode
    have hfit := (Name.decode_eq_ok_iff.mp hdecode).fitting
    exact ⟨Name.write_ofLabels hfit, Name.write_ofLabels_eq_iff hfit⟩

/-- The host that the announcement names with a reference is asked for with the one
label it has, and the name of the instance is written with its two labels. -/
theorem labels_followUp_announcement :
    (.internet "x." .a ∈ ((start (.internet "x." .ptr)).handle announcement).1 ∧
      ∃ labels, announced.TargetAt announcement "x." labels ∧
        (Question.internet "x." .a).encode =
          .ok ((Question.internet "x." .a).queryOctets (Name.divided labels)).toArray) ∧
    Name.decode announcement 31 = .ok { labels := ["y", "x"], consumed := 4 } ∧
      (Name.ofLabels ["y", "x"]).write = .ok (Name.fullOctets ["y", "x"]) := by
  have hmem : .internet "x." .a ∈ ((start (.internet "x." .ptr)).handle announcement).1 := by
    rw [handle_announcement]
    exact List.mem_cons_self
  have hdecode : Response.decode announcement = .ok announced :=
    announcement_laidOut.decode_eq rfl rfl rfl rfl rfl
  have hname := announcement_instance.decode_eq
  refine ⟨⟨hmem, ?_⟩, hname, ?_⟩
  · obtain ⟨response, hresponse, ⟨labels, hat⟩, hencode⟩ :=
      (labels_followUp (.internet "x." .ptr)).1 [] announcement _ hmem
    obtain rfl : announced = response := Except.ok.inj (hdecode.symm.trans hresponse)
    exact ⟨labels, hat, (hencode labels hat).1⟩
  · exact ((labels_followUp (.internet "x." .ptr)).2 announcement 31 _ hname).2.mpr (by decide)

/-- A browse for `x.` is answered with an instance whose first label has a dot. -/
def dottedAnnouncement : Message :=
  #[0, 0, 0x84, 0, 0, 0, 0, 1, 0, 0, 0, 0,
    1, 0x78, 0, 0, 12, 0, 1, 0, 0, 0, 10, 0, 6, 3, 0x61, 0x2e, 0x62, 0xc0, 12]

/-- What that message says. -/
def dottedAnnounced : Response where
  header := { flags := 0x8400, answers := 1 }
  records := [{ name := "x.", ttl := 10, data := .ptr "a.b.x." }]

theorem dottedAnnouncement_service : Name.LaidOut dottedAnnouncement 12 12 ["x"] 15 :=
  .label (by decide) (by decide) (by decide) (.root (by decide))

theorem dottedAnnouncement_instance : Name.LaidOut dottedAnnouncement 25 25 ["a.b", "x"] 31 :=
  .label (by decide) (by decide) (by decide)
    (.reference (by decide) (by decide) (by decide) dottedAnnouncement_service)

theorem dottedAnnouncement_record :
    Record.LaidOut dottedAnnouncement 12 { name := "x.", ttl := 10, data := .ptr "a.b.x." } 31 :=
  @Record.LaidOut.intro _ _ _ 15 6 false ⟨["x"], rfl, dottedAnnouncement_service⟩ (by decide)
    (by decide) (.ptr ⟨["a.b", "x"], rfl, dottedAnnouncement_instance⟩)

theorem dottedAnnouncement_laidOut : Response.LaidOut dottedAnnouncement dottedAnnounced :=
  .intro (by decide) .nil (.cons dottedAnnouncement_record .nil)

theorem dottedAnnouncement_targetAt :
    dottedAnnounced.TargetAt dottedAnnouncement "a.b.x." ["a.b", "x"] := by
  refine ⟨_, 12, ⟨[], [], 12, 31, rfl, .nil, .nil, dottedAnnouncement_record.read_eq⟩, 15, 6,
    ⟨["x"], rfl, dottedAnnouncement_service⟩, by decide, ?_⟩
  exact .ptr (by decide) dottedAnnouncement_instance

/-- A label with a dot does not come back as it was: the name that the message
points to has two labels, and the question that follows from it asks for three.
Nor does the name itself, decoded and written again. -/
theorem encode_ne_of_dotted_label :
    (.internet "a.b.x." .srv ∈ ((start (.internet "x." .ptr)).handle dottedAnnouncement).1 ∧
      Response.decode dottedAnnouncement = .ok dottedAnnounced ∧
      dottedAnnounced.TargetAt dottedAnnouncement "a.b.x." ["a.b", "x"] ∧
      (Question.internet "a.b.x." .srv).encode ≠
        .ok ((Question.internet "a.b.x." .srv).queryOctets ["a.b", "x"]).toArray ∧
      (Question.internet "a.b.x." .srv).encode =
        .ok ((Question.internet "a.b.x." .srv).queryOctets ["a", "b", "x"]).toArray) ∧
    Name.decode dottedAnnouncement 25 = .ok { labels := ["a.b", "x"], consumed := 6 } ∧
      (Name.ofLabels ["a.b", "x"]).write ≠ .ok (Name.fullOctets ["a.b", "x"]) := by
  have hdecode : Response.decode dottedAnnouncement = .ok dottedAnnounced :=
    dottedAnnouncement_laidOut.decode_eq rfl rfl rfl rfl rfl
  have hmem : .internet "a.b.x." .srv ∈
      ((start (.internet "x." .ptr)).handle dottedAnnouncement).1 := by
    rw [handle, hdecode]
    decide
  exact ⟨⟨hmem, hdecode, dottedAnnouncement_targetAt, by decide, by decide⟩,
    dottedAnnouncement_instance.decode_eq, by decide⟩

end Session

end ServiceDiscovery

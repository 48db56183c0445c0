import Mathlib.Data.List.TakeWhile
import ServiceDiscovery.Proofs.Message.Origin
import ServiceDiscovery.Proofs.Session.Instances

/-!
# The names of instances

An instance is shown under the first label of the name that a PTR record points
to, or rather under the text in front of the first dot of that label
(`Name.shown`): what has become of a name when it was decoded no longer tells
the dots inside labels from those between them. So the instances of a session
have the labels they were announced with just if these have no dots
(`Session.name_of_mem_instances`).
-/

namespace ServiceDiscovery

/-! ## What is shown of a name -/

namespace Name

variable {label : String} {labels : List String}

/-- The text in front of the first dot, all of it if there is no dot. -/
def front (text : String) : String :=
  String.ofList (text.toList.takeWhile (· ≠ '.'))

/-- What is shown of a name that has these labels. -/
def shown : List String → String
  | [] => untitled
  | first :: _ => if front first = "" then untitled else front first

theorem splitOn_eq_cons (chars : List Char) :
    ∃ rest, chars.splitOn '.' = chars.takeWhile (· ≠ '.') :: rest := by
  induction chars with
  | nil => exact ⟨[], rfl⟩
  | cons char chars ih =>
    obtain ⟨rest, hsplit⟩ := ih
    rw [List.splitOn_cons_eq_if_modifyHead]
    by_cases hdot : char = '.'
    · subst hdot
      exact ⟨_, rfl⟩
    · refine ⟨rest, ?_⟩
      rw [if_neg (by simpa using hdot), hsplit, List.modifyHead_cons,
        List.takeWhile_cons_of_pos (by simpa using hdot)]

theorem userVisible_eq (name : Name) :
    name.userVisible = if front name = "" then untitled else front name := by
  obtain ⟨rest, hsplit⟩ := splitOn_eq_cons name.toList
  have hpieces : name.pieces = front name :: rest.map String.ofList := by
    rw [pieces, hsplit, List.map_cons, front]
  by_cases hfront : front name = ""
  · rw [userVisible, hpieces, hfront]
    rfl
  · simp [userVisible, hpieces, hfront]

theorem front_append_dot (label rest : String) : front (label ++ "." ++ rest) = front label := by
  have hchars : (label ++ "." ++ rest).toList = label.toList ++ '.' :: rest.toList := by simp
  rw [front, hchars, List.takeWhile_append]
  split
  · rename_i hlength
    rw [front, (List.takeWhile_prefix _).eq_of_length hlength]
    simp
  · rfl

theorem dotless_front (text : String) : '.' ∉ (front text).toList := by
  rw [front, String.toList_ofList]
  intro hmem
  exact absurd (List.mem_takeWhile_imp hmem) (by simp)

theorem front_eq_self_iff : front label = label ↔ '.' ∉ label.toList := by
  constructor
  · intro heq
    rw [← heq]
    exact dotless_front label
  · intro hdot
    have hall : ∀ char ∈ label.toList, decide (char ≠ '.') = true :=
      fun char hmem => decide_eq_true fun heq => hdot (heq ▸ hmem)
    rw [front, List.takeWhile_eq_self_iff.mpr hall, String.ofList_toList]

theorem userVisible_ofLabels (labels : List String) :
    (ofLabels labels).userVisible = shown labels := by
  cases labels with
  | nil => rfl
  | cons first rest => rw [userVisible_eq, ofLabels_cons, front_append_dot, shown]

/-- The first label is shown as it is just if there is no dot in it. -/
theorem shown_eq_iff (h : Fitting labels) :
    shown labels = labels.headD untitled ↔ ∀ first ∈ labels.head?, '.' ∉ first.toList := by
  cases labels with
  | nil => simp [shown]
  | cons first rest =>
    have hne : first ≠ "" := h.ne_empty first List.mem_cons_self
    simp only [shown, List.headD_cons, List.head?_cons, Option.mem_some_iff, forall_eq']
    by_cases hfront : front first = ""
    · rw [if_pos hfront]
      constructor
      · rintro rfl
        decide
      · intro hdot
        rw [← front_eq_self_iff, hfront] at hdot
        exact absurd hdot.symm hne
    · rw [if_neg hfront, front_eq_self_iff]

end Name

/-! ## Where the names of instances come from -/

namespace Session

variable {messages : List Message}

/-- One of the messages has a PTR record with this name, and the name that it
points to has these labels in the message. -/
def Received (messages : List Message) (name : Name) (labels : List String) : Prop :=
  ∃ message ∈ messages, ∃ response record start target,
    Response.decode message = .ok response ∧ response.RecordAt message record start ∧
      record.name = name ∧ record.data = .ptr target ∧
      record.TargetAt message start target labels

theorem exists_received {initial : Question} {target : Name}
    (h : ((start initial).after messages).Announces target) :
    ∃ labels, Received messages initial.name labels ∧ Name.ofLabels labels = target ∧
      Name.Fitting labels := by
  obtain ⟨record, hmem, hname, hdata⟩ := h
  rw [initial_after] at hname
  have hrefers : record.data.RefersTo target := hdata ▸ .ptr
  obtain hstored | ⟨earlier, message, later, response, rfl, ⟨hdecode, -⟩, hrecord⟩ :=
    (mem_records_after messages).mp hmem
  · exact absurd hstored List.not_mem_nil
  · obtain ⟨position, labels, hat, htarget⟩ := Response.exists_recordAt hdecode hrecord hrefers
    exact ⟨labels, ⟨message, List.mem_append_cons_self, response, record, position, target, hdecode,
      hat, hname, hdata, htarget⟩, htarget.ofLabels_eq, htarget.fitting⟩

/-- Every instance of a session is one that a PTR record with the first question's
name was received for. It is shown under the first label that the record's target
has in its message, up to the first dot of that label, and under a name that
stands in if nothing is there to show. So it has the name it was announced with
just if the label has no dot. -/
theorem name_of_mem_instances (initial : Question) (messages : List Message) :
    ∀ found ∈ ((start initial).after messages).instances,
      ∃ labels, Received messages initial.name labels ∧ found.name = Name.shown labels ∧
        (found.name = labels.headD Name.untitled ↔
          ∀ first ∈ labels.head?, '.' ∉ first.toList) := by
  intro found hmem
  obtain ⟨target, hannounces, hfound⟩ := mem_instances.mp hmem
  obtain ⟨labels, hreceived, rfl, hfit⟩ := exists_received hannounces
  have hname : found.name = Name.shown labels := by
    obtain ⟨port, host, -, rfl⟩ := Instance.ofRecords?_eq_some_iff.mp hfound
    exact Name.userVisible_ofLabels labels
  exact ⟨labels, hreceived, hname, hname ▸ Name.shown_eq_iff hfit⟩

/-- The announced instance has the first of the two labels that the announcement
gives it. -/
theorem name_of_announcedInstance :
    announcedInstance ∈ ((start (.internet "x." .ptr)).after [announcement]).instances ∧
      ∃ labels, Received [announcement] "x." labels ∧
        announcedInstance.name = Name.shown labels := by
  have hmem : announcedInstance ∈
      ((start (.internet "x." .ptr)).after [announcement]).instances := by decide +kernel
  obtain ⟨labels, hreceived, hname, -⟩ :=
    name_of_mem_instances (.internet "x." .ptr) [announcement] announcedInstance hmem
  exact ⟨hmem, labels, hreceived, hname⟩

/-- A browse for `x.` is answered with an instance whose first label has a dot, and
with where the service is. -/
def dottedService : Message :=
  #[0, 0, 0x84, 0, 0, 0, 0, 2, 0, 0, 0, 0,
    1, 0x78, 0, 0, 12, 0, 1, 0, 0, 0, 10, 0, 6, 3, 0x61, 0x2e, 0x62, 0xc0, 12,
    0xc0, 25, 0, 33, 0, 1, 0, 0, 0, 10, 0, 8, 0, 0, 0, 0, 0, 9, 0xc0, 12]

/-- What that message says. -/
def dottedServed : Response where
  header := { flags := 0x8400, answers := 2 }
  records := [
    { name := "x.", ttl := 10, data := .ptr "a.b.x." },
    { name := "a.b.x.", ttl := 10, data := .srv 0 0 9 "x." }]

theorem dottedService_service : Name.LaidOut dottedService 12 12 ["x"] 15 :=
  .label (by decide) (by decide) (by decide) (.root (by decide))

theorem dottedService_instance : Name.LaidOut dottedService 25 25 ["a.b", "x"] 31 :=
  .label (by decide) (by decide) (by decide)
    (.reference (by decide) (by decide) (by decide) dottedService_service)

theorem dottedService_targetAt :
    Record.TargetAt dottedService 12 { name := "x.", ttl := 10, data := .ptr "a.b.x." }
      "a.b.x." ["a.b", "x"] :=
  ⟨15, 6, ⟨["x"], rfl, dottedService_service⟩, by decide, .ptr (by decide) dottedService_instance⟩

/-- The only PTR record of the message is its first record, so the instance was
announced with a dot in its first label and nothing else. -/
theorem labels_of_received_dottedService {labels : List String}
    (h : Received [dottedService] "x." labels) : labels = ["a.b", "x"] := by
  obtain ⟨message, hmessage, response, record, position, target, hdecode, hrecord, -, hdata,
    hat⟩ := h
  obtain rfl := List.mem_singleton.mp hmessage
  have hserved : Response.decode dottedService = .ok dottedServed := by decide +kernel
  obtain rfl : response = dottedServed := Except.ok.inj (hdecode.symm.trans hserved)
  obtain ⟨before, after, first, stop, hsplit, hquestions, hbefore, -⟩ := hrecord
  cases hquestions
  cases hbefore with
  | nil =>
    obtain ⟨rfl, -⟩ := List.cons.inj hsplit
    cases hdata
    exact hat.labels_unique dottedService_targetAt
  | cons hfirst hrest =>
    have hlater : record ∈ dottedServed.records.tail := by
      rw [hsplit]
      simp
    obtain rfl := List.mem_singleton.mp hlater
    cases hdata

/-- The instance is shown without what stands behind the dot. The first label of its
PTR record's target is another, and no other PTR record was received. -/
theorem name_ne_of_dotted_label :
    ∃ found ∈ ((start (.internet "x." .ptr)).after [dottedService]).instances,
      found.name = "a" ∧ Received [dottedService] "x." ["a.b", "x"] ∧
        ∀ labels, Received [dottedService] "x." labels →
          found.name ≠ labels.headD Name.untitled := by
  have hmem : { announcedInstance with name := "a", attributes := .empty } ∈
      ((start (.internet "x." .ptr)).after [dottedService]).instances := by decide +kernel
  obtain ⟨target, hannounces, -⟩ := mem_instances.mp hmem
  obtain ⟨labels, hreceived, -⟩ := exists_received hannounces
  refine ⟨_, hmem, rfl, ?_, fun labels hreceived => ?_⟩
  · rwa [labels_of_received_dottedService hreceived] at hreceived
  · rw [labels_of_received_dottedService hreceived]
    decide

end Session

end ServiceDiscovery

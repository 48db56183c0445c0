import ServiceDiscovery.Proofs.Discovery.Delivery
import ServiceDiscovery.Proofs.QueryPacket.Contents

/-!
# Queries that are sent again

A session tells questions apart by their text, a query holds labels. So two questions
of a ledger are sent alike just if they have the same normal form
(`Question.encode_eq_iff`), and a run sends nothing twice to a group just if the
questions of its ledger have different normal forms
(`Discovery.unrepeated_iff`). Names that were decoded from labels without dots are
in normal form, so they make no repetition (`Discovery.unrepeated_of_dotless`). A dot
inside a label may make one (`Discovery.repeats_of_dotted_label`).
-/

namespace ServiceDiscovery

/-! ## Questions that are sent alike -/

theorem QueryType.code_injective {type other : QueryType} (h : type.code = other.code) :
    type = other := by
  have hread := QueryType.ofCode_code type
  rw [h, QueryType.ofCode_code] at hread
  exact (Except.ok.inj hread).symm

/-- The top bit is in no code of a class, so setting it loses nothing. -/
theorem QueryClass.eq_of_classTopBit {cls other : QueryClass}
    (h : cls.code ||| classTopBit = other.code ||| classTopBit) : cls = other := by
  revert h
  cases cls <;> cases other <;> decide

theorem Octets.ofNat_injective {width n m : Nat} (hn : n < Nat.pow 256 width)
    (hm : m < Nat.pow 256 width) (h : ofNat width n = ofNat width m) : n = m := by
  rw [← toNat_ofNat hn, h, toNat_ofNat hm]

namespace Question

variable {question other : Question} {query : Message} {labels others : List String}

theorem normalize_eq_iff :
    question.normalize = other.normalize ↔
      question.name.labels = other.name.labels ∧ question.type = other.type ∧
        question.cls = other.cls := by
  simp only [normalize, Question.mk.injEq, Name.normalize_eq_iff]

theorem encode_normalize (question : Question) : question.normalize.encode = question.encode := by
  rw [encode_eq, encode_eq, normalize, Name.write_normalize]

/-- The query of a question holds the labels of its name. -/
theorem queryOctets_of_encode (h : question.encode = .ok query) :
    Name.Fitting question.name.labels ∧
      (question.queryOctets question.name.labels).toArray = query := by
  rw [encode_eq, Name.write_eq] at h
  cases hlong : question.name.tooLong? with
  | some length => simp [hlong, Except.map] at h
  | none =>
    rw [hlong] at h
    have hfit := Name.overlong?_eq_none_iff.mp ((Name.overlong?_labels question.name).trans hlong)
    exact ⟨fun label hmem => ⟨Name.ne_empty_of_mem_labels hmem, hfit label hmem⟩, Except.ok.inj h⟩

/-- A query tells the labels of the name that is asked for, and the codes behind
them. -/
theorem eq_of_queryOctets_eq (h : Name.Fitting labels) (hothers : Name.Fitting others)
    (heq : question.queryOctets labels = other.queryOctets others) :
    labels = others ∧ question.type = other.type ∧ question.cls = other.cls := by
  simp only [queryOctets, List.append_assoc, List.append_cancel_left_eq] at heq
  -- the codes take the same room in any query, so the labels take the same room too
  obtain ⟨hlabels, hcodes⟩ :=
    List.append_inj' heq (by simp only [List.length_append, Octets.length_ofNat])
  obtain ⟨htype, hcls⟩ := List.append_inj hcodes (by simp only [Octets.length_ofNat])
  refine ⟨h.fullOctets_inj hothers hlabels, ?_, ?_⟩
  · have hcode := Octets.ofNat_injective (UInt16.toNat_lt _) (UInt16.toNat_lt _) htype
    exact QueryType.code_injective (UInt16.toNat_inj.mp hcode)
  · have hcode := Octets.ofNat_injective (UInt16.toNat_lt _) (UInt16.toNat_lt _) hcls
    exact QueryClass.eq_of_classTopBit (UInt16.toNat_inj.mp hcode)

/-- Questions that can be encoded are sent alike just if they ask for the same labels,
the same type and the same class. -/
theorem encode_eq_iff {otherQuery : Message} (h : question.encode = .ok query)
    (hother : other.encode = .ok otherQuery) :
    question.encode = other.encode ↔ question.normalize = other.normalize := by
  constructor
  · intro heq
    obtain ⟨hfit, hquery⟩ := queryOctets_of_encode h
    obtain ⟨hfitOther, hqueryOther⟩ := queryOctets_of_encode hother
    rw [h, hother, Except.ok.injEq, ← hquery, ← hqueryOther] at heq
    have hoctets := congrArg Array.toList heq
    exact normalize_eq_iff.mpr (eq_of_queryOctets_eq hfit hfitOther hoctets)
  · intro heq
    rw [← encode_normalize question, heq, encode_normalize]

end Question

/-! ## Sends to one group -/

namespace Discovery

/-- What is sent to which group, whenever it is sent. -/
def Sent.copy (sent : Sent) : Endpoint × Message :=
  (sent.group, sent.message)

/-- The messages that are sent to a group, in their order. -/
def sentTo (group : Endpoint) (sends : List Sent) : List Message :=
  (sends.filter (·.group = group)).map (·.message)

variable {group : Endpoint} {groups : List Endpoint} {questions : List Question}
  {sends : List Sent}

/-- Nothing is sent twice to a group just if each group is sent different
messages. -/
theorem nodup_copy_iff :
    (sends.map Sent.copy).Nodup ↔ ∀ group, (sentTo group sends).Nodup := by
  have hgroup (group : Endpoint) : (sentTo group sends).Nodup ↔
      sends.Pairwise fun first second =>
        first.group = group → second.group = group → first.message ≠ second.message := by
    simp only [sentTo, List.Nodup, List.pairwise_map, List.pairwise_filter, decide_eq_true_eq]
  rw [List.Nodup, List.pairwise_map]
  simp only [hgroup]
  constructor
  · intro h group
    refine h.imp fun hne hfirst hsecond hmessage => hne ?_
    rw [Sent.copy, Sent.copy, hfirst, hsecond, hmessage]
  · intro h
    rw [List.pairwise_iff_getElem]
    intro i j hi hj hlt heq
    obtain ⟨hgroups, hmessages⟩ := Prod.mk.inj heq
    exact List.pairwise_iff_getElem.mp (h sends[j].group) i j hi hj hlt hgroups rfl hmessages

theorem sentTo_append (group : Endpoint) (first rest : List Sent) :
    sentTo group (first ++ rest) = sentTo group first ++ sentTo group rest := by
  rw [sentTo, List.filter_append, List.map_append]
  rfl

/-- A group gets one copy of a message if it is one of the groups, which are
different. -/
theorem sentTo_copies (hgroups : groups.Nodup) (group : Endpoint) (after : Nat)
    (message : Message) :
    sentTo group (copies groups after message) = if group ∈ groups then [message] else [] := by
  induction groups with
  | nil => rfl
  | cons first rest ih =>
    obtain ⟨hfirst, hrest⟩ := List.nodup_cons.mp hgroups
    have hcopies : copies (first :: rest) after message =
        [{ after, group := first, message }] ++ copies rest after message := rfl
    rw [hcopies, sentTo_append, ih hrest]
    by_cases heq : first = group
    · subst heq
      simp [sentTo, hfirst]
    · simp [sentTo, heq, Ne.symm heq]

theorem Delivered.sentTo_eq (h : Delivered groups questions sends) (hgroups : groups.Nodup)
    (group : Endpoint) :
    (sentTo group sends).map Except.ok =
      if group ∈ groups then questions.map Question.encode else [] := by
  induction h with
  | nil => split <;> rfl
  | cons after hencode hrest ih =>
    rw [sentTo_append, sentTo_copies hgroups, List.map_append, ih]
    split
    · simp [hencode]
    · rfl

/-- Nothing is sent twice to a group just if there is no group or no two of the
questions are encoded alike. -/
theorem Delivered.nodup_copy_iff (h : Delivered groups questions sends) (hgroups : groups.Nodup) :
    (sends.map Sent.copy).Nodup ↔
      groups = [] ∨ (questions.map Question.encode).Nodup := by
  have hinjective : Function.Injective (Except.ok : Message → Except WireError Message) :=
    fun _ _ => Except.ok.inj
  have hsent (group : Endpoint) : (sentTo group sends).Nodup ↔
      (group ∈ groups → (questions.map Question.encode).Nodup) := by
    rw [← List.nodup_map_iff hinjective, h.sentTo_eq hgroups]
    split <;> simp_all
  simp only [Discovery.nodup_copy_iff, hsent]
  cases groups with
  | nil => simp
  | cons first rest => simpa using fun h _ _ => h

/-! ## Runs that send nothing twice -/

/-- The questions that a run asks, in their order. -/
def ledger (initial : Question) (window : Nat) (arrivals : List Arrival) : List Question :=
  ((Session.start initial).after (heard window arrivals)).asked

/-- A run has sent nothing twice to a group. -/
def Report.Unrepeated (report : Report) : Prop :=
  (report.network.sent.toList.map Sent.copy).Nodup

variable {initial : Question} {first : Message} {window : Nat} {arrivals : List Arrival}

theorem delivered_run (hfirst : initial.encode = .ok first) (window : Nat)
    (groups : List Endpoint) (arrivals : List Arrival) (outcomes : List SendOutcome) :
    Delivered groups (ledger initial window arrivals)
      (run initial window groups arrivals outcomes).network.sent.toList := by
  rw [run_eq, hfirst]
  exact delivered_transcript initial window groups arrivals hfirst

theorem encode_eq_iff_of_mem_ledger {question other : Question}
    (hfirst : initial.encode = .ok first) (hmem : question ∈ ledger initial window arrivals)
    (hother : other ∈ ledger initial window arrivals) :
    question.encode = other.encode ↔ question.normalize = other.normalize := by
  have hdelivered := delivered_run hfirst window [] arrivals []
  obtain ⟨query, hquery⟩ := hdelivered.exists_encode_eq hmem
  obtain ⟨otherQuery, hotherQuery⟩ := hdelivered.exists_encode_eq hother
  exact Question.encode_eq_iff hquery hotherQuery

/-- A run sends nothing twice to a group just if there is no group or the questions of
its ledger have different normal forms. -/
theorem unrepeated_iff (hfirst : initial.encode = .ok first) (window : Nat)
    (hgroups : groups.Nodup) (arrivals : List Arrival) (outcomes : List SendOutcome) :
    (run initial window groups arrivals outcomes).Unrepeated ↔
      groups = [] ∨ ((ledger initial window arrivals).map Question.normalize).Nodup := by
  rw [Report.Unrepeated,
    (delivered_run hfirst window groups arrivals outcomes).nodup_copy_iff hgroups]
  refine or_congr Iff.rfl ?_
  rw [List.Nodup, List.Nodup, List.pairwise_map, List.pairwise_map]
  exact List.Pairwise.iff_of_mem fun hmem hother =>
    not_congr (encode_eq_iff_of_mem_ledger hfirst hmem hother)

end Discovery

/-! ## Labels without dots -/

/-- No label of a name that a record of the message points to has a dot. -/
def Message.DotlessTargets (message : Message) : Prop :=
  ∀ response target labels, Response.decode message = .ok response →
    response.TargetAt message target labels → Name.Dotless labels

/-- The names that records point to are laid out in the message, if they are not the
root. -/
theorem Message.dotlessTargets_of_decode {message : Message}
    (h : ∀ start < message.size, ∀ reading, Name.decode message start = .ok reading →
      Name.Dotless reading.labels) : message.DotlessTargets := by
  have hlaid {start stop : Nat} {labels : List String}
      (hlaid : Name.LaidOut message start start labels stop) : Name.Dotless labels := by
    obtain ⟨hforward, hinside⟩ := hlaid.lt_stop_and_le_size
    exact h start (Nat.lt_of_lt_of_le hforward hinside) _ hlaid.decode_eq
  rintro response target labels - ⟨record, start, -, middle, length, -, -, hat⟩
  revert hat
  generalize record.data = data
  intro hat
  cases hat with
  | empty hlength => exact fun _ hmem => absurd hmem List.not_mem_nil
  | ptr hlength hname => exact hlaid hname
  | srv hname => exact hlaid hname

namespace Discovery

variable {groups : List Endpoint} {initial : Question} {first : Message} {window : Nat}
  {arrivals : List Arrival}

theorem normalize_of_mem_ledger {question : Question}
    (hinitial : initial.name.normalize = initial.name)
    (hdot : ∀ message ∈ heard window arrivals, message.DotlessTargets)
    (hmem : question ∈ ledger initial window arrivals) : question.normalize = question := by
  rw [ledger, Session.asked_start_after] at hmem
  have hname : question.name.normalize = question.name := by
    rcases List.mem_cons.mp hmem with rfl | hfollows
    · exact hinitial
    · obtain ⟨message, hmessage, response, labels, hdecode, hat⟩ :=
        Session.exists_targetAt_of_mem_run (.start initial) hfollows
      rw [← hat.ofLabels_eq]
      exact Name.normalize_ofLabels hat.fitting (hdot message hmessage _ _ _ hdecode hat)
  rw [Question.normalize, hname]

/-- Where the first name is in normal form and no label that follows has a dot, a run
sends nothing twice to a group. -/
theorem unrepeated_of_dotless (hfirst : initial.encode = .ok first) (hgroups : groups.Nodup)
    (outcomes : List SendOutcome) (hinitial : initial.name.normalize = initial.name)
    (hdot : ∀ message ∈ heard window arrivals, message.DotlessTargets) :
    (run initial window groups arrivals outcomes).Unrepeated := by
  have hnormal : (ledger initial window arrivals).map Question.normalize =
      ledger initial window arrivals :=
    (List.map_congr_left fun _ hmem => normalize_of_mem_ledger hinitial hdot hmem).trans
      (List.map_id _)
  rw [unrepeated_iff hfirst window hgroups, hnormal]
  exact Or.inr ((Session.Accounted.start initial).after _).nodup

/-- Each group is sent the queries of the ledger one after the other. Those of two
questions are alike just if they have the same normal form, so nothing is sent twice
to a group just if there is no group or the normal forms are different. They are if
the first name is in normal form and no record that is heard points to a name whose
labels have dots. -/
theorem unrepeated_run (initial : Question) {first : Message} (window : Nat)
    {groups : List Endpoint} (arrivals : List Arrival) (outcomes : List SendOutcome)
    (hfirst : initial.encode = .ok first) (hgroups : groups.Nodup) :
    (∀ group ∈ groups,
      (sentTo group (run initial window groups arrivals outcomes).network.sent.toList).map
        Except.ok = (ledger initial window arrivals).map Question.encode) ∧
    (∀ question ∈ ledger initial window arrivals, ∀ other ∈ ledger initial window arrivals,
      (question.encode = other.encode ↔ question.normalize = other.normalize)) ∧
    ((run initial window groups arrivals outcomes).Unrepeated ↔
      groups = [] ∨ ((ledger initial window arrivals).map Question.normalize).Nodup) ∧
    (initial.name.normalize = initial.name →
      (∀ message ∈ heard window arrivals, message.DotlessTargets) →
      (run initial window groups arrivals outcomes).Unrepeated) := by
  refine ⟨fun group hmem => ?_, fun question hmem other hother => ?_,
    unrepeated_iff hfirst window hgroups arrivals outcomes,
    unrepeated_of_dotless hfirst hgroups outcomes⟩
  · rw [(delivered_run hfirst window groups arrivals outcomes).sentTo_eq hgroups, if_pos hmem]
  · exact encode_eq_iff_of_mem_ledger hfirst hmem hother

/-- A browse that hears the announcement sends nothing twice, for no label of the
announcement has a dot. -/
theorem unrepeated_announcement :
    (Question.internet "x." .ptr).encode =
        .ok ((Question.internet "x." .ptr).queryOctets ["x"]).toArray ∧
      [Family.group .v4].Nodup ∧ Name.normalize "x." = "x." ∧
      (∀ message ∈ heard 10 [{ delay := 1, message? := some announcement }],
        message.DotlessTargets) ∧
      (run (.internet "x." .ptr) 10 [Family.group .v4]
        [{ delay := 1, message? := some announcement }] []).Unrepeated := by
  have hencode : (Question.internet "x." .ptr).encode =
      .ok ((Question.internet "x." .ptr).queryOctets ["x"]).toArray := by decide
  have hgroups : [Family.group .v4].Nodup := by decide
  have hnormal : Name.normalize "x." = "x." := by decide
  have hheard : heard 10 [{ delay := 1, message? := some announcement }] = [announcement] := by
    decide
  have hnames : ∀ start < announcement.size, (Name.decode announcement start).toOption.all
      fun reading => decide (Name.Dotless reading.labels) := by decide +kernel
  have hdot : ∀ message ∈ heard 10 [{ delay := 1, message? := some announcement }],
      message.DotlessTargets := by
    rw [hheard]
    intro message hmem
    obtain rfl := List.mem_singleton.mp hmem
    refine Message.dotlessTargets_of_decode fun start hstart reading hdecode => ?_
    have hreading := hnames start hstart
    rw [hdecode] at hreading
    exact of_decide_eq_true hreading
  exact ⟨hencode, hgroups, hnormal, hdot,
    (unrepeated_run (.internet "x." .ptr) 10 _ [] hencode hgroups).2.2.2 hnormal hdot⟩

/-- A browse for `x.` is answered with two instances. The first label of one has a dot
at its end that the other has not. -/
def twins : Message :=
  #[0, 0, 0x84, 0, 0, 0, 0, 2, 0, 0, 0, 0,
    1, 0x78, 0, 0, 12, 0, 1, 0, 0, 0, 10, 0, 4, 1, 0x61, 0xc0, 12,
    0xc0, 12, 0, 12, 0, 1, 0, 0, 0, 10, 0, 5, 2, 0x61, 0x2e, 0xc0, 12]

/-- Two instances that differ in a dot at the end of a label are asked about with the
same queries. -/
theorem repeats_of_dotted_label :
    (Question.internet "x." .ptr).encode =
        .ok ((Question.internet "x." .ptr).queryOctets ["x"]).toArray ∧
      [Family.group .v4].Nodup ∧
      .internet "a.x." .srv ∈
        ledger (.internet "x." .ptr) 50 [{ delay := 1, message? := some twins }] ∧
      .internet "a..x." .srv ∈
        ledger (.internet "x." .ptr) 50 [{ delay := 1, message? := some twins }] ∧
      ¬(run (.internet "x." .ptr) 50 [Family.group .v4]
        [{ delay := 1, message? := some twins }] []).Unrepeated := by
  have hencode : (Question.internet "x." .ptr).encode =
      .ok ((Question.internet "x." .ptr).queryOctets ["x"]).toArray := by decide
  have hledger : ledger (.internet "x." .ptr) 50 [{ delay := 1, message? := some twins }] =
      [.internet "x." .ptr, .internet "a.x." .srv, .internet "a.x." .txt,
        .internet "a..x." .srv, .internet "a..x." .txt] := by decide +kernel
  refine ⟨hencode, by decide, by rw [hledger]; decide, by rw [hledger]; decide, ?_⟩
  rw [unrepeated_iff hencode 50 (by decide), hledger]
  decide

end Discovery

end ServiceDiscovery

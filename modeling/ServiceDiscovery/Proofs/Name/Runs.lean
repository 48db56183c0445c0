import ServiceDiscovery.Proofs.Name.Spelling

/-!
# Names read run by run

The recursive description of names in a message. `Name.Run.read` reads one run
of labels from the octets that begin with it, up to the root label or to a
reference. `Name.expand` reads a whole name: the labels of the run at its
position and, behind a reference, those of the name that begins earlier in the
message. Walking over a name with a cursor comes to the same, refusals included
(`Name.decode_eq_expand`).
-/

namespace ServiceDiscovery

namespace Name

inductive RunEnd where
  | root
  | reference (target : Nat)
  deriving DecidableEq, Repr

/-- Labels that stand one behind the other and what ends them. -/
structure Run where
  labels : List String
  ending : RunEnd
  /-- The number of octets, those of the ending included. -/
  length : Nat
  deriving DecidableEq, Repr

/-- The position that two octets refer to, the two top bits of which are set. -/
def pointer (high low : UInt8) : Nat :=
  (high.toNat - 0xc0) * 256 + low.toNat

namespace Run

def cons (label : String) (run : Run) : Run where
  labels := label :: run.labels
  ending := run.ending
  length := 1 + label.utf8ByteSize + run.length

/-- Reads the run that octets begin with. -/
def read : List UInt8 → Except WireError Run
  | [] => .error .malformedName
  | octet :: rest =>
    if octet = 0 then
      .ok { labels := [], ending := .root, length := 1 }
    else if octet ≤ 0x3f then
      if rest.length < octet.toNat then
        .error .malformedName
      else
        match String.fromUTF8? ⟨(rest.take octet.toNat).toArray⟩ with
        | none => .error .labelNotText
        | some label => (read (rest.drop octet.toNat)).map (cons label)
    else if octet < 0xc0 then
      .error .malformedName
    else
      match rest with
      | [] => .error .malformedName
      | low :: _ => .ok { labels := [], ending := .reference (pointer octet low), length := 2 }
termination_by octets => octets.length
decreasing_by
  rw [List.length_drop, List.length_cons]
  omega

end Run

/-- Reads the name at `start`. A reference leads on to the name it points to,
which has to begin below `start`. -/
def expand (message : Message) (start : Nat) : Except WireError Reading :=
  match Run.read (message.toList.drop start) with
  | .error cause => .error cause
  | .ok run =>
    match run.ending with
    | .root => .ok { labels := run.labels, consumed := run.length }
    | .reference target =>
      if target < start then
        (expand message target).map fun reading =>
          { labels := run.labels ++ reading.labels, consumed := run.length }
      else
        .error .malformedName
termination_by start

variable {message : Message} {cursor : Cursor} {octet low : UInt8} {octets rest : List UInt8}

/-! ## Octets that begin an element -/

theorem and_topBits (octet : UInt8) :
    (octet &&& 0xc0 = 0 ↔ octet ≤ 0x3f) ∧ (octet &&& 0xc0 = 0xc0 ↔ ¬octet < 0xc0) := by
  have hall : ∀ n < 256, (n.toUInt8 &&& 0xc0 = 0 ↔ n.toUInt8 ≤ 0x3f) ∧
      (n.toUInt8 &&& 0xc0 = 0xc0 ↔ ¬n.toUInt8 < 0xc0) := by decide +kernel
  have hoctet := hall octet.toNat octet.toNat_lt
  simpa using hoctet

theorem pointer_lt (octet low : UInt8) : pointer octet low < referenceLimit := by
  have hhigh := octet.toNat_lt
  have hlow := low.toNat_lt
  rw [pointer, referenceLimit]
  omega

theorem referenceOctets_pointer (hreference : ¬octet < 0xc0) :
    referenceOctets (pointer octet low) = [octet, low] := by
  have hhigh : 0xc0 ≤ octet.toNat := by simpa [UInt8.lt_iff_toNat_lt] using hreference
  have hnat : 0xc000 + pointer octet low = Octets.toNat [octet, low] := by
    simp only [pointer, Octets.toNat, List.foldl_cons, List.foldl_nil]
    omega
  rw [referenceOctets, hnat]
  exact Octets.ofNat_toNat [octet, low]

theorem referenceTarget_pointer (hreference : ¬octet < 0xc0) :
    Cursor.referenceTarget octet low = pointer octet low := by
  have htarget := referenceTarget_eq (pointer_lt octet low)
  have hoctets := @referenceOctets_pointer octet low hreference
  rw [referenceOctets_eq] at hoctets
  simp only [List.cons.injEq] at hoctets
  rwa [hoctets.1, hoctets.2.1] at htarget

/-- Octets that are read as a label are laid out as that label. -/
theorem labelOctets_of_fromUTF8? {label : String} (hcount : ¬rest.length < octet.toNat)
    (htext : String.fromUTF8? ⟨(rest.take octet.toNat).toArray⟩ = some label) :
    label.utf8ByteSize = octet.toNat ∧
      octet :: rest = labelOctets label ++ rest.drop octet.toNat := by
  have htake : label.toUTF8.data.toList = rest.take octet.toNat :=
    Octets.toList_of_fromUTF8? htext
  have hlength : label.utf8ByteSize = octet.toNat := by
    have hsize : label.toUTF8.data.toList.length = label.utf8ByteSize := rfl
    rw [htake, List.length_take] at hsize
    omega
  refine ⟨hlength, ?_⟩
  rw [labelOctets, htake, hlength, List.cons_append, List.take_append_drop]
  simp

/-- A length octet of a label is neither zero nor beyond the greatest length. -/
theorem label_fits {label : String} (hroot : octet ≠ 0) (hlabel : octet ≤ 0x3f)
    (hlength : label.utf8ByteSize = octet.toNat) :
    label ≠ "" ∧ label.utf8ByteSize ≤ maxLabelLength := by
  refine ⟨?_, hlength ▸ hlabel⟩
  rintro rfl
  exact hroot (UInt8.toNat_inj.mp hlength.symm)

/-- A label that is read stands in the message, and behind it the other octets. -/
theorem hasAt_label {start : Nat} {label : String}
    (h : message.toList.drop start = octet :: rest) (hroot : octet ≠ 0) (hlabel : octet ≤ 0x3f)
    (hcount : ¬rest.length < octet.toNat)
    (htext : String.fromUTF8? ⟨(rest.take octet.toNat).toArray⟩ = some label) :
    label ≠ "" ∧ label.utf8ByteSize ≤ maxLabelLength ∧
      message.HasAt start (labelOctets label) ∧
      message.toList.drop (start + (1 + label.utf8ByteSize)) = rest.drop octet.toNat := by
  obtain ⟨hlength, hoctets⟩ := labelOctets_of_fromUTF8? hcount htext
  obtain ⟨hne, hfits⟩ := label_fits hroot hlabel hlength
  refine ⟨hne, hfits, ?_, ?_⟩
  · exact (Message.hasAt_of_drop (h.trans hoctets)).left
  · rw [← Nat.add_assoc, ← List.drop_drop, Message.drop_succ_of_drop_cons h, hlength]

theorem hasAt_reference {start : Nat} (h : message.toList.drop start = octet :: low :: rest)
    (hreference : ¬octet < 0xc0) :
    message.HasAt start (referenceOctets (pointer octet low)) := by
  have hplaced : message.HasAt start ([octet, low] ++ rest) := Message.hasAt_of_drop h
  rw [referenceOctets_pointer hreference]
  exact hplaced.left

/-! ## Steps of a walk over octets -/

theorem step_of_nothing (h : message.toList.drop cursor.position = []) :
    cursor.step message = .error .malformedName := by
  simp [Cursor.step, Message.getElem?_of_drop_nil h]

theorem step_of_cut_label (h : message.toList.drop cursor.position = octet :: rest)
    (hlabel : octet ≤ 0x3f) (hcut : rest.length < octet.toNat) :
    cursor.step message = .error .malformedName := by
  have hmask := (and_topBits octet).1.mpr hlabel
  have hsize : message.size < cursor.position + 1 + octet.toNat := by
    rw [Message.size_of_drop_cons h]
    omega
  simp [Cursor.step, (Message.hasAt_of_drop h).getElem?, hmask, hsize]

theorem step_of_not_text (h : message.toList.drop cursor.position = octet :: rest)
    (hroot : octet ≠ 0) (hlabel : octet ≤ 0x3f) (hcount : ¬rest.length < octet.toNat)
    (htext : String.fromUTF8? ⟨(rest.take octet.toNat).toArray⟩ = none) :
    cursor.step message = .error .labelNotText := by
  have hmask := (and_topBits octet).1.mpr hlabel
  have hsize : ¬message.size < cursor.position + 1 + octet.toNat := by
    rw [Message.size_of_drop_cons h]
    omega
  have hextract : message.extract (cursor.position + 1) (cursor.position + 1 + octet.toNat) =
      (rest.take octet.toNat).toArray := by
    apply Array.ext'
    rw [Array.toList_extract, List.extract_eq_take_drop, Nat.add_sub_cancel_left,
      Message.drop_succ_of_drop_cons h]
  simp [Cursor.step, (Message.hasAt_of_drop h).getElem?, hmask, hsize, hroot, hextract, htext]

theorem step_of_reserved (h : message.toList.drop cursor.position = octet :: rest)
    (hlabel : ¬octet ≤ 0x3f) (hreserved : octet < 0xc0) :
    cursor.step message = .error .malformedName := by
  have hnotLabel : ¬octet &&& 0xc0 = 0 := fun hmask => hlabel ((and_topBits octet).1.mp hmask)
  have hnotReference : ¬octet &&& 0xc0 = 0xc0 :=
    fun hmask => (and_topBits octet).2.mp hmask hreserved
  simp [Cursor.step, (Message.hasAt_of_drop h).getElem?, hnotLabel, hnotReference]

theorem step_of_cut_reference (h : message.toList.drop cursor.position = [octet])
    (hreference : ¬octet < 0xc0) : cursor.step message = .error .malformedName := by
  have hmask := (and_topBits octet).2.mpr hreference
  have hlow := Message.getElem?_of_drop_nil (Message.drop_succ_of_drop_cons h)
  simp [Cursor.step, (Message.hasAt_of_drop h).getElem?, hmask, hlow]

theorem step_of_forward_reference
    (h : message.toList.drop cursor.position = octet :: low :: rest)
    (hreference : ¬octet < 0xc0) (hforward : ¬pointer octet low < cursor.floor) :
    cursor.step message = .error .malformedName := by
  have hmask := (and_topBits octet).2.mpr hreference
  have hlow := (Message.hasAt_of_drop (Message.drop_succ_of_drop_cons h)).getElem?
  simp [Cursor.step, (Message.hasAt_of_drop h).getElem?, hmask, hlow,
    referenceTarget_pointer hreference, Nat.le_of_not_lt hforward]

theorem walk_of_error {cause : WireError} (h : cursor.step message = .error cause) :
    cursor.walk message = .error cause := by
  rw [Cursor.walk]
  split <;> simp_all

/-! ## Walks over runs -/

/-- Where a walk leads that has met a run. -/
def Cursor.follow (message : Message) (cursor : Cursor) (run : Run) :
    Except WireError (List String × Nat) :=
  let labels := run.labels.reverse ++ cursor.labels
  let stop := cursor.stop (cursor.position + run.length)
  match run.ending with
  | .root => .ok (labels, stop)
  | .reference target =>
    if target < cursor.floor then
      Cursor.walk message { position := target, floor := target, resume := some stop, labels }
    else
      .error .malformedName

theorem walk_eq_follow (h : message.toList.drop cursor.position = octets) :
    cursor.walk message = (Run.read octets).bind (cursor.follow message) := by
  fun_induction Run.read octets generalizing cursor with
  | case1 => exact walk_of_error (step_of_nothing h)
  | case2 rest => exact walk_of_done (step_of_root (Message.hasAt_of_drop h).left)
  | case3 octet rest hroot hlabel hcut => exact walk_of_error (step_of_cut_label h hlabel hcut)
  | case4 octet rest hroot hlabel hcount htext =>
    exact walk_of_error (step_of_not_text h hroot hlabel hcount htext)
  | case5 octet rest hroot hlabel hcount label htext ih =>
    obtain ⟨hne, hfits, hplaced, hbehind⟩ := hasAt_label h hroot hlabel hcount htext
    rw [walk_of_next (step_of_label hne hfits hplaced), ih hbehind]
    cases Run.read (rest.drop octet.toNat) with
    | error cause => rfl
    | ok run =>
      simp [Except.map, Except.bind, Cursor.follow, Run.cons, Cursor.stop, Nat.add_assoc]
  | case6 octet rest hroot hlabel hreserved =>
    exact walk_of_error (step_of_reserved h hlabel hreserved)
  | case7 octet hroot hlabel hreference =>
    exact walk_of_error (step_of_cut_reference h hreference)
  | case8 octet hroot hlabel hreference low rest =>
    by_cases hfloor : pointer octet low < cursor.floor
    · have hplaced := hasAt_reference h hreference
      rw [walk_of_next (step_of_reference hfloor (pointer_lt octet low) hplaced)]
      simp [Except.bind, Cursor.follow, hfloor]
    · rw [walk_of_error (step_of_forward_reference h hreference hfloor)]
      simp [Except.bind, Cursor.follow, hfloor]

/-- A walk that begins with a name expands it. The labels in front of the name
stay, and the first reference of all says where reading goes on. -/
theorem walk_eq_expand (start : Nat) (resume : Option Nat) (before : List String) :
    Cursor.walk message { position := start, floor := start, resume, labels := before } =
      (expand message start).map fun reading =>
        (reading.labels.reverse ++ before, resume.getD (start + reading.consumed)) := by
  fun_induction expand message start generalizing resume before with
  | case1 start cause hread =>
    rw [walk_eq_follow rfl, hread]
    rfl
  | case2 start run hread hending =>
    rw [walk_eq_follow rfl, hread]
    simp [Except.bind, Except.map, Cursor.follow, Cursor.stop, hending]
  | case3 start run hread target hending hbelow ih =>
    rw [walk_eq_follow rfl, hread]
    simp only [Except.bind, Cursor.follow, hending, if_pos hbelow, ih]
    cases expand message target with
    | error cause => rfl
    | ok reading => simp [Except.map, Cursor.stop]
  | case4 start run hread target hending hforward =>
    rw [walk_eq_follow rfl, hread]
    simp [Except.bind, Except.map, Cursor.follow, hending, hforward]

/-! ## Layouts that are read -/

/-- The labels that the ending of a run leads to. -/
inductive RunEnd.LeadsTo (message : Message) (floor : Nat) : RunEnd → List String → Prop where
  | root : LeadsTo message floor .root []
  | reference {target stop : Nat} {labels : List String} (hbelow : target < floor)
      (htarget : LaidOut message target target labels stop) :
      LeadsTo message floor (.reference target) labels

/-- A run that is read is laid out, and behind its labels there are those that its
ending leads to. -/
theorem LaidOut.of_run {start floor : Nat} {run : Run} {behind : List String}
    (hread : Run.read octets = .ok run) (h : message.toList.drop start = octets)
    (hbehind : run.ending.LeadsTo message floor behind) :
    LaidOut message floor start (run.labels ++ behind) (start + run.length) := by
  fun_induction Run.read octets generalizing start run with
  | case1 | case3 | case4 | case6 | case7 => cases hread
  | case2 rest =>
    cases hread
    cases hbehind
    exact .root (Message.hasAt_of_drop h).left
  | case5 octet rest hroot hlabel hcount label htext ih =>
    obtain ⟨after, hafter, rfl⟩ := Except.map_eq_ok_iff.mp hread
    obtain ⟨hne, hfits, hplaced, hrest⟩ := hasAt_label h hroot hlabel hcount htext
    have hlaid := ih hafter hrest hbehind
    rw [Nat.add_assoc] at hlaid
    exact .label hne hfits hplaced hlaid
  | case8 octet hroot hlabel hreference low rest =>
    cases hread
    cases hbehind with
    | reference hbelow htarget =>
      exact .reference hbelow (pointer_lt octet low) (hasAt_reference h hreference) htarget

theorem LaidOut.of_expand {start : Nat} {reading : Reading}
    (h : expand message start = .ok reading) :
    LaidOut message start start reading.labels (start + reading.consumed) := by
  fun_induction expand message start generalizing reading with
  | case1 => cases h
  | case2 start run hread hending =>
    cases h
    have hbehind : run.ending.LeadsTo message start [] := hending ▸ .root
    have hlaid := LaidOut.of_run hread rfl hbehind
    rwa [List.append_nil] at hlaid
  | case3 start run hread target hending hbelow ih =>
    obtain ⟨behind, hbehind, rfl⟩ := Except.map_eq_ok_iff.mp h
    exact LaidOut.of_run hread rfl (hending ▸ .reference hbelow (ih hbehind))
  | case4 => cases h

theorem expand_eq_decode (message : Message) (start : Nat) :
    expand message start = decode message start := by
  rw [decode, Cursor.atStart, walk_eq_expand]
  cases expand message start with
  | error cause => rfl
  | ok reading => simp [Except.map]

/-- Decoding finds just the names that are laid out. -/
theorem decode_eq_ok_iff {start consumed : Nat} {labels : List String} :
    decode message start = .ok { labels, consumed } ↔
      LaidOut message start start labels (start + consumed) := by
  constructor
  · intro h
    rw [← expand_eq_decode] at h
    exact LaidOut.of_expand h
  · intro h
    rw [h.decode_eq, Nat.add_sub_cancel_left]

/-- A name is read run by run, its causes of refusal included. It is accepted just
if it is laid out in the message, and its text has a dot behind each of its
labels. -/
theorem decode_eq_expand (message : Message) (start : Nat) :
    decode message start = expand message start ∧
      (∀ labels consumed, decode message start = .ok { labels, consumed } ↔
        LaidOut message start start labels (start + consumed)) ∧
      ∀ reading : Reading, reading.text.toList = reading.labels.flatMap (·.toList ++ ['.']) :=
  ⟨(expand_eq_decode message start).symm, fun _ _ => decode_eq_ok_iff,
    fun reading => toList_ofLabels reading.labels⟩

end Name

end ServiceDiscovery

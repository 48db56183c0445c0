import ServiceDiscovery.Name.Decoder
import ServiceDiscovery.Proofs.Octets.Placement

/-!
# Names laid out in a message

`Name.LaidOut` says what a name in a message looks like: labels behind their
length octets up to the root label, or some leading labels and a reference to an
earlier position, at which the other labels are laid out. Decoding such a name
gives its labels and stops behind the part of it that stands at its own position
(`LaidOut.decode_eq`). What `Name.write` writes is a name laid out in full
(`LaidOut.of_write`).
-/

namespace ServiceDiscovery

namespace Name

/-- The two octets of a reference to a position. -/
def referenceOctets (target : Nat) : List UInt8 :=
  Octets.ofNat 2 (0xc000 + target)

/-- The first position that a reference has no room for. -/
def referenceLimit : Nat := 0x4000

/-- A name with the given labels is laid out at `position` in a message and ends
in front of `stop`. It may refer to positions below `floor`, where the run of
labels that it belongs to begins. -/
inductive LaidOut (message : Message) :
    (floor position : Nat) → (labels : List String) → (stop : Nat) → Prop where
  | root {floor position : Nat} (hroot : message.HasAt position [0]) :
      LaidOut message floor position [] (position + 1)
  | label {floor position stop : Nat} {label : String} {rest : List String}
      (hne : label ≠ "") (hlength : label.utf8ByteSize ≤ maxLabelLength)
      (hlabel : message.HasAt position (labelOctets label))
      (hrest : LaidOut message floor (position + (1 + label.utf8ByteSize)) rest stop) :
      LaidOut message floor position (label :: rest) stop
  | reference {floor position target stop : Nat} {labels : List String}
      (hfloor : target < floor) (hlimit : target < referenceLimit)
      (hreference : message.HasAt position (referenceOctets target))
      (htarget : LaidOut message target target labels stop) :
      LaidOut message floor position labels (position + 2)

variable {message : Message} {cursor : Cursor} {label : String} {labels : List String}

theorem length_labelOctets (label : String) :
    (labelOctets label).length = 1 + label.utf8ByteSize := by
  rw [labelOctets, List.length_cons, Nat.add_comm]
  rfl

/-! ## Octets that begin an element -/

/-- The two top bits of a length octet are clear. -/
theorem lengthOctet_and_mask {length : Nat} (h : length ≤ maxLabelLength) :
    length.toUInt8 &&& 0xc0 = 0 := by
  -- there are few enough length octets to try them all
  have hall : ∀ length < 64, length.toUInt8 &&& 0xc0 = 0 := by decide
  exact hall length (Nat.lt_succ_of_le h)

/-- The two top bits of a reference octet are set, and the others are the high
part of the position. -/
theorem referenceOctet_and_mask {high : Nat} (h : high < 64) :
    (0xc0 + high).toUInt8 &&& 0xc0 = 0xc0 ∧
      ((0xc0 + high).toUInt8 &&& 0x3f).toNat = high := by
  have hall : ∀ high < 64, (0xc0 + high).toUInt8 &&& 0xc0 = 0xc0 ∧
      ((0xc0 + high).toUInt8 &&& 0x3f).toNat = high := by decide
  exact hall high h

theorem referenceOctets_eq (target : Nat) :
    referenceOctets target = [(0xc0 + target / 256).toUInt8, target.toUInt8] := by
  have hhigh : (0xc000 + target) / 256 = 0xc0 + target / 256 := by omega
  have hlow : (0xc000 + target).toUInt8 = target.toUInt8 := by
    apply UInt8.toNat_inj.mp
    simp only [Nat.toUInt8, UInt8.toNat_ofNat']
    omega
  simp only [referenceOctets, Octets.ofNat, hhigh, hlow, List.nil_append, List.cons_append]

theorem referenceTarget_eq {target : Nat} (h : target < referenceLimit) :
    Cursor.referenceTarget (0xc0 + target / 256).toUInt8 target.toUInt8 = target := by
  have hhigh : target / 256 < 64 := Nat.div_lt_of_lt_mul h
  have hlow : target.toUInt8.toNat = target % 256 := UInt8.toNat_ofNat'
  simp only [Cursor.referenceTarget, Octets.toNat, List.foldl_cons, List.foldl_nil,
    (referenceOctet_and_mask hhigh).2, hlow]
  omega

/-! ## Steps of a walk over a layout -/

theorem step_of_root (h : message.HasAt cursor.position [0]) :
    cursor.step message = .ok (.done cursor.labels (cursor.stop (cursor.position + 1))) := by
  have hsize : ¬message.size < cursor.position + 1 := by
    have := h.le_size (by simp)
    simpa using this
  simp [Cursor.step, h.getElem?, hsize]

theorem step_of_label (hne : label ≠ "") (hlength : label.utf8ByteSize ≤ maxLabelLength)
    (h : message.HasAt cursor.position (labelOctets label)) :
    cursor.step message = .ok (.next {
      cursor with
      position := cursor.position + (1 + label.utf8ByteSize)
      labels := label :: cursor.labels }) := by
  have hmask := lengthOctet_and_mask hlength
  have hcount : label.utf8ByteSize.toUInt8.toNat = label.utf8ByteSize :=
    UInt8.toNat_ofNat_of_lt' (Nat.lt_of_le_of_lt hlength (by decide))
  have hlast : cursor.position + 1 + label.utf8ByteSize =
      cursor.position + (1 + label.utf8ByteSize) := Nat.add_assoc _ _ _
  have hsize : ¬message.size < cursor.position + (1 + label.utf8ByteSize) := by
    have := h.le_size (by simp [labelOctets])
    rw [length_labelOctets] at this
    omega
  have hpositive : label.utf8ByteSize.toUInt8 ≠ 0 := by
    intro hzero
    rw [hzero] at hcount
    exact hne (String.utf8ByteSize_eq_zero_iff.mp hcount.symm)
  have htext : String.fromUTF8? ⟨message.extract (cursor.position + 1)
      (cursor.position + (1 + label.utf8ByteSize))⟩ = some label := by
    have htail : message.HasAt (cursor.position + 1) label.toUTF8.data.toList := h.tail
    apply Octets.fromUTF8?_of_toList
    have hextract := htail.toList_extract
    rwa [Nat.add_assoc] at hextract
  simp [Cursor.step, h.getElem?, hmask, hcount, hlast, hsize, hpositive, htext]

theorem step_of_reference {target : Nat} (hfloor : target < cursor.floor)
    (hlimit : target < referenceLimit)
    (h : message.HasAt cursor.position (referenceOctets target)) :
    cursor.step message = .ok (.next {
      cursor with
      position := target
      floor := target
      resume := some (cursor.stop (cursor.position + 2)) }) := by
  rw [referenceOctets_eq] at h
  have hhigh : target / 256 < 64 := Nat.div_lt_of_lt_mul hlimit
  have hmask := (referenceOctet_and_mask hhigh).1
  have hlow : message[cursor.position + 1]? = some target.toUInt8 := h.tail.getElem?
  have hbelow : ¬cursor.floor ≤ target := Nat.not_le_of_lt hfloor
  simp only [Cursor.step, h.getElem?, hmask, hlow, referenceTarget_eq hlimit, hbelow, ↓reduceIte]

theorem walk_of_next {next : Cursor} (h : cursor.step message = .ok (.next next)) :
    cursor.walk message = next.walk message := by
  rw [Cursor.walk]
  split <;> simp_all

theorem walk_of_done {stop : Nat} (h : cursor.step message = .ok (.done labels stop)) :
    cursor.walk message = .ok (labels, stop) := by
  rw [Cursor.walk]
  split <;> simp_all

namespace LaidOut

/-- A walk over a name that is laid out meets its labels. -/
theorem walk_eq {floor position stop : Nat} (h : LaidOut message floor position labels stop)
    (resume : Option Nat) (before : List String) :
    Cursor.walk message { position, floor, resume, labels := before } =
      .ok (labels.reverse ++ before, resume.getD stop) := by
  -- only the first reference sets `resume`, so `stop` is where the name ends at `position`
  induction h generalizing resume before with
  | root hroot =>
    exact walk_of_done (step_of_root hroot)
  | label hne hlength hlabel hrest ih =>
    rw [walk_of_next (step_of_label hne hlength hlabel), ih]
    simp
  | reference hfloor hlimit hreference htarget ih =>
    rw [walk_of_next (step_of_reference hfloor hlimit hreference), ih]
    rfl

/-- The part of a name that stands at its position is not empty, and it is a part
of the message. -/
theorem lt_stop_and_le_size {floor position stop : Nat}
    (h : LaidOut message floor position labels stop) :
    position < stop ∧ stop ≤ message.size := by
  induction h with
  | root hroot => exact ⟨Nat.lt_succ_self _, hroot.le_size (by simp)⟩
  | label hne hlength hlabel hrest ih => exact ⟨by omega, ih.2⟩
  | reference hfloor hlimit hreference htarget ih =>
    have hsize := hreference.le_size (by simp [referenceOctets_eq])
    rw [referenceOctets, Octets.length_ofNat] at hsize
    exact ⟨by omega, hsize⟩

/-- Decoding undoes the layout of a name, with references or without. -/
theorem decode_eq {start stop : Nat} (h : LaidOut message start start labels stop) :
    decode message start = .ok { labels, consumed := stop - start } := by
  rw [decode, Cursor.atStart, h.walk_eq]
  simp [Except.map]

/-- A position tells the labels of the name that is laid out there. -/
theorem labels_unique {start stop last : Nat} {others : List String}
    (h : LaidOut message start start labels stop)
    (hothers : LaidOut message start start others last) : labels = others := by
  have hread := h.decode_eq
  rw [hothers.decode_eq] at hread
  simp only [Except.ok.injEq, Reading.mk.injEq] at hread
  exact hread.1.symm

end LaidOut

/-! ## Names written in full -/

theorem LaidOut.of_writeLabels {floor position : Nat} {octets : List UInt8}
    (hne : ∀ label ∈ labels, label ≠ "") (hwrite : writeLabels labels = .ok octets)
    (h : message.HasAt position octets) :
    LaidOut message floor position labels (position + octets.length) := by
  induction labels generalizing position octets with
  | nil =>
    cases hwrite
    exact .root h
  | cons label rest ih =>
    rw [writeLabels] at hwrite
    split at hwrite
    · cases hwrite
    · rename_i hlength
      obtain ⟨behind, hbehind, rfl⟩ := Except.map_eq_ok_iff.mp hwrite
      obtain ⟨hlabel, hlaid⟩ := Message.hasAt_append.mp h
      rw [length_labelOctets] at hlaid
      rw [List.length_append, length_labelOctets, ← Nat.add_assoc]
      refine .label (hne label List.mem_cons_self) (Nat.le_of_not_lt hlength) hlabel ?_
      exact ih (fun other hother => hne other (List.mem_cons_of_mem _ hother)) hbehind hlaid

theorem ne_empty_of_mem_labels {name : Name} (h : label ∈ name.labels) : label ≠ "" := by
  simpa using (List.mem_filter.mp h).2

/-- What is written of a name is laid out in full. -/
theorem LaidOut.of_write {name : Name} {floor position : Nat} {octets : List UInt8}
    (hwrite : name.write = .ok octets) (h : message.HasAt position octets) :
    LaidOut message floor position name.labels (position + octets.length) :=
  .of_writeLabels (fun _ => ne_empty_of_mem_labels) hwrite h

end Name

end ServiceDiscovery

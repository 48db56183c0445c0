import ServiceDiscovery.Proofs.Name.Normal

/-!
# Names written and read back

What is written of a name can stand anywhere in a message: reading it there gives
the name in normal form and goes on right behind it (`Name.exists_reading`). A name
is refused just if one of its pieces is too long (`Name.write_eq_error_iff`), two
names are written alike just if they have the same normal form
(`Name.write_eq_ok_iff`), and the normal forms are the names that are spelled with a
dot behind each of their labels (`Name.normalize_eq_self_iff`).
-/

namespace ServiceDiscovery

/-! ## Lengths above a limit -/

/-- `length` is the first of the lengths that is above `most`. -/
def FirstAbove (most : Nat) (lengths : List Nat) (length : Nat) : Prop :=
  ∃ before after, lengths = before ++ length :: after ∧ (∀ earlier ∈ before, earlier ≤ most) ∧
    most < length

namespace FirstAbove

variable {most first length : Nat} {lengths rest : List Nat}

theorem find?_eq_some_iff :
    lengths.find? (most < ·) = some length ↔ FirstAbove most lengths length := by
  rw [List.find?_eq_some_iff_append]
  constructor
  · rintro ⟨hlong, before, after, hsplit, hbefore⟩
    exact ⟨before, after, hsplit, by simpa using hbefore, by simpa using hlong⟩
  · rintro ⟨before, after, hsplit, hbefore, hlong⟩
    exact ⟨by simpa using hlong, before, after, hsplit, by simpa using hbefore⟩

theorem cons_iff_of_lt (hlong : most < first) :
    FirstAbove most (first :: rest) length ↔ length = first := by
  rw [← find?_eq_some_iff, List.find?_cons_of_pos (by simpa using hlong), Option.some.injEq,
    eq_comm]

theorem cons_iff_of_le (hshort : first ≤ most) :
    FirstAbove most (first :: rest) length ↔ FirstAbove most rest length := by
  rw [← find?_eq_some_iff, List.find?_cons_of_neg (by simpa using hshort), find?_eq_some_iff]

/-- There is a first one just if there is one at all. -/
theorem exists_iff :
    (∃ length, FirstAbove most lengths length) ↔ ∃ length ∈ lengths, most < length := by
  simp only [← find?_eq_some_iff, ← Option.isSome_iff_exists, List.find?_isSome, decide_eq_true_eq]

end FirstAbove

namespace Name

variable {name other : Name} {octets : List UInt8} {cause : WireError}

/-! ## Refusals -/

theorem tooLong?_eq_some_iff {length : Nat} :
    name.tooLong? = some length ↔
      FirstAbove maxLabelLength (name.pieces.map String.utf8ByteSize) length := by
  rw [tooLong?, overlong?]
  exact FirstAbove.find?_eq_some_iff

/-- A name is refused for the first of its pieces that is too long, and for nothing
else. -/
theorem write_eq_error_iff :
    name.write = .error cause ↔
      ∃ length, FirstAbove maxLabelLength (name.pieces.map String.utf8ByteSize) length ∧
        cause = .labelTooLong length := by
  simp only [← tooLong?_eq_some_iff]
  rw [write_eq]
  cases name.tooLong? with
  | none => simp
  | some length => simp [eq_comm]

/-! ## Reading back -/

/-- Written names are read wherever they stand, and no octet around them takes part. -/
theorem exists_reading (hwrite : name.write = .ok octets) (front back : List UInt8) :
    ∃ reading, decode (front ++ octets ++ back).toArray front.length = .ok reading ∧
      reading.text = name.normalize ∧ reading.consumed = octets.length := by
  have hlaid : LaidOut (front ++ octets ++ back).toArray front.length front.length name.labels
      (front.length + octets.length) := .of_write hwrite (Message.hasAt_between front octets back)
  refine ⟨_, hlaid.decode_eq, rfl, ?_⟩
  show front.length + octets.length - front.length = octets.length
  omega

/-! ## Names that are written alike -/

/-- Octets tell the normal form of the names that are written as them. -/
theorem write_eq_ok_iff (hwrite : name.write = .ok octets) :
    other.write = .ok octets ↔ other.normalize = name.normalize := by
  constructor
  · intro hother
    -- both normal forms are read from the same message
    obtain ⟨reading, hreading, htext, -⟩ := exists_reading hwrite [] []
    obtain ⟨otherReading, hotherReading, hotherText, -⟩ := exists_reading hother [] []
    rw [hreading] at hotherReading
    cases hotherReading
    rw [← hotherText, htext]
  · intro hnormal
    rw [← write_normalize, hnormal, write_normalize, hwrite]

/-- A name is in normal form just if it is spelled with a dot behind each of its
labels, which are not empty and have no dots. -/
theorem normalize_eq_self_iff :
    name.normalize = name ↔
      ∃ labels, (∀ label ∈ labels, label ≠ "" ∧ '.' ∉ label.toList) ∧ name = ofLabels labels := by
  constructor
  · intro hnormal
    refine ⟨name.labels, fun label hmem => ?_, hnormal.symm⟩
    exact ⟨ne_empty_of_mem_labels hmem, dotless_labels name label hmem⟩
  · rintro ⟨labels, hlabels, rfl⟩
    rw [normalize, labels_ofLabels]
    congr 1
    exact divided_of_dotless (fun label hmem => (hlabels label hmem).1)
      (fun label hmem => (hlabels label hmem).2)

/-- A name is refused for the first of its pieces that is too long. Otherwise it is
written as octets that are read back between any others as the normal form of the
name, and no name with another normal form is written as these octets. -/
theorem decode_write (name : Name) :
    (∀ cause, name.write = .error cause ↔
      ∃ length, FirstAbove maxLabelLength (name.pieces.map String.utf8ByteSize) length ∧
        cause = .labelTooLong length) ∧
    (∀ octets, name.write = .ok octets →
      (∀ front back : List UInt8, ∃ reading,
        decode (front ++ octets ++ back).toArray front.length = .ok reading ∧
          reading.text = name.normalize ∧ reading.consumed = octets.length) ∧
      ∀ other : Name, other.write = .ok octets ↔ other.normalize = name.normalize) ∧
    name.normalize.normalize = name.normalize ∧
    (name.normalize = name ↔
      ∃ labels, (∀ label ∈ labels, label ≠ "" ∧ '.' ∉ label.toList) ∧ name = ofLabels labels) := by
  refine ⟨fun cause => write_eq_error_iff, fun octets hwrite => ⟨?_, fun other => ?_⟩,
    normalize_normalize name, normalize_eq_self_iff⟩
  · exact exists_reading hwrite
  · exact write_eq_ok_iff hwrite

/-- Two names that differ in dots are read back as one, between octets that would be
references. -/
theorem decode_write_dotted :
    Name.write "..a.b" = .ok [1, 0x61, 1, 0x62, 0] ∧
      (∃ reading, decode #[0xc0, 1, 0x61, 1, 0x62, 0, 0xc0, 0] 1 = .ok reading ∧
        reading.text = "a.b." ∧ reading.consumed = 5) ∧
      Name.write "a..b" = .ok [1, 0x61, 1, 0x62, 0] := by
  have hwrite : Name.write "..a.b" = .ok [1, 0x61, 1, 0x62, 0] := rfl
  obtain ⟨hread, halike⟩ := (decode_write "..a.b").2.1 _ hwrite
  exact ⟨hwrite, hread [0xc0] [0xc0, 0], (halike "a..b").mpr (by decide)⟩

end Name

end ServiceDiscovery

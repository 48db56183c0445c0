import ServiceDiscovery.Proofs.Name.Spelling

/-!
# Names as they are written

Which names can be written, and as what. A name is refused for the first of its
labels that no length octet can count, and any other name is written label by
label (`Name.write_eq`). The dots of its text only matter as far as they separate
labels, so a name is written as its normal form is (`Name.write_normalize`).
-/

namespace ServiceDiscovery

namespace Name

/-- The length of the first label of a name that is too long for a message. -/
def tooLong? (name : Name) : Option Nat :=
  overlong? name.pieces

theorem tooLong?_eq_none_iff {name : Name} :
    name.tooLong? = none ↔ ∀ piece ∈ name.pieces, piece.utf8ByteSize ≤ maxLabelLength :=
  overlong?_eq_none_iff

/-- Pieces that are empty are not too long. -/
theorem overlong?_labels (name : Name) : overlong? name.labels = name.tooLong? := by
  rw [tooLong?, overlong?, overlong?, Name.labels, List.find?_map, List.find?_map,
    List.find?_filter]
  congr 2
  funext piece
  by_cases h : piece = ""
  · subst h
    rfl
  · simp [h]

/-- A name is refused for its first label that is too long, or it is written label
by label. -/
theorem write_eq (name : Name) :
    name.write =
      match name.tooLong? with
      | some length => .error (.labelTooLong length)
      | none => .ok (fullOctets name.labels) := by
  have hwrite := writeLabels_eq name.labels
  rw [overlong?_labels] at hwrite
  exact hwrite

/-! ## Normal forms -/

theorem dotless_labels (name : Name) : Dotless name.labels :=
  fun _ hmem => (le_and_dotless_of_mem_labels hmem).2

theorem labels_normalize (name : Name) : name.normalize.labels = name.labels := by
  rw [normalize, labels_ofLabels]
  exact divided_of_dotless (fun _ => ne_empty_of_mem_labels) (dotless_labels name)

/-- Labels without dots are found again in the text that they were spelled out to. -/
theorem normalize_ofLabels {labels : List String} (h : Fitting labels)
    (hdot : Dotless labels) : (ofLabels labels).normalize = ofLabels labels := by
  rw [normalize, labels_ofLabels, divided_of_dotless h.ne_empty hdot]

theorem normalize_normalize (name : Name) : name.normalize.normalize = name.normalize := by
  rw [normalize, labels_normalize]
  rfl

theorem write_normalize (name : Name) : name.normalize.write = name.write := by
  rw [write, labels_normalize]
  rfl

/-- A normal form tells the labels that it spells. -/
theorem normalize_eq_iff {name other : Name} :
    name.normalize = other.normalize ↔ name.labels = other.labels := by
  constructor
  · intro h
    rw [← labels_normalize, h, labels_normalize]
  · exact congrArg ofLabels

end Name

end ServiceDiscovery

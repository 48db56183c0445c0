import ServiceDiscovery.Proofs.Name.Layout

/-!
# Labels and their spelling

A name in a message is a sequence of labels, a name in memory is text. Spelling
labels out puts a dot behind each of them (`Name.toList_ofLabels`), and taking
the text apart again divides each label at the dots it has itself
(`Name.labels_ofLabels`). So labels of a message can always be written back
(`Name.write_ofLabels`), and they come back as they were just if there are no
dots in them (`Name.write_ofLabels_eq_iff`).
-/

namespace ServiceDiscovery

namespace Name

variable {label : String} {labels others : List String}

/-- Labels that a message has room for. -/
def Fitting (labels : List String) : Prop :=
  ∀ label ∈ labels, label ≠ "" ∧ label.utf8ByteSize ≤ maxLabelLength

/-- Labels without dots. -/
def Dotless (labels : List String) : Prop :=
  ∀ label ∈ labels, '.' ∉ label.toList

instance (labels : List String) : Decidable (Fitting labels) :=
  inferInstanceAs (Decidable (∀ label ∈ labels, _))

instance (labels : List String) : Decidable (Dotless labels) :=
  inferInstanceAs (Decidable (∀ label ∈ labels, _))

theorem Fitting.ne_empty (h : Fitting labels) : ∀ label ∈ labels, label ≠ "" :=
  fun label hmem => (h label hmem).1

/-- The labels that the text of labels stands for: each of them is divided at its
dots, and empty pieces are left out. -/
def divided (labels : List String) : List String :=
  labels.flatMap Name.labels

/-- The octets of labels in full, the root label behind them. -/
def fullOctets (labels : List String) : List UInt8 :=
  labels.flatMap labelOctets ++ [0]

/-! ## Text and labels -/

theorem toList_ofLabels (labels : List String) :
    (ofLabels labels).toList = labels.flatMap (·.toList ++ ['.']) := by
  simp [ofLabels, List.flatMap_map]

theorem ofLabels_cons (label : String) (labels : List String) :
    ofLabels (label :: labels) = label ++ "." ++ ofLabels labels := by
  apply String.toList_inj.mp
  simp [toList_ofLabels]

theorem pieces_append_dot (label rest : String) :
    pieces (label ++ "." ++ rest) = pieces label ++ pieces rest := by
  have hchars : (label ++ "." ++ rest).toList = label.toList ++ '.' :: rest.toList := by simp
  rw [pieces, hchars, List.splitOn_append_cons_self, List.map_append]
  rfl

theorem labels_ofLabels (labels : List String) : (ofLabels labels).labels = divided labels := by
  induction labels with
  | nil => rfl
  | cons label rest ih =>
    rw [ofLabels_cons, Name.labels, pieces_append_dot, List.filter_append, divided,
      List.flatMap_cons]
    exact congrArg (Name.labels label ++ ·) ih

/-- What stands between dots is a part of the text and has no dots itself. -/
theorem sublist_of_mem_splitOn {chars piece : List Char} (h : piece ∈ chars.splitOn '.') :
    piece.Sublist chars ∧ '.' ∉ piece := by
  induction chars generalizing piece with
  | nil => simp_all
  | cons char rest ih =>
    obtain ⟨head, tail, hsplit⟩ := List.exists_cons_of_ne_nil (List.splitOn_ne_nil '.' rest)
    rw [List.splitOn_cons_eq_if_modifyHead] at h
    split at h
    · rcases List.mem_cons.mp h with rfl | h
      · simp
      · exact ⟨(ih h).1.cons char, (ih h).2⟩
    · rename_i hchar
      rw [hsplit, List.modifyHead_cons] at h
      rcases List.mem_cons.mp h with rfl | h
      · obtain ⟨hsub, hdot⟩ := ih (hsplit ▸ List.mem_cons_self)
        have hne : '.' ≠ char := fun heq => hchar (beq_iff_eq.mpr heq.symm)
        exact ⟨hsub.cons_cons char, List.not_mem_cons_of_ne_of_not_mem hne hdot⟩
      · obtain ⟨hsub, hdot⟩ := ih (hsplit ▸ List.mem_cons_of_mem head h)
        exact ⟨hsub.cons char, hdot⟩

theorem utf8ByteSize_le_of_sublist {chars text : List Char} (h : chars.Sublist text) :
    (String.ofList chars).utf8ByteSize ≤ (String.ofList text).utf8ByteSize := by
  induction h with
  | slnil => exact Nat.le_refl _
  | @cons chars text char hsub ih =>
    rw [String.ofList_cons, String.utf8ByteSize_append]
    omega
  | @cons_cons chars text char hsub ih =>
    rw [String.ofList_cons, String.ofList_cons, String.utf8ByteSize_append,
      String.utf8ByteSize_append]
    omega

theorem le_and_dotless_of_mem_pieces {name : Name} {piece : String} (h : piece ∈ name.pieces) :
    piece.utf8ByteSize ≤ name.utf8ByteSize ∧ '.' ∉ piece.toList := by
  obtain ⟨chars, hchars, rfl⟩ := List.mem_map.mp h
  obtain ⟨hsub, hdot⟩ := sublist_of_mem_splitOn hchars
  have hsize := utf8ByteSize_le_of_sublist hsub
  rw [String.ofList_toList] at hsize
  exact ⟨hsize, by simpa using hdot⟩

theorem le_and_dotless_of_mem_labels {name : Name} (h : label ∈ name.labels) :
    label.utf8ByteSize ≤ name.utf8ByteSize ∧ '.' ∉ label.toList :=
  le_and_dotless_of_mem_pieces (List.mem_filter.mp h).1

theorem dotless_divided (labels : List String) : Dotless (divided labels) := by
  intro part hpart
  obtain ⟨label, _, hmem⟩ := List.mem_flatMap.mp hpart
  exact (le_and_dotless_of_mem_labels hmem).2

/-- Dividing labels does not make them longer. -/
theorem Fitting.divided (h : Fitting labels) : Fitting (divided labels) := by
  intro part hpart
  obtain ⟨label, hlabel, hmem⟩ := List.mem_flatMap.mp hpart
  have hle := (le_and_dotless_of_mem_labels hmem).1
  exact ⟨ne_empty_of_mem_labels hmem, Nat.le_trans hle (h label hlabel).2⟩

theorem divided_of_dotless (hlabels : ∀ label ∈ labels, label ≠ "") (hdot : Dotless labels) :
    divided labels = labels := by
  induction labels with
  | nil => rfl
  | cons label rest ih =>
    obtain ⟨hne, hneRest⟩ := List.forall_mem_cons.mp hlabels
    obtain ⟨hfirst, hdotRest⟩ := List.forall_mem_cons.mp hdot
    have hwhole : Name.labels label = [label] := by
      simp [Name.labels, pieces, List.splitOn_eq_singleton hfirst, hne]
    have hrest : List.flatMap Name.labels rest = rest := ih hneRest hdotRest
    rw [Name.divided, List.flatMap_cons, hwhole, hrest]
    rfl

/-! ## Labels and octets -/

/-- The length of the first of some labels that is too long for a message. -/
def overlong? (labels : List String) : Option Nat :=
  (labels.map String.utf8ByteSize).find? (maxLabelLength < ·)

theorem overlong?_eq_none_iff :
    overlong? labels = none ↔ ∀ label ∈ labels, label.utf8ByteSize ≤ maxLabelLength := by
  simp [overlong?]

/-- Labels are refused for the first one that is too long. -/
theorem writeLabels_eq (labels : List String) :
    writeLabels labels =
      match overlong? labels with
      | some length => .error (.labelTooLong length)
      | none => .ok (fullOctets labels) := by
  induction labels with
  | nil => rfl
  | cons label rest ih =>
    rw [writeLabels]
    by_cases hlong : maxLabelLength < label.utf8ByteSize
    · rw [if_pos hlong]
      simp [overlong?, hlong]
    · have hrest : overlong? (label :: rest) = overlong? rest := by
        simp [overlong?, hlong]
      rw [if_neg hlong, ih, hrest]
      cases overlong? rest with
      | some length => rfl
      | none => simp [Except.map, fullOctets]

theorem writeLabels_of_fitting (h : Fitting labels) :
    writeLabels labels = .ok (fullOctets labels) := by
  rw [writeLabels_eq, overlong?_eq_none_iff.mpr fun label hmem => (h label hmem).2]

/-- Labels can be told from their octets. -/
theorem Fitting.fullOctets_inj (h : Fitting labels) (hothers : Fitting others)
    (heq : fullOctets labels = fullOctets others) : labels = others := by
  have hplaced : Message.HasAt (fullOctets labels).toArray 0 (fullOctets labels) := by
    rw [Message.HasAt]
    simp
  -- both sequences are laid out in the message that consists of these octets
  have hlaid : LaidOut (fullOctets labels).toArray 0 0 labels _ :=
    .of_writeLabels h.ne_empty (writeLabels_of_fitting h) hplaced
  have hlaidOthers : LaidOut (fullOctets labels).toArray 0 0 others _ :=
    .of_writeLabels hothers.ne_empty (writeLabels_of_fitting hothers) (heq ▸ hplaced)
  exact hlaid.labels_unique hlaidOthers

/-- The labels of a name in a message fit into a message. -/
theorem LaidOut.fitting {message : Message} {floor position stop : Nat}
    (h : LaidOut message floor position labels stop) : Fitting labels := by
  induction h with
  | root => exact fun _ hmem => absurd hmem List.not_mem_nil
  | label hne hlength hlabel hrest ih => exact List.forall_mem_cons.mpr ⟨⟨hne, hlength⟩, ih⟩
  | reference hfloor hlimit hreference htarget ih => exact ih

/-- Labels that were spelled out can be written, divided at their dots. -/
theorem write_ofLabels (h : Fitting labels) :
    (ofLabels labels).write = .ok (fullOctets (divided labels)) := by
  rw [write, labels_ofLabels]
  exact writeLabels_of_fitting h.divided

/-- Labels that were spelled out are written as they were just if none of them
has a dot. -/
theorem write_ofLabels_eq_iff (h : Fitting labels) :
    (ofLabels labels).write = .ok (fullOctets labels) ↔ Dotless labels := by
  rw [write_ofLabels h, Except.ok.injEq]
  constructor
  · intro heq
    rw [← h.divided.fullOctets_inj h heq]
    exact dotless_divided labels
  · intro hdot
    rw [divided_of_dotless h.ne_empty hdot]

end Name

end ServiceDiscovery

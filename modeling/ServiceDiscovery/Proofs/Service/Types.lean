import ServiceDiscovery.Proofs.Service.Domains

/-!
# Texts of service types

Which texts are read as service types. `ServiceType.Spelled` is the grammar of their
names: a protocol, alone or behind the label of a service and a dot. A text is read as
a service type just if it is such a name, with a final dot or without
(`ServiceType.parse_eq_ok_iff`), and otherwise it is refused as it stands
(`ServiceType.parse_spelled`).
-/

namespace ServiceDiscovery

/-! ## Names and their pieces -/

namespace Name

variable {name text : Name}

theorem intercalate_pieces (name : Name) : ".".intercalate name.pieces = name := by
  have hdotText : ".".toList = ['.'] := rfl
  have hchars : (String.toList ∘ String.ofList) = (id : List Char → List Char) :=
    funext fun chars => String.toList_ofList
  apply String.toList_inj.mp
  rw [String.toList_intercalate, hdotText, pieces, List.map_map, hchars, List.map_id,
    List.intercalate_splitOn]

/-- A name without empty pieces is what is left of itself and of itself with a final
dot, and of no other text. -/
theorem dropFinalDot_eq_iff (h : "" ∉ name.pieces) :
    dropFinalDot text = name ↔ text = name ∨ text = name ++ "." := by
  constructor
  · intro hdrop
    rw [dropFinalDot] at hdrop
    split at hdrop
    · rename_i hlast
      obtain ⟨front, hfront⟩ := List.getLast?_eq_some_iff.mp hlast
      right
      apply String.toList_inj.mp
      simp [← hdrop, hfront]
    · exact Or.inl hdrop
  · rintro (rfl | rfl)
    · exact dropFinalDot_eq_self h
    · exact dropFinalDot_append_dot name

end Name

/-! ## Labels of services -/

/-- A letter, a digit or a hyphen of ASCII. -/
def IsServiceCharacter (c : Char) : Prop :=
  ('A' ≤ c ∧ c ≤ 'Z') ∨ ('a' ≤ c ∧ c ≤ 'z') ∨ ('0' ≤ c ∧ c ≤ '9') ∨ c = '-'

/-- What stands behind the underscore in the label of a service. -/
structure IsServiceBody (body : String) : Prop where
  one_le_length : 1 ≤ body.length
  length_le : body.length ≤ 62
  characters : ∀ c ∈ body.toList, IsServiceCharacter c

theorem isServiceCharacter_iff {c : Char} :
    IsServiceCharacter c ↔ (c.isAlphanum || c = '-') = true := by
  have hupper : c.isUpper = true ↔ 'A' ≤ c ∧ c ≤ 'Z' := decide_eq_true_iff
  have hlower : c.isLower = true ↔ 'a' ≤ c ∧ c ≤ 'z' :=
    (Bool.and_eq_true_iff).trans (and_congr decide_eq_true_iff decide_eq_true_iff)
  have hdigit : c.isDigit = true ↔ '0' ≤ c ∧ c ≤ '9' :=
    (Bool.and_eq_true_iff).trans (and_congr decide_eq_true_iff decide_eq_true_iff)
  have hclasses : c.isAlphanum = (c.isUpper || c.isLower || c.isDigit) := rfl
  rw [hclasses]
  simp only [Bool.or_eq_true, decide_eq_true_eq, hupper, hlower, hdigit, or_assoc,
    IsServiceCharacter]

theorem IsServiceCharacter.utf8Size_eq {c : Char} (h : IsServiceCharacter c) :
    c.utf8Size = 1 := by
  rw [Char.utf8Size_eq_one_iff, UInt32.le_iff_toNat_le]
  simp only [IsServiceCharacter, Char.le_def, UInt32.le_iff_toNat_le] at h
  rcases h with ⟨-, h⟩ | ⟨-, h⟩ | ⟨-, h⟩ | rfl
  · exact Nat.le_trans h (by decide)
  · exact Nat.le_trans h (by decide)
  · exact Nat.le_trans h (by decide)
  · decide

/-- Each of these characters takes one octet. -/
theorem utf8ByteSize_of_isServiceCharacter {chars : List Char}
    (h : ∀ c ∈ chars, IsServiceCharacter c) :
    (String.ofList chars).utf8ByteSize = chars.length := by
  induction chars with
  | nil => rfl
  | cons c rest ih =>
    obtain ⟨hfirst, hrest⟩ := List.forall_mem_cons.mp h
    rw [String.ofList_cons, String.utf8ByteSize_append, String.utf8ByteSize_singleton,
      hfirst.utf8Size_eq, ih hrest, List.length_cons, Nat.add_comm]

theorem IsServiceBody.utf8ByteSize_eq {body : String} (h : IsServiceBody body) :
    body.utf8ByteSize = body.length := by
  have hsize := utf8ByteSize_of_isServiceCharacter h.characters
  rwa [String.ofList_toList, String.length_toList] at hsize

/-- The greatest length of a label counts the underscore too. -/
theorem isServiceLabel_iff {label : String} :
    isServiceLabel label = true ↔ ∃ body, IsServiceBody body ∧ label = "_" ++ body := by
  constructor
  · intro h
    rw [isServiceLabel] at h
    split at h
    · rename_i body hchars
      simp only [Bool.and_eq_true, decide_eq_true_eq, List.all_eq_true] at h
      obtain ⟨⟨hne, hsize⟩, hall⟩ := h
      have hcharacters : ∀ c ∈ body, IsServiceCharacter c :=
        fun c hmem => isServiceCharacter_iff.mpr (hall c hmem)
      have hlabel : label = "_" ++ String.ofList body := by
        apply String.toList_inj.mp
        simp [hchars]
      rw [hlabel, String.utf8ByteSize_append, utf8ByteSize_of_isServiceCharacter hcharacters]
        at hsize
      have hunderscore : "_".utf8ByteSize = 1 := rfl
      rw [hunderscore, Name.maxLabelLength] at hsize
      refine ⟨String.ofList body, ⟨?_, ?_, ?_⟩, hlabel⟩
      · rw [String.length_ofList]
        exact List.length_pos_iff.mpr hne
      · rw [String.length_ofList]
        omega
      · rwa [String.toList_ofList]
    · cases h
  · rintro ⟨body, hbody, rfl⟩
    have hchars : ("_" ++ body).toList = '_' :: body.toList := by simp
    have hne : body.toList ≠ [] := by
      rw [← List.length_pos_iff, String.length_toList]
      exact hbody.one_le_length
    have hsize : ("_" ++ body).utf8ByteSize ≤ Name.maxLabelLength := by
      have hunderscore : "_".utf8ByteSize = 1 := rfl
      have hlength := hbody.length_le
      rw [String.utf8ByteSize_append, hunderscore, hbody.utf8ByteSize_eq, Name.maxLabelLength]
      omega
    rw [isServiceLabel, hchars]
    simp only [Bool.and_eq_true, decide_eq_true_eq, List.all_eq_true]
    exact ⟨⟨hne, hsize⟩, fun c hmem => isServiceCharacter_iff.mp (hbody.characters c hmem)⟩

/-! ## Names of service types -/

namespace ServiceType

/-- The grammar of service types: the labels that one can have and the name that they
are joined to. -/
inductive Spelled : (labels : List String) → (name : String) → Prop where
  | protocol {protocol : String} (hprotocol : protocol = "_tcp" ∨ protocol = "_udp") :
      Spelled [protocol] protocol
  | service {body protocol : String} (hbody : IsServiceBody body)
      (hprotocol : protocol = "_tcp" ∨ protocol = "_udp") :
      Spelled ["_" ++ body, protocol] ("_" ++ body ++ "." ++ protocol)

variable {type : ServiceType} {labels : List String} {name text : String}
  {cause : DiscoveryError}

theorem exists_label_eq_iff {protocol : String} :
    (∃ known : Protocol, known.label = protocol) ↔ protocol = "_tcp" ∨ protocol = "_udp" := by
  constructor
  · rintro ⟨_ | _, rfl⟩
    · exact Or.inl rfl
    · exact Or.inr rfl
  · rintro (rfl | rfl)
    · exact ⟨.tcp, rfl⟩
    · exact ⟨.udp, rfl⟩

/-- A service type has labels and a name of the grammar. -/
theorem spelled (type : ServiceType) : Spelled type.labels type.name := by
  obtain ⟨service, protocol, hvalid⟩ := type
  have hprotocol := exists_label_eq_iff.mp ⟨protocol, rfl⟩
  cases service with
  | none => exact .protocol hprotocol
  | some service =>
    obtain ⟨body, hbody, rfl⟩ := isServiceLabel_iff.mp (hvalid service rfl)
    exact .service hbody hprotocol

/-- All of the grammar are labels and names of service types. -/
theorem Spelled.exists_type (h : Spelled labels name) :
    ∃ type : ServiceType, type.labels = labels ∧ type.name = name := by
  cases h with
  | protocol hprotocol =>
    obtain ⟨known, rfl⟩ := exists_label_eq_iff.mpr hprotocol
    exact ⟨⟨none, known, by simp⟩, rfl, rfl⟩
  | @service body _ hbody hprotocol =>
    obtain ⟨known, rfl⟩ := exists_label_eq_iff.mpr hprotocol
    have hlabel := isServiceLabel_iff.mpr ⟨body, hbody, rfl⟩
    exact ⟨⟨some ("_" ++ body), known, by simpa using hlabel⟩, rfl, rfl⟩

theorem pieces_name (type : ServiceType) : Name.pieces type.name = type.labels :=
  Name.pieces_intercalate (by simp [labels]) fun _ hmem => (isPlain_of_mem_labels hmem).2.2

theorem ofLabels?_labels (type : ServiceType) : ofLabels? type.labels = some type := by
  obtain ⟨service, protocol, hvalid⟩ := type
  have hknown := Protocol.ofLabel?_eq_some_iff.mpr (rfl : protocol.label = _)
  cases service with
  | none => simp [labels, ofLabels?, hknown]
  | some service => simp [labels, ofLabels?, hknown, hvalid service rfl]

theorem ofLabels?_eq_some_iff : ofLabels? labels = some type ↔ labels = type.labels := by
  constructor
  · intro h
    unfold ofLabels? at h
    split at h
    · obtain ⟨known, hknown, rfl⟩ := Option.map_eq_some_iff.mp h
      rw [Protocol.ofLabel?_eq_some_iff.mp hknown]
      rfl
    · split at h
      · obtain ⟨known, hknown, rfl⟩ := Option.map_eq_some_iff.mp h
        rw [Protocol.ofLabel?_eq_some_iff.mp hknown]
        rfl
      · cases h
    · cases h
  · rintro rfl
    exact ofLabels?_labels type

/-! ## Reading a service type -/

/-- A text that is read as a service type: a name of the grammar, with a final dot or
without. -/
def IsText (text : String) : Prop :=
  ∃ labels name, Spelled labels name ∧ (text = name ∨ text = name ++ ".")

/-- A service type is read from its name, with a final dot or without, and from no
other text. -/
theorem parse_eq_ok_iff : parse text = .ok type ↔ text = type.name ∨ text = type.name ++ "." := by
  have hfinal : "" ∉ Name.pieces type.name := by
    rw [pieces_name]
    exact fun hmem => (isPlain_of_mem_labels hmem).1 rfl
  have hlabels : parse text = .ok type ↔ (Name.dropFinalDot text).pieces = type.labels := by
    rw [← ofLabels?_eq_some_iff, parse]
    cases ofLabels? (Name.dropFinalDot text).pieces <;> simp
  have hname : (Name.dropFinalDot text).pieces = type.labels ↔
      Name.dropFinalDot text = type.name := by
    constructor
    · intro h
      rw [name, ← h, Name.intercalate_pieces]
    · intro h
      rw [h, pieces_name]
  rw [hlabels, hname, Name.dropFinalDot_eq_iff hfinal]

theorem exists_parse_eq_ok_iff : (∃ type, parse text = .ok type) ↔ IsText text := by
  constructor
  · rintro ⟨type, h⟩
    exact ⟨type.labels, type.name, type.spelled, parse_eq_ok_iff.mp h⟩
  · rintro ⟨labels, name, hspelled, htext⟩
    obtain ⟨type, -, rfl⟩ := hspelled.exists_type
    exact ⟨type, parse_eq_ok_iff.mpr htext⟩

theorem parse_eq_error_iff :
    parse text = .error cause ↔ ¬IsText text ∧ cause = .invalidServiceType text := by
  rw [← exists_parse_eq_ok_iff, parse]
  cases ofLabels? (Name.dropFinalDot text).pieces <;> simp [eq_comm]

/-- A text is read as a service type just if it is a protocol, alone or behind a
service and a dot, with a final dot or without. The name of the service type is the
text without the final dot, its labels are the pieces of the name and joined by dots
they are the name, and what is shown of it is read back. Every other text is refused,
and the cause tells the text. -/
theorem parse_spelled (text : String) :
    ((∃ type, parse text = .ok type) ↔ IsText text) ∧
    (∀ type, parse text = .ok type →
      (text = type.name ∨ text = type.name ++ ".") ∧ Spelled type.labels type.name ∧
      Name.pieces type.name = type.labels ∧ ".".intercalate type.labels = type.name ∧
      parse type.display = .ok type) ∧
    ∀ cause, parse text = .error cause ↔ ¬IsText text ∧ cause = .invalidServiceType text := by
  refine ⟨exists_parse_eq_ok_iff, fun type h => ?_, fun cause => parse_eq_error_iff⟩
  exact ⟨parse_eq_ok_iff.mp h, type.spelled, type.pieces_name, rfl,
    parse_eq_ok_iff.mpr (Or.inl rfl)⟩

/-- A service of the greatest length. -/
def longestService : ServiceType where
  service := some ("_" ++ .ofList (.replicate 62 'a'))
  protocol := .udp
  service_valid := by decide +kernel

/-- The longest service is read with a final dot. With one letter more it is no service
type, and neither is one with two final dots. -/
theorem parse_spelled_longest :
    parse ("_" ++ .ofList (.replicate 62 'a') ++ "._udp.") = .ok longestService ∧
      Spelled longestService.labels longestService.name ∧
      parse longestService.display = .ok longestService ∧
      ∀ text ∈ ["_" ++ .ofList (.replicate 63 'a') ++ "._udp.", "_udp.."], ¬IsText text := by
  have hread : parse ("_" ++ .ofList (.replicate 62 'a') ++ "._udp.") = .ok longestService := by
    decide +kernel
  have hrefused : ∀ text ∈ ["_" ++ .ofList (.replicate 63 'a') ++ "._udp.", "_udp.."],
      parse text = .error (.invalidServiceType text) := by
    decide +kernel
  obtain ⟨-, hspelled, -, -, hdisplay⟩ := (parse_spelled _).2.1 _ hread
  exact ⟨hread, hspelled, hdisplay,
    fun text hmem => (((parse_spelled text).2.2 _).mp (hrefused text hmem)).1⟩

end ServiceType

end ServiceDiscovery

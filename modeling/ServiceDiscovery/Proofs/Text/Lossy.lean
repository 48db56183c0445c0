import ServiceDiscovery.Proofs.Octets.Placement
import ServiceDiscovery.Proofs.Text.Characters

/-!
# What the text of octets is

`Text.Lossy` tells the text of any octets: characters stand for themselves, and where
none begins, the longest part that begins one, or else a single octet, becomes a
replacement character. `Text.ofOctets` gives that text and no other
(`Text.ofOctets_eq_iff`).
-/

namespace ServiceDiscovery

namespace Text

variable {lead : UInt8} {octets part rest : List UInt8} {chars others : List Char} {text : String}

/-- No character begins with `part ++ rest`, and `part` is what is replaced of it: the
longest part that begins a character, or one octet if there is none. -/
structure Broken (part rest : List UInt8) : Prop where
  ne_nil : part ≠ []
  not_char : ∀ c, ¬String.utf8EncodeChar c <+: part ++ rest
  begins : 1 < part.length → Begins part
  longest : ∀ longer, longer <+: part ++ rest → part.length < longer.length → ¬Begins longer

/-- Octets read as text, with a replacement character for each part that is
broken. -/
inductive Lossy : (octets : List UInt8) → (chars : List Char) → Prop where
  | nil : Lossy [] []
  | char {rest : List UInt8} {chars : List Char} (c : Char) (hrest : Lossy rest chars) :
      Lossy (String.utf8EncodeChar c ++ rest) (c :: chars)
  | broken {part rest : List UInt8} {chars : List Char} (hpart : Broken part rest)
      (hrest : Lossy rest chars) : Lossy (part ++ rest) ('\uFFFD' :: chars)

/-! ## There is one text -/

theorem utf8EncodeChar_append_inj {c other : Char} {otherRest : List UInt8}
    (h : String.utf8EncodeChar c ++ rest = String.utf8EncodeChar other ++ otherRest) :
    c = other ∧ rest = otherRest := by
  have hbytes := congrArg List.toByteArray h
  rw [List.toByteArray_append, List.toByteArray_append] at hbytes
  have hc := @ByteArray.utf8DecodeChar?_utf8EncodeChar_append rest.toByteArray c
  rw [hbytes, ByteArray.utf8DecodeChar?_utf8EncodeChar_append, Option.some.injEq] at hc
  subst hc
  exact ⟨rfl, List.append_cancel_left h⟩

theorem Broken.length_le {otherPart otherRest : List UInt8} (h : Broken part rest)
    (hother : Broken otherPart otherRest) (heq : part ++ rest = otherPart ++ otherRest) :
    otherPart.length ≤ part.length := by
  refine Nat.le_of_not_lt fun hlonger => ?_
  have hpositive := List.length_pos_iff.mpr h.ne_nil
  refine h.longest otherPart ?_ (by omega) (hother.begins (by omega))
  rw [heq]
  exact List.prefix_append otherPart otherRest

/-- Octets have no other text than one. -/
theorem Lossy.unique (h : Lossy octets chars) (hother : Lossy octets others) :
    chars = others := by
  induction h generalizing others with
  | nil =>
    generalize hoctets : ([] : List UInt8) = octets at hother
    cases hother with
    | nil => rfl
    | char c =>
      have hnone := (List.append_eq_nil_iff.mp hoctets.symm).1
      exact absurd hnone String.utf8EncodeChar_ne_nil
    | broken hpart => exact absurd (List.append_eq_nil_iff.mp hoctets.symm).1 hpart.ne_nil
  | @char rest chars c hrest ih =>
    generalize hoctets : String.utf8EncodeChar c ++ rest = octets at hother
    cases hother with
    | nil => exact absurd (List.append_eq_nil_iff.mp hoctets).1 String.utf8EncodeChar_ne_nil
    | char other hotherRest =>
      obtain ⟨rfl, rfl⟩ := utf8EncodeChar_append_inj hoctets
      rw [ih hotherRest]
    | broken hpart =>
      refine absurd ?_ (hpart.not_char c)
      rw [← hoctets]
      exact List.prefix_append _ rest
  | @broken part rest chars hpart hrest ih =>
    generalize hoctets : part ++ rest = octets at hother
    cases hother with
    | nil => exact absurd (List.append_eq_nil_iff.mp hoctets).1 hpart.ne_nil
    | char other =>
      refine absurd ?_ (hpart.not_char other)
      rw [hoctets]
      exact List.prefix_append _ _
    | broken hotherPart hotherRest =>
      have hlength := Nat.le_antisymm (hotherPart.length_le hpart hoctets.symm)
        (hpart.length_le hotherPart hoctets)
      obtain ⟨-, rfl⟩ := List.append_inj hoctets hlength
      rw [ih hotherRest]

/-! ## Octets that are text -/

theorem toUTF8_toList (text : String) :
    text.toUTF8.data.toList = text.toList.flatMap String.utf8EncodeChar := by
  have hbytes : text.toByteArray = text.toList.utf8Encode := by
    rw [← String.toByteArray_ofList, String.ofList_toList]
  rw [String.toUTF8_eq_toByteArray, hbytes, List.utf8Encode, List.data_toByteArray]

theorem lossy_flatMap (chars : List Char) :
    Lossy (chars.flatMap String.utf8EncodeChar) chars := by
  induction chars with
  | nil => exact .nil
  | cons c chars ih => exact .char c ih

theorem ofOctets?_utf8EncodeChar (c : Char) :
    ofOctets? (String.utf8EncodeChar c) = some (String.singleton c) := by
  apply Octets.fromUTF8?_of_toList
  rw [toUTF8_toList]
  simp

/-- Broken octets are no text. -/
theorem Broken.ofOctets?_eq_none (h : Broken part rest) : ofOctets? part = none := by
  cases htext : ofOctets? part with
  | none => rfl
  | some text =>
    have hoctets : text.toUTF8.data.toList = part := Octets.toList_of_fromUTF8? htext
    rw [toUTF8_toList] at hoctets
    cases hchars : text.toList with
    | nil =>
      rw [hchars] at hoctets
      exact absurd hoctets.symm h.ne_nil
    | cons c chars =>
      refine absurd ?_ (h.not_char c)
      rw [hchars, List.flatMap_cons] at hoctets
      rw [← hoctets, List.append_assoc]
      exact List.prefix_append _ _

/-! ## Octets that are cut -/

/-- The number of octets behind a lead octet that lie in the ranges for it. -/
def following (lead : UInt8) (rest : List UInt8) : Nat :=
  tailLength ((tailRanges lead).getD []) rest

theorem following_of_ranges {ranges : List (UInt8 × UInt8)}
    (hranges : tailRanges lead = some ranges) : following lead rest = tailLength ranges rest := by
  rw [following, hranges, Option.getD_some]

/-- Octets of a sequence begin a character just if they lie in the ranges for its lead
octet, and these are as many as the sequence has first octets that do. -/
theorem begins_take_iff {count : Nat} (hcount : count ≤ rest.length) :
    Begins (lead :: rest.take count) ↔
      ∃ ranges, tailRanges lead = some ranges ∧ count ≤ tailLength ranges rest := by
  rw [begins_cons_iff]
  refine exists_congr fun ranges => and_congr_right fun _ => ?_
  rw [tailLength_take, List.length_take]
  omega

theorem begins_take_iff_le_following {count : Nat} (hpositive : 0 < count)
    (hcount : count ≤ rest.length) :
    Begins (lead :: rest.take count) ↔ count ≤ following lead rest := by
  rw [begins_take_iff hcount]
  constructor
  · rintro ⟨ranges, hranges, hle⟩
    rwa [following_of_ranges hranges]
  · intro hle
    cases hranges : tailRanges lead with
    | none =>
      have hnone : following lead rest = 0 := by simp [following, hranges, tailLength]
      omega
    | some ranges =>
      rw [following_of_ranges hranges] at hle
      exact ⟨ranges, rfl, hle⟩

/-- A character at the beginning of octets is all that lies in the ranges for its lead
octet. -/
theorem eq_take_following_of_char {c : Char} (h : String.utf8EncodeChar c <+: lead :: rest) :
    String.utf8EncodeChar c = lead :: rest.take (following lead rest) := by
  obtain ⟨first, tail, hc⟩ := List.exists_cons_of_ne_nil (@String.utf8EncodeChar_ne_nil c)
  rw [hc] at h ⊢
  obtain ⟨rfl, htail⟩ := List.cons_prefix_cons.mp h
  obtain ⟨ranges, hranges, hlength, hfills⟩ := exists_char_iff.mp ⟨c, hc⟩
  have htake := tailLength_take ranges rest tail.length
  rw [← List.prefix_iff_eq_take.mp htail, hfills] at htake
  have hmost := @tailLength_le_ranges rest ranges
  have hcount : following first rest = tail.length := by
    rw [following_of_ranges hranges]
    omega
  rw [hcount, ← List.prefix_iff_eq_take.mp htail]

/-- What is cut off in front of octets is a character, or it is broken. -/
theorem char_or_broken (lead : UInt8) (rest : List UInt8) :
    (∃ c, String.utf8EncodeChar c = lead :: rest.take (following lead rest)) ∨
      Broken (lead :: rest.take (following lead rest)) (rest.drop (following lead rest)) := by
  by_cases hchar : ∃ c, String.utf8EncodeChar c = lead :: rest.take (following lead rest)
  · exact Or.inl hchar
  have hwhole : lead :: rest.take (following lead rest) ++ rest.drop (following lead rest) =
      lead :: rest := by simp
  have hinside : following lead rest ≤ rest.length := tailLength_le_length
  refine Or.inr { ne_nil := List.cons_ne_nil _ _, not_char := ?_, begins := ?_, longest := ?_ }
  · intro c hc
    rw [hwhole] at hc
    exact hchar ⟨c, eq_take_following_of_char hc⟩
  · intro hlong
    rw [List.length_cons, List.length_take] at hlong
    exact (begins_take_iff_le_following (by omega) hinside).mpr (Nat.le_refl _)
  · intro longer hlonger hlength hbegins
    rw [hwhole] at hlonger
    rw [List.length_cons, List.length_take] at hlength
    obtain ⟨count, hcount⟩ : ∃ count, longer.length = count + 1 := ⟨longer.length - 1, by omega⟩
    have hle : count ≤ rest.length := by
      have hprefix := hlonger.length_le
      rw [List.length_cons] at hprefix
      omega
    rw [List.prefix_iff_eq_take.mp hlonger, hcount, List.take_succ_cons,
      begins_take_iff_le_following (by omega) hle] at hbegins
    omega

/-- Octets that are cut into parts are read part by part. -/
theorem lossy_sequences (octets : List UInt8) :
    Lossy octets (String.join ((sequences octets).map
      fun octets => (ofOctets? octets).getD "\uFFFD")).toList := by
  induction octets using sequences.induct with
  | case1 =>
    rw [sequences]
    exact .nil
  | case2 lead rest length ih =>
    have hwhole : lead :: rest = lead :: rest.take length ++ rest.drop length := by simp
    have hsequences : sequences (lead :: rest) =
        (lead :: rest.take length) :: sequences (rest.drop length) := by rw [sequences]
    rw [hsequences, List.map_cons, String.join_cons, String.toList_append, hwhole]
    rcases char_or_broken lead rest with ⟨c, hc⟩ | hbroken
    · have hc : String.utf8EncodeChar c = lead :: rest.take length := hc
      rw [← hc, ofOctets?_utf8EncodeChar, Option.getD_some, String.toList_singleton]
      exact .char c ih
    · have hbroken : Broken (lead :: rest.take length) (rest.drop length) := hbroken
      rw [hbroken.ofOctets?_eq_none]
      exact .broken hbroken ih

theorem lossy_ofOctets (octets : List UInt8) : Lossy octets (ofOctets octets).toList := by
  rw [ofOctets]
  split
  · rename_i text htext
    have hoctets : text.toUTF8.data.toList = octets := Octets.toList_of_fromUTF8? htext
    rw [← hoctets, toUTF8_toList]
    exact lossy_flatMap text.toList
  · exact lossy_sequences octets

/-- The text of octets is the one that is read with replacement characters for their
broken parts. -/
theorem ofOctets_eq_iff : ofOctets octets = text ↔ Lossy octets text.toList := by
  constructor
  · rintro rfl
    exact lossy_ofOctets octets
  · intro h
    exact String.toList_inj.mp ((lossy_ofOctets octets).unique h)

end Text

end ServiceDiscovery

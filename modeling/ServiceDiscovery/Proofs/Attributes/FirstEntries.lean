import ServiceDiscovery.Proofs.Attributes.RoundTrip
import ServiceDiscovery.Proofs.Text.Lossy

/-!
# Attributes that are read

Octets stand for attributes just if they are made of strings, each behind the octet
that counts it (`Attributes.MadeOf`). Of several strings for one key the first counts:
inserting keeps what a key has (`Attributes.get?_insert`), so a map that is built from
entries has the first of them for each key (`Attributes.get?_ofList`), and attributes
that are read have what the first string for a key says (`Attributes.get?_decode`).
-/

namespace ServiceDiscovery

namespace Ascending

variable {α κ : Type} [LT κ] [LE κ] [DecidableEq κ] [DecidableLT κ] [Std.IsLinearOrder κ]
  [Std.LawfulOrderLT κ] {key : α → κ} {elements : List α}

/-- Adding an element changes what is found under its own key only, and only if nothing
was found there. -/
theorem find?_insert (h : Ascending key elements) (a : α) (k : κ) :
    (insert key a elements).find? (fun b => key b = k) =
      (elements.find? fun b => key b = k).or (if key a = k then some a else none) := by
  induction elements with
  | nil => by_cases hk : key a = k <;> simp [insert, hk]
  | cons b rest ih =>
    obtain ⟨hb, hrest⟩ := List.pairwise_cons.mp h
    rw [insert]
    by_cases hab : key a < key b
    · -- no element behind the new one has its key
      have hlt : ∀ c ∈ b :: rest, key a < key c :=
        List.forall_mem_cons.mpr ⟨hab, fun c hc => Std.lt_trans hab (hb c hc)⟩
      rw [if_pos hab]
      by_cases hk : key a = k
      · have hnone : (b :: rest).find? (fun c => key c = k) = none := by
          rw [List.find?_eq_none]
          intro c hc hck
          have heq : key c = key a := (of_decide_eq_true hck).trans hk.symm
          exact Std.lt_irrefl (heq ▸ hlt c hc)
        rw [List.find?_cons, hnone, if_pos hk]
        simp [hk]
      · simp [hk]
    rw [if_neg hab]
    by_cases hba : key b < key a
    · rw [if_pos hba, List.find?_cons, List.find?_cons]
      by_cases hk : key b = k
      · simp [hk]
      · simp only [hk, decide_false, ih hrest]
    · -- the key is there already, and its element stays
      have heq : key a = key b := Std.le_antisymm (Std.not_lt.mp hba) (Std.not_lt.mp hab)
      rw [if_neg hba, List.find?_cons, heq]
      by_cases hk : key b = k <;> simp [hk]

end Ascending

namespace Attributes

variable {octets string : List UInt8} {strings : List (List UInt8)} {key value text : String}
  {attributes : Attributes} {entries : List (String × String)} {entry : String × String}

/-! ## Lookups -/

/-- A key that has a value keeps it, and only the key of the entry may get one. -/
theorem get?_insert (attributes : Attributes) (entry : String × String) (key : String) :
    (attributes.insert entry).get? key =
      (attributes.get? key).or (if entry.1 = key then some entry.2 else none) := by
  rw [get?, get?, insert, Ascending.find?_insert attributes.ascending]
  cases attributes.toList.find? (fun found => found.1 = key) with
  | some found => rfl
  | none => by_cases hkey : entry.1 = key <;> simp [hkey]

theorem get?_foldl_insert (entries : List (String × String)) (attributes : Attributes)
    (key : String) :
    (entries.foldl insert attributes).get? key =
      (attributes.get? key).or ((entries.find? fun entry => entry.1 = key).map Prod.snd) := by
  induction entries generalizing attributes with
  | nil => simp
  | cons entry rest ih =>
    rw [List.foldl_cons, ih, get?_insert, Option.or_assoc, List.find?_cons]
    by_cases hkey : entry.1 = key <;> simp [hkey]

/-- A key has the value of the first entry for it. -/
theorem get?_ofList (entries : List (String × String)) (key : String) :
    (ofList entries).get? key = (entries.find? fun entry => entry.1 = key).map Prod.snd := by
  rw [ofList, get?_foldl_insert]
  exact Option.none_or

theorem mem_of_mem_foldl_insert (h : entry ∈ (entries.foldl insert attributes).toList) :
    entry ∈ attributes.toList ∨ entry ∈ entries := by
  induction entries generalizing attributes with
  | nil => exact Or.inl h
  | cons first rest ih =>
    rcases ih h with hmem | hmem
    · rcases Ascending.mem_of_mem_insert hmem with rfl | hmem
      · exact Or.inr List.mem_cons_self
      · exact Or.inl hmem
    · exact Or.inr (List.mem_cons_of_mem first hmem)

/-- A map has no other entries than those it is built from. -/
theorem mem_of_mem_ofList (h : entry ∈ (ofList entries).toList) : entry ∈ entries :=
  (mem_of_mem_foldl_insert h).resolve_left List.not_mem_nil

/-! ## Strings -/

/-- A string behind the octet that counts it. -/
def stringOctets (string : List UInt8) : List UInt8 :=
  string.length.toUInt8 :: string

/-- Octets are made of strings, each behind the octet that counts it, and of nothing
else. -/
def MadeOf (octets : List UInt8) (strings : List (List UInt8)) : Prop :=
  (∀ string ∈ strings, string.length ≤ maxStringLength) ∧ octets = strings.flatMap stringOctets

theorem madeOf_of_strings? (h : strings? octets = some strings) : MadeOf octets strings := by
  induction octets using strings?.induct generalizing strings with
  | case1 =>
    rw [strings?, Option.some.injEq] at h
    subst h
    exact ⟨fun _ hmem => absurd hmem List.not_mem_nil, rfl⟩
  | case2 length rest hshort =>
    rw [strings?, if_pos hshort] at h
    cases h
  | case3 length rest hcount ih =>
    rw [strings?, if_neg hcount, Option.map_eq_some_iff] at h
    obtain ⟨others, hothers, rfl⟩ := h
    obtain ⟨hlengths, hrest⟩ := ih hothers
    have htake : (rest.take length.toNat).length = length.toNat := by
      rw [List.length_take]
      omega
    refine ⟨List.forall_mem_cons.mpr ⟨?_, hlengths⟩, ?_⟩
    · have hmost := length.toNat_lt
      rw [htake, maxStringLength]
      omega
    · rw [List.flatMap_cons, ← hrest, stringOctets, htake, List.cons_append,
        List.take_append_drop]
      simp

/-- Octets are cut into the strings that they are made of. -/
theorem strings?_of_madeOf (h : MadeOf octets strings) : strings? octets = some strings := by
  obtain ⟨hlengths, rfl⟩ := h
  induction strings with
  | nil => rw [List.flatMap_nil, strings?]
  | cons string rest ih =>
    obtain ⟨hlength, hrest⟩ := List.forall_mem_cons.mp hlengths
    have hcount : string.length = string.length.toUInt8.toNat :=
      (UInt8.toNat_ofNat_of_lt' (Nat.lt_succ_of_le hlength)).symm
    rw [List.flatMap_cons, stringOctets, List.cons_append, strings?_cons hcount, ih hrest]
    rfl

/-! ## What strings say -/

/-- A text gives a key a value: the key is what stands in front of the first equals
sign, the value what stands behind it. Without one all is key. -/
inductive Gives (text : String) : (key value : String) → Prop where
  | pair {key value : String} (hkey : '=' ∉ key.toList) (htext : text = key ++ "=" ++ value) :
      Gives text key value
  | flag (htext : '=' ∉ text.toList) : Gives text text ""

/-- A string that is not empty says something about a key. -/
def Says (string : List UInt8) (key value : String) : Prop :=
  string ≠ [] ∧ ∃ text, Text.Lossy string text.toList ∧ Gives text key value

/-- The first string for a key gives it the value. -/
def FirstSays (strings : List (List UInt8)) (key value : String) : Prop :=
  ∃ before string after, strings = before ++ string :: after ∧ Says string key value ∧
    ∀ earlier ∈ before, ∀ other, ¬Says earlier key other

theorem key_entryOfText (text : String) : '=' ∉ (entryOfText text).1.toList := by
  intro hmem
  rw [entryOfText, String.toList_ofList] at hmem
  have hall := List.all_eq_true.mp (@List.all_takeWhile _ (fun c => decide (c ≠ '=')) text.toList)
  exact absurd (hall '=' hmem) (by decide)

/-- A text with an equals sign is put together from its key and its value. -/
theorem entryText_entryOfText (h : '=' ∈ text.toList) :
    entryText (entryOfText text) = text := by
  have hsplit {chars : List Char} (h : '=' ∈ chars) :
      chars.takeWhile (· ≠ '=') ++ '=' :: (chars.dropWhile (· ≠ '=')).drop 1 = chars := by
    induction chars with
    | nil => cases h
    | cons c rest ih =>
      by_cases hc : c = '='
      · simp [hc]
      · have hrest : '=' ∈ rest := by simpa [Ne.symm hc] using h
        simpa [hc] using ih hrest
  apply String.toList_inj.mp
  simpa [entryText, entryOfText] using hsplit h

theorem entryOfText_of_not_mem (h : '=' ∉ text.toList) : entryOfText text = (text, "") := by
  have hall : ∀ c ∈ text.toList, decide (c ≠ '=') = true :=
    fun c hc => decide_eq_true fun heq => h (heq ▸ hc)
  have htake : (text.toList ++ []).takeWhile (fun c => decide (c ≠ '=')) = text.toList ++ [] :=
    List.takeWhile_append_of_pos hall
  have hdrop : (text.toList ++ []).dropWhile (fun c => decide (c ≠ '=')) = [] :=
    List.dropWhile_append_of_pos hall
  rw [List.append_nil] at htake hdrop
  rw [entryOfText, htake, hdrop, String.ofList_toList]
  rfl

/-- The entry of a text is what the text gives. -/
theorem gives_iff : Gives text key value ↔ entryOfText text = (key, value) := by
  constructor
  · rintro (⟨hkey, rfl⟩ | hflag)
    · exact @entryOfText_entryText (key, value) hkey
    · exact entryOfText_of_not_mem hflag
  · intro h
    by_cases hequals : '=' ∈ text.toList
    · have hkey := key_entryOfText text
      have htext := entryText_entryOfText hequals
      rw [h] at hkey htext
      exact .pair hkey htext.symm
    · rw [entryOfText_of_not_mem hequals, Prod.mk.injEq] at h
      obtain ⟨rfl, rfl⟩ := h
      exact .flag hequals

theorem says_iff :
    Says string key value ↔ string ≠ [] ∧ entryOfText (Text.ofOctets string) = (key, value) := by
  refine and_congr_right fun _ => ?_
  constructor
  · rintro ⟨text, hlossy, hgives⟩
    rw [Text.ofOctets_eq_iff.mpr hlossy]
    exact gives_iff.mp hgives
  · intro h
    exact ⟨_, Text.lossy_ofOctets string, gives_iff.mpr h⟩

/-! ## Entries -/

/-- The entries that strings stand for. -/
def entriesOfStrings (strings : List (List UInt8)) : List (String × String) :=
  (strings.filter (· ≠ [])).map fun string => entryOfText (Text.ofOctets string)

theorem entriesOfStrings_cons (string : List UInt8) (strings : List (List UInt8)) :
    entriesOfStrings (string :: strings) =
      if string = [] then entriesOfStrings strings
      else entryOfText (Text.ofOctets string) :: entriesOfStrings strings := by
  by_cases h : string = [] <;> simp [entriesOfStrings, h]

theorem decode_eq (octets : List UInt8) :
    decode octets =
      match strings? octets with
      | none => .error .unexpectedEnd
      | some strings => .ok (ofList (entriesOfStrings strings)) := rfl

theorem decode_of_madeOf (h : MadeOf octets strings) :
    decode octets = .ok (ofList (entriesOfStrings strings)) := by
  rw [decode_eq, strings?_of_madeOf h]

theorem decode_of_not_madeOf (h : ¬∃ strings, MadeOf octets strings) :
    decode octets = .error .unexpectedEnd := by
  rw [decode_eq]
  cases hstrings : strings? octets with
  | none => rfl
  | some strings => exact absurd ⟨strings, madeOf_of_strings? hstrings⟩ h

theorem exists_decode_iff :
    (∃ attributes, decode octets = .ok attributes) ↔ ∃ strings, MadeOf octets strings := by
  constructor
  · rintro ⟨attributes, hdecode⟩
    refine Classical.byContradiction fun hnone => ?_
    rw [decode_of_not_madeOf hnone] at hdecode
    cases hdecode
  · rintro ⟨strings, hstrings⟩
    exact ⟨_, decode_of_madeOf hstrings⟩

theorem exists_says_iff :
    (∃ value, Says string key value) ↔
      string ≠ [] ∧ (entryOfText (Text.ofOctets string)).1 = key := by
  simp only [says_iff]
  constructor
  · rintro ⟨value, hne, hentry⟩
    exact ⟨hne, congrArg Prod.fst hentry⟩
  · rintro ⟨hne, hkey⟩
    exact ⟨_, hne, Prod.ext hkey rfl⟩

/-- The first entry of strings for a key is what the first string for it says. -/
theorem find?_entriesOfStrings_eq_some_iff :
    ((entriesOfStrings strings).find? fun entry => entry.1 = key).map Prod.snd = some value ↔
      FirstSays strings key value := by
  have hfind : (entriesOfStrings strings).find? (fun entry => entry.1 = key) =
      (strings.find? fun string =>
        string ≠ [] ∧ (entryOfText (Text.ofOctets string)).1 = key).map
          fun string => entryOfText (Text.ofOctets string) := by
    rw [entriesOfStrings, List.find?_map, List.find?_filter]
    simp only [Function.comp_def, decide_eq_true_eq]
  rw [hfind, Option.map_map, Option.map_eq_some_iff]
  simp only [List.find?_eq_some_iff_append, ← exists_says_iff, decide_eq_true_eq,
    Bool.not_eq_true', decide_eq_false_iff_not]
  constructor
  · rintro ⟨string, ⟨⟨other, hsays⟩, before, after, rfl, hbefore⟩, hvalue⟩
    obtain ⟨hne, hentry⟩ := says_iff.mp hsays
    obtain rfl : other = value := by rw [← hvalue, Function.comp_apply, hentry]
    exact ⟨before, string, after, rfl, hsays,
      fun earlier hmem other hother => hbefore earlier hmem ⟨other, hother⟩⟩
  · rintro ⟨before, string, after, rfl, hsays, hbefore⟩
    refine ⟨string, ⟨⟨value, hsays⟩, before, after, rfl,
      fun earlier hmem ⟨other, hother⟩ => hbefore earlier hmem other hother⟩, ?_⟩
    rw [Function.comp_apply, (says_iff.mp hsays).2]

/-- Empty strings are passed over. -/
theorem entriesOfStrings_filter (strings : List (List UInt8)) :
    entriesOfStrings (strings.filter (· ≠ [])) = entriesOfStrings strings := by
  rw [entriesOfStrings, entriesOfStrings, List.filter_filter]
  simp

theorem MadeOf.filter (h : MadeOf octets strings) :
    MadeOf ((strings.filter (· ≠ [])).flatMap stringOctets) (strings.filter (· ≠ [])) :=
  ⟨fun string hmem => h.1 string (List.mem_filter.mp hmem).1, rfl⟩

/-! ## Keys that are read -/

/-- No key that is read has an equals sign. -/
theorem key_of_decode (h : decode octets = .ok attributes) (hmem : entry ∈ attributes.toList) :
    '=' ∉ entry.1.toList := by
  rw [decode_eq] at h
  cases hstrings : strings? octets with
  | none =>
    rw [hstrings] at h
    cases h
  | some strings =>
    rw [hstrings] at h
    cases h
    obtain ⟨string, -, rfl⟩ := List.mem_map.mp (mem_of_mem_ofList hmem)
    exact key_entryOfText (Text.ofOctets string)

/-- A string without an equals sign is read as a key without a value. -/
theorem decode_flag (hne : text ≠ "") (hlength : text.utf8ByteSize ≤ maxStringLength)
    (hflag : '=' ∉ text.toList) :
    decode (stringOctets text.toUTF8.data.toList) = .ok (ofList [(text, "")]) := by
  have hmade : MadeOf (stringOctets text.toUTF8.data.toList) [text.toUTF8.data.toList] :=
    ⟨List.forall_mem_singleton.mpr hlength, (List.append_nil _).symm⟩
  have hentries : entriesOfStrings [text.toUTF8.data.toList] = [(text, "")] := by
    rw [entriesOfStrings_cons, if_neg (Text.toUTF8_ne_nil hne), Text.ofOctets_toUTF8,
      entryOfText_of_not_mem hflag]
    rfl
  rw [decode_of_madeOf hmade, hentries]

/-! ## Values that are read -/

/-- Octets are read as attributes just if they are made of strings and of nothing
else. Then a key has a value just if the first string for the key gives it, and
strings that are empty make no difference. -/
theorem get?_decode (octets : List UInt8) :
    ((∃ attributes, decode octets = .ok attributes) ↔ ∃ strings, MadeOf octets strings) ∧
    ((¬∃ strings, MadeOf octets strings) → decode octets = .error .unexpectedEnd) ∧
    ∀ strings, MadeOf octets strings → ∃ attributes, decode octets = .ok attributes ∧
      (∀ key value, attributes.get? key = some value ↔ FirstSays strings key value) ∧
      decode ((strings.filter (· ≠ [])).flatMap stringOctets) = .ok attributes := by
  refine ⟨exists_decode_iff, decode_of_not_madeOf, fun strings hstrings => ?_⟩
  refine ⟨_, decode_of_madeOf hstrings, fun key value => ?_, ?_⟩
  · rw [get?_ofList]
    exact find?_entriesOfStrings_eq_some_iff
  · rw [decode_of_madeOf hstrings.filter, entriesOfStrings_filter]

/-- Two strings whose keys become one when they are read, the first of which counts,
with an empty string between them and one without an equals sign behind. -/
theorem get?_decode_repeated :
    (∃ attributes,
      decode [3, 0xff, 61, 49, 0, 3, 0xfe, 61, 50, 1, 98] = .ok attributes ∧
      attributes.get? "\uFFFD" = some "1" ∧ attributes.get? "b" = some "" ∧
      decode [3, 0xff, 61, 49, 3, 0xfe, 61, 50, 1, 98] = .ok attributes) ∧
    decode [3, 0xff, 61] = .error .unexpectedEnd := by
  constructor
  · have hmade : MadeOf [3, 0xff, 61, 49, 0, 3, 0xfe, 61, 50, 1, 98]
        [[0xff, 61, 49], [], [0xfe, 61, 50], [98]] := ⟨by decide, by decide⟩
    obtain ⟨attributes, hdecode, hget, hempty⟩ := (get?_decode _).2.2 _ hmade
    refine ⟨attributes, hdecode, (hget _ _).mpr ?_, (hget _ _).mpr ?_, hempty⟩
    · exact ⟨[], _, _, rfl, says_iff.mpr (by decide +kernel), by simp⟩
    · refine ⟨[[0xff, 61, 49], [], [0xfe, 61, 50]], _, [], rfl,
        says_iff.mpr (by decide +kernel), ?_⟩
      have hkeys : ∀ string ∈ [[0xff, 61, 49], [], [0xfe, 61, 50]],
          ¬(string ≠ [] ∧ (entryOfText (Text.ofOctets string)).1 = "b") := by decide +kernel
      exact fun string hmem value hsays => hkeys string hmem (exists_says_iff.mp ⟨value, hsays⟩)
  · refine (get?_decode _).2.1 ?_
    rintro ⟨strings, hmade⟩
    have hnone : strings? [3, 0xff, 61] = none := by decide +kernel
    rw [strings?_of_madeOf hmade] at hnone
    cases hnone

end Attributes

end ServiceDiscovery

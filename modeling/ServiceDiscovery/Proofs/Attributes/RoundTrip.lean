import ServiceDiscovery.Attributes
import ServiceDiscovery.Proofs.Octets.Placement

/-!
# Attributes written and read back

Attributes whose keys have no equals sign are read back as they were written
(`Attributes.decode_octets`). The strings are cut at their length octets, each
of them splits into the key and the value it was put together from, and the
entries arrive in the order of their keys, in which inserting them rebuilds the
map.
-/

namespace ServiceDiscovery

namespace Ascending

variable {α κ : Type} [LT κ] [LE κ] [DecidableLT κ] [Std.LawfulOrderLT κ] {key : α → κ}

theorem insert_of_forall_lt {a : α} {elements : List α} (h : ∀ b ∈ elements, key b < key a) :
    insert key a elements = elements ++ [a] := by
  induction elements with
  | nil => rfl
  | cons b rest ih =>
    have hb : key b < key a := h b (List.mem_cons_self ..)
    have hnot : ¬key a < key b := Std.not_gt_of_lt hb
    rw [insert, if_neg hnot, if_pos hb, ih fun c hc => h c (List.mem_cons_of_mem _ hc)]
    rfl

theorem foldl_insert {front rest : List α} (h : Ascending key (front ++ rest)) :
    rest.foldl (fun elements a => insert key a elements) front = front ++ rest := by
  induction rest generalizing front with
  | nil => simp
  | cons a rest ih =>
    -- each element is behind all that were added before it
    have hlt : ∀ b ∈ front, key b < key a := by
      intro b hb
      exact (List.pairwise_append.mp h).2.2 b hb a (List.mem_cons_self ..)
    rw [List.foldl_cons, insert_of_forall_lt hlt, ih (by simpa using h)]
    simp

end Ascending

theorem Text.ofOctets_toUTF8 (text : String) : ofOctets text.toUTF8.data.toList = text := by
  have h : ofOctets? text.toUTF8.data.toList = some text := Octets.fromUTF8?_of_toList rfl
  rw [ofOctets, h]

theorem Text.toUTF8_ne_nil {text : String} (h : text ≠ "") : text.toUTF8.data.toList ≠ [] := by
  intro hnil
  refine h ?_
  rw [← ofOctets_toUTF8 text, hnil]
  decide

namespace Attributes

theorem toList_foldl_insert (entries : List (String × String)) (attributes : Attributes) :
    (entries.foldl insert attributes).toList =
      entries.foldl (fun elements entry => Ascending.insert Prod.fst entry elements)
        attributes.toList := by
  induction entries generalizing attributes with
  | nil => rfl
  | cons entry rest ih => exact ih (attributes.insert entry)

theorem ofList_toList (attributes : Attributes) : ofList attributes.toList = attributes := by
  have h : (ofList attributes.toList).toList = attributes.toList := by
    rw [ofList, toList_foldl_insert]
    have happend : Ascending Prod.fst ([] ++ attributes.toList) := attributes.ascending
    exact Ascending.foldl_insert happend
  -- a map is its list of entries
  revert h
  cases attributes
  cases ofList _
  simp

/-- A key without an equals sign and its value are found again in their text. -/
theorem entryOfText_entryText {entry : String × String} (hkey : '=' ∉ entry.1.toList) :
    entryOfText (entryText entry) = entry := by
  have htext : (entryText entry).toList = entry.1.toList ++ '=' :: entry.2.toList := by
    simp [entryText]
  have hall : ∀ c ∈ entry.1.toList, decide (c ≠ '=') = true := by
    intro c hc
    exact decide_eq_true fun heq => hkey (heq ▸ hc)
  simp only [entryOfText, htext, List.takeWhile_append_of_pos hall,
    List.dropWhile_append_of_pos hall]
  simp

theorem entryText_ne_empty (entry : String × String) : entryText entry ≠ "" := by
  intro h
  have := congrArg String.toList h
  simp [entryText] at this

theorem strings?_cons {length : UInt8} {string rest : List UInt8}
    (h : string.length = length.toNat) :
    strings? (length :: (string ++ rest)) = (strings? rest).map (string :: ·) := by
  rw [strings?, if_neg (by simp [h])]
  simp [← h]

/-- Octets that entries were laid out in are cut into the texts of the
entries. -/
theorem strings?_entryOctets {entries : List (String × String)} {octets : List UInt8}
    (h : entryOctets entries = .ok octets) :
    strings? octets = some (entries.map fun entry => (entryText entry).toUTF8.data.toList) := by
  induction entries generalizing octets with
  | nil =>
    obtain rfl : [] = octets := by simpa [entryOctets] using h
    simp [strings?]
  | cons entry rest ih =>
    rw [entryOctets] at h
    by_cases hlong : maxStringLength < (entryText entry).utf8ByteSize
    · simp [hlong] at h
    · rw [if_neg hlong] at h
      obtain ⟨others, hrest, rfl⟩ := Except.map_eq_ok_iff.mp h
      have hlength : (entryText entry).toUTF8.data.toList.length =
          (entryText entry).utf8ByteSize.toUInt8.toNat :=
        (UInt8.toNat_ofNat_of_lt' (Nat.lt_succ_of_le (Nat.le_of_not_lt hlong))).symm
      change strings? (_ :: (_ ++ others)) = _
      rw [strings?_cons hlength, ih hrest]
      rfl

theorem octets_ne_nil {attributes : Attributes} {octets : List UInt8}
    (h : attributes.octets = .ok octets) : octets ≠ [] := by
  rintro rfl
  rw [Attributes.octets] at h
  by_cases hempty : attributes.toList = []
  · simp [hempty] at h
  · rw [if_neg hempty] at h
    have hstrings := strings?_entryOctets h
    simp [strings?, hempty] at hstrings

/-- Attributes whose keys have no equals sign are read back as they were
written. -/
theorem decode_octets {attributes : Attributes} {octets : List UInt8}
    (hkeys : ∀ entry ∈ attributes.toList, '=' ∉ entry.1.toList)
    (h : attributes.octets = .ok octets) : decode octets = .ok attributes := by
  rw [Attributes.octets] at h
  by_cases hempty : attributes.toList = []
  · -- the empty map is a single empty string, which stands for no entry
    rw [if_pos hempty] at h
    obtain rfl := Except.ok.inj h
    have hmap : ofList [] = attributes := by rw [← hempty, ofList_toList]
    have hstrings : strings? [0] = some [[]] := by simp [strings?]
    simp [decode, hstrings, hmap]
  · rw [if_neg hempty] at h
    -- every string holds an equals sign, so none is passed over as empty
    have hnonempty : ∀ string ∈ attributes.toList.map fun entry =>
        (entryText entry).toUTF8.data.toList, decide (string ≠ []) = true := by
      intro string hmem
      obtain ⟨entry, _, rfl⟩ := List.mem_map.mp hmem
      exact decide_eq_true (Text.toUTF8_ne_nil (entryText_ne_empty entry))
    have hentries : (attributes.toList.map fun entry =>
        (entryText entry).toUTF8.data.toList).map (fun string =>
          entryOfText (Text.ofOctets string)) = attributes.toList := by
      rw [List.map_map]
      refine (List.map_congr_left fun entry hmem => ?_).trans (List.map_id _)
      simp only [Function.comp_apply, Text.ofOctets_toUTF8,
        entryOfText_entryText (hkeys entry hmem), id]
    rw [decode, strings?_entryOctets h]
    simp only [List.filter_eq_self.mpr hnonempty, hentries, ofList_toList]

end Attributes

end ServiceDiscovery

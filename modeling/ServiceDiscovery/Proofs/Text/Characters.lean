import ServiceDiscovery.Text.Lossy

/-!
# Octets of one character

The octets that encode a character, told in three ways: as what `String.utf8EncodeChar`
gives, by the rules for well-formed sequences (`Text.WellFormed`), and by the ranges
of `Text.tailRanges`, each of which holds the octet at its place (`Text.Fills`). The
three agree (`Text.exists_char_iff`), so octets begin a character just if they lie in
the first ranges for their lead octet (`Text.begins_cons_iff`).
-/

namespace ServiceDiscovery

namespace Text

variable {lead : UInt8} {octets tail : List UInt8} {ranges : List (UInt8 × UInt8)}

/-! ## Octets in ranges -/

/-- There are as many octets as ranges, and each octet lies in its range. -/
def Fills (ranges : List (UInt8 × UInt8)) (octets : List UInt8) : Prop :=
  octets.length = ranges.length ∧ tailLength ranges octets = ranges.length

theorem fills_nil_iff : Fills [] octets ↔ octets = [] := by
  simp [Fills, tailLength]

theorem fills_cons_cons_iff {low high octet : UInt8} :
    Fills ((low, high) :: ranges) (octet :: tail) ↔
      (low.toNat ≤ octet.toNat ∧ octet.toNat ≤ high.toNat) ∧ Fills ranges tail := by
  show _ ↔ (low ≤ octet ∧ octet ≤ high) ∧ _
  rw [Fills, tailLength]
  split <;> simp [Fills, *]

/-- What fills ranges has an octet in the first one and fills the others behind it. -/
theorem fills_cons_iff {low high : UInt8} :
    Fills ((low, high) :: ranges) octets ↔
      ∃ octet rest, (low.toNat ≤ octet.toNat ∧ octet.toNat ≤ high.toNat) ∧ Fills ranges rest ∧
        octets = octet :: rest := by
  cases octets with
  | nil => simp [Fills]
  | cons octet rest =>
    rw [fills_cons_cons_iff]
    constructor
    · rintro ⟨hoctet, hrest⟩
      exact ⟨octet, rest, hoctet, hrest, rfl⟩
    · rintro ⟨_, _, hoctet, hrest, heq⟩
      cases heq
      exact ⟨hoctet, hrest⟩

theorem tailLength_le_length : tailLength ranges octets ≤ octets.length := by
  induction ranges generalizing octets with
  | nil => simp [tailLength]
  | cons range ranges ih =>
    cases octets with
    | nil => simp [tailLength]
    | cons octet rest =>
      have hrest := @ih rest
      rw [tailLength, List.length_cons]
      split <;> omega

theorem tailLength_le_ranges : tailLength ranges octets ≤ ranges.length := by
  induction ranges generalizing octets with
  | nil => simp [tailLength]
  | cons range ranges ih =>
    cases octets with
    | nil => simp [tailLength]
    | cons octet rest =>
      have hrest := @ih rest
      rw [tailLength, List.length_cons]
      split <;> omega

/-- In the first octets, those that lie in their ranges are the first ones too. -/
theorem tailLength_take (ranges : List (UInt8 × UInt8)) (octets : List UInt8) (n : Nat) :
    tailLength ranges (octets.take n) = min n (tailLength ranges octets) := by
  induction ranges generalizing octets n with
  | nil => simp [tailLength]
  | cons range ranges ih =>
    cases octets with
    | nil => simp [tailLength]
    | cons octet rest =>
      cases n with
      | zero => simp [tailLength]
      | succ n =>
        rw [List.take_succ_cons, tailLength, tailLength, ih]
        split <;> omega

/-- Octets in the first of some ranges that are not empty go on to fill all of them. -/
theorem exists_fills_append (hranges : ∀ range ∈ ranges, range.1 ≤ range.2)
    (h : tailLength ranges octets = octets.length) : ∃ more, Fills ranges (octets ++ more) := by
  induction ranges generalizing octets with
  | nil =>
    have hnone : octets = [] := List.eq_nil_of_length_eq_zero (by simpa [tailLength] using h.symm)
    exact ⟨[], by simp [hnone, fills_nil_iff]⟩
  | cons range ranges ih =>
    obtain ⟨hrange, hrest⟩ := List.forall_mem_cons.mp hranges
    cases octets with
    | nil =>
      obtain ⟨more, hmore⟩ := @ih [] hrest (by cases ranges <;> rfl)
      exact ⟨range.1 :: more, fills_cons_cons_iff.mpr ⟨⟨Nat.le_refl _, hrange⟩, hmore⟩⟩
    | cons octet rest =>
      rw [tailLength] at h
      split at h
      · rename_i hoctet
        obtain ⟨more, hmore⟩ := @ih rest hrest (by simpa using h)
        exact ⟨more, fills_cons_cons_iff.mpr ⟨hoctet, hmore⟩⟩
      · simp at h

/-! ## Well-formed sequences -/

/-- An octet that continues a character. -/
def IsTail (octet : UInt8) : Prop :=
  0x80 ≤ octet.toNat ∧ octet.toNat ≤ 0xbf

/-- The octets of one character, by their number. Longer forms than needed, surrogates
and what lies beyond the last code point are left out. -/
inductive WellFormed (lead : UInt8) : (tail : List UInt8) → Prop where
  | one (hlead : lead.toNat < 0x80) : WellFormed lead []
  | two {b : UInt8} (hlead : 0xc2 ≤ lead.toNat ∧ lead.toNat < 0xe0) (hb : IsTail b) :
      WellFormed lead [b]
  | three {b c : UInt8} (hlead : 0xe0 ≤ lead.toNat ∧ lead.toNat < 0xf0) (hb : IsTail b)
      (hc : IsTail c) (hshort : lead.toNat = 0xe0 → 0xa0 ≤ b.toNat)
      (hscalar : lead.toNat = 0xed → b.toNat ≤ 0x9f) : WellFormed lead [b, c]
  | four {b c d : UInt8} (hlead : 0xf0 ≤ lead.toNat ∧ lead.toNat ≤ 0xf4) (hb : IsTail b)
      (hc : IsTail c) (hd : IsTail d) (hshort : lead.toNat = 0xf0 → 0x90 ≤ b.toNat)
      (hscalar : lead.toNat = 0xf4 → b.toNat ≤ 0x8f) : WellFormed lead [b, c, d]

/-- The ranges for a lead octet by its number. -/
theorem tailRanges_eq (lead : UInt8) :
    tailRanges lead =
      if lead.toNat < 0x80 then some []
      else if lead.toNat < 0xc2 then none
      else if lead.toNat < 0xe0 then some [tailRange]
      else if lead.toNat = 0xe0 then some [(0xa0, 0xbf), tailRange]
      else if lead.toNat = 0xed then some [(0x80, 0x9f), tailRange]
      else if lead.toNat < 0xf0 then some [tailRange, tailRange]
      else if lead.toNat = 0xf0 then some [(0x90, 0xbf), tailRange, tailRange]
      else if lead.toNat < 0xf4 then some [tailRange, tailRange, tailRange]
      else if lead.toNat = 0xf4 then some [(0x80, 0x8f), tailRange, tailRange]
      else none := by
  simp only [tailRanges, UInt8.lt_iff_toNat_lt, ← UInt8.toNat_inj]
  rfl

theorem fills_one_iff {low high : UInt8} :
    Fills [(low, high)] octets ↔
      ∃ b : UInt8, (low.toNat ≤ b.toNat ∧ b.toNat ≤ high.toNat) ∧ octets = [b] := by
  simp only [fills_cons_iff, fills_nil_iff]
  constructor
  · rintro ⟨b, _, hb, rfl, rfl⟩
    exact ⟨b, hb, rfl⟩
  · rintro ⟨b, hb, rfl⟩
    exact ⟨b, [], hb, rfl, rfl⟩

theorem fills_two_iff {low high : UInt8} :
    Fills [(low, high), tailRange] octets ↔
      ∃ b c : UInt8, (low.toNat ≤ b.toNat ∧ b.toNat ≤ high.toNat) ∧ IsTail c ∧
        octets = [b, c] := by
  rw [fills_cons_iff]
  constructor
  · rintro ⟨b, _, hb, hrest, rfl⟩
    obtain ⟨c, hc, rfl⟩ := fills_one_iff.mp hrest
    exact ⟨b, c, hb, hc, rfl⟩
  · rintro ⟨b, c, hb, hc, rfl⟩
    exact ⟨b, [c], hb, fills_one_iff.mpr ⟨c, hc, rfl⟩, rfl⟩

theorem fills_three_iff {low high : UInt8} :
    Fills [(low, high), tailRange, tailRange] octets ↔
      ∃ b c d : UInt8, (low.toNat ≤ b.toNat ∧ b.toNat ≤ high.toNat) ∧ IsTail c ∧ IsTail d ∧
        octets = [b, c, d] := by
  rw [fills_cons_iff]
  constructor
  · rintro ⟨b, _, hb, hrest, rfl⟩
    obtain ⟨c, d, hc, hd, rfl⟩ := fills_two_iff.mp hrest
    exact ⟨b, c, d, hb, hc, hd, rfl⟩
  · rintro ⟨b, c, d, hb, hc, hd, rfl⟩
    exact ⟨b, [c, d], hb, fills_two_iff.mpr ⟨c, d, hc, hd, rfl⟩, rfl⟩

/-- Octets that lie in the ranges for their lead octet are well-formed. -/
theorem wellFormed_of_fills (hranges : tailRanges lead = some ranges) (h : Fills ranges tail) :
    WellFormed lead tail := by
  rw [tailRanges_eq] at hranges
  split at hranges
  · cases hranges
    obtain rfl := fills_nil_iff.mp h
    exact .one ‹_›
  split at hranges
  · cases hranges
  split at hranges
  · cases hranges
    obtain ⟨b, hb, rfl⟩ := fills_one_iff.mp h
    exact .two (by omega) hb
  split at hranges
  · cases hranges
    obtain ⟨b, c, ⟨hlow, hhigh⟩, hc, rfl⟩ := fills_two_iff.mp h
    change 0xa0 ≤ b.toNat at hlow
    exact .three (by omega) ⟨by omega, hhigh⟩ hc (by omega) (by omega)
  split at hranges
  · cases hranges
    obtain ⟨b, c, ⟨hlow, hhigh⟩, hc, rfl⟩ := fills_two_iff.mp h
    change b.toNat ≤ 0x9f at hhigh
    exact .three (by omega) ⟨hlow, by omega⟩ hc (by omega) (by omega)
  split at hranges
  · cases hranges
    obtain ⟨b, c, hb, hc, rfl⟩ := fills_two_iff.mp h
    exact .three (by omega) hb hc (by omega) (by omega)
  split at hranges
  · cases hranges
    obtain ⟨b, c, d, ⟨hlow, hhigh⟩, hc, hd, rfl⟩ := fills_three_iff.mp h
    change 0x90 ≤ b.toNat at hlow
    exact .four (by omega) ⟨by omega, hhigh⟩ hc hd (by omega) (by omega)
  split at hranges
  · cases hranges
    obtain ⟨b, c, d, hb, hc, hd, rfl⟩ := fills_three_iff.mp h
    exact .four (by omega) hb hc hd (by omega) (by omega)
  split at hranges
  · cases hranges
    obtain ⟨b, c, d, ⟨hlow, hhigh⟩, hc, hd, rfl⟩ := fills_three_iff.mp h
    change b.toNat ≤ 0x8f at hhigh
    exact .four (by omega) ⟨hlow, by omega⟩ hc hd (by omega) (by omega)
  · cases hranges

theorem WellFormed.exists_fills (h : WellFormed lead tail) :
    ∃ ranges, tailRanges lead = some ranges ∧ Fills ranges tail := by
  rw [tailRanges_eq]
  cases h with
  | one hlead => exact ⟨[], if_pos hlead, fills_nil_iff.mpr rfl⟩
  | two hlead hb =>
    refine ⟨[tailRange], ?_, fills_one_iff.mpr ⟨_, hb, rfl⟩⟩
    rw [if_neg (by omega), if_neg (by omega), if_pos (by omega)]
  | @three b c hlead hb hc hshort hscalar =>
    rw [if_neg (by omega), if_neg (by omega), if_neg (by omega)]
    by_cases hfirst : lead.toNat = 0xe0
    · exact ⟨_, if_pos hfirst, fills_two_iff.mpr ⟨b, c, ⟨hshort hfirst, hb.2⟩, hc, rfl⟩⟩
    rw [if_neg hfirst]
    by_cases hsurrogates : lead.toNat = 0xed
    · exact ⟨_, if_pos hsurrogates,
        fills_two_iff.mpr ⟨b, c, ⟨hb.1, hscalar hsurrogates⟩, hc, rfl⟩⟩
    rw [if_neg hsurrogates]
    exact ⟨_, if_pos hlead.2, fills_two_iff.mpr ⟨b, c, hb, hc, rfl⟩⟩
  | @four b c d hlead hb hc hd hshort hscalar =>
    rw [if_neg (by omega), if_neg (by omega), if_neg (by omega), if_neg (by omega),
      if_neg (by omega), if_neg (by omega)]
    by_cases hfirst : lead.toNat = 0xf0
    · exact ⟨_, if_pos hfirst, fills_three_iff.mpr ⟨b, c, d, ⟨hshort hfirst, hb.2⟩, hc, hd, rfl⟩⟩
    rw [if_neg hfirst]
    by_cases hlast : lead.toNat = 0xf4
    · rw [if_neg (by omega)]
      exact ⟨_, if_pos hlast, fills_three_iff.mpr ⟨b, c, d, ⟨hb.1, hscalar hlast⟩, hc, hd, rfl⟩⟩
    · exact ⟨_, if_pos (by omega), fills_three_iff.mpr ⟨b, c, d, hb, hc, hd, rfl⟩⟩

/-! ## Code points -/

theorem exists_char_of_lt {n : Nat} (h : n < 0xd800 ∨ 0xdfff < n ∧ n < 0x110000) :
    ∃ c : Char, c.val.toNat = n :=
  ⟨Char.ofNatAux n h, rfl⟩

theorem WellFormed.exists_char (h : WellFormed lead tail) :
    ∃ c, String.utf8EncodeChar c = lead :: tail := by
  -- the code point is put together from what the octets hold besides their top bits
  cases h with
  | one hlead =>
    obtain ⟨char, hchar⟩ := @exists_char_of_lt lead.toNat (by omega)
    refine ⟨char, ?_⟩
    simp only [String.utf8EncodeChar, hchar]
    rw [if_pos (by omega)]
    simp
  | @two b hlead hb =>
    rw [IsTail] at hb
    obtain ⟨char, hchar⟩ := @exists_char_of_lt
      ((lead.toNat - 0xc0) * 64 + (b.toNat - 0x80)) (by omega)
    refine ⟨char, ?_⟩
    simp only [String.utf8EncodeChar, hchar]
    rw [if_neg (by omega), if_pos (by omega)]
    simp only [List.cons.injEq, ← UInt8.toNat_inj, UInt8.toNat_ofNat', and_true]
    omega
  | @three b c hlead hb hc hshort hscalar =>
    rw [IsTail] at hb hc
    obtain ⟨char, hchar⟩ := @exists_char_of_lt
      ((lead.toNat - 0xe0) * 4096 + (b.toNat - 0x80) * 64 + (c.toNat - 0x80)) (by omega)
    refine ⟨char, ?_⟩
    simp only [String.utf8EncodeChar, hchar]
    rw [if_neg (by omega), if_neg (by omega), if_pos (by omega)]
    simp only [List.cons.injEq, ← UInt8.toNat_inj, UInt8.toNat_ofNat', and_true]
    omega
  | @four b c d hlead hb hc hd hshort hscalar =>
    rw [IsTail] at hb hc hd
    obtain ⟨char, hchar⟩ := @exists_char_of_lt
      ((lead.toNat - 0xf0) * 262144 + (b.toNat - 0x80) * 4096 + (c.toNat - 0x80) * 64 +
        (d.toNat - 0x80)) (by omega)
    refine ⟨char, ?_⟩
    simp only [String.utf8EncodeChar, hchar]
    rw [if_neg (by omega), if_neg (by omega), if_neg (by omega)]
    simp only [List.cons.injEq, ← UInt8.toNat_inj, UInt8.toNat_ofNat', and_true]
    omega

theorem wellFormed_of_char {c : Char} (h : String.utf8EncodeChar c = lead :: tail) :
    WellFormed lead tail := by
  have hscalar : c.val.toNat < 0xd800 ∨ 0xdfff < c.val.toNat ∧ c.val.toNat < 0x110000 := c.valid
  simp only [String.utf8EncodeChar] at h
  split at h
  · cases h
    exact .one (by simp only [UInt8.toNat_ofNat']; omega)
  split at h
  · cases h
    exact .two (by simp only [UInt8.toNat_ofNat']; omega)
      (by simp only [IsTail, UInt8.toNat_ofNat']; omega)
  split at h
  · cases h
    refine .three ?_ ?_ ?_ ?_ ?_ <;> simp only [IsTail, UInt8.toNat_ofNat'] <;> omega
  · cases h
    refine .four ?_ ?_ ?_ ?_ ?_ ?_ <;> simp only [IsTail, UInt8.toNat_ofNat'] <;> omega

/-- Octets encode a character just if those behind the first one fill the ranges for
it. -/
theorem exists_char_iff :
    (∃ c, String.utf8EncodeChar c = lead :: tail) ↔
      ∃ ranges, tailRanges lead = some ranges ∧ Fills ranges tail := by
  constructor
  · rintro ⟨c, h⟩
    exact (wellFormed_of_char h).exists_fills
  · rintro ⟨ranges, hranges, h⟩
    exact (wellFormed_of_fills hranges h).exists_char

/-! ## Parts of characters -/

/-- The octets of a character begin with these. -/
def Begins (octets : List UInt8) : Prop :=
  ∃ c, octets <+: String.utf8EncodeChar c

theorem le_of_mem_tailRanges (hranges : tailRanges lead = some ranges) :
    ∀ range ∈ ranges, range.1 ≤ range.2 := by
  rw [tailRanges_eq] at hranges
  repeat' split at hranges
  all_goals cases hranges
  all_goals simp [tailRange]

theorem begins_cons_iff :
    Begins (lead :: tail) ↔
      ∃ ranges, tailRanges lead = some ranges ∧ tailLength ranges tail = tail.length := by
  constructor
  · rintro ⟨c, more, h⟩
    rw [List.cons_append] at h
    obtain ⟨ranges, hranges, hlength, hfills⟩ := exists_char_iff.mp ⟨c, h.symm⟩
    refine ⟨ranges, hranges, ?_⟩
    have htake := tailLength_take ranges (tail ++ more) tail.length
    rw [List.take_left, hfills, ← hlength, List.length_append] at htake
    omega
  · rintro ⟨ranges, hranges, h⟩
    obtain ⟨more, hfills⟩ := exists_fills_append (le_of_mem_tailRanges hranges) h
    obtain ⟨c, hc⟩ := exists_char_iff.mpr ⟨ranges, hranges, hfills⟩
    exact ⟨c, more, hc.symm⟩

end Text

end ServiceDiscovery

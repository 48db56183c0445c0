/-!
# Big-endian numbers

Numbers in a message are written most significant octet first. `Octets.toNat` is
the number that a sequence of octets stands for and `Octets.ofNat` is the
sequence of a given width for a number. The two undo each other: `toNat_ofNat`
and `ofNat_toNat`.
-/

namespace ServiceDiscovery

/-- A message as it is transmitted, read by position. -/
abbrev Message := Array UInt8

/-- How many words there are. Positions and lengths are words of 64 bits. -/
def Word.limit : Nat := 0x10000000000000000

namespace Octets

/-- The number whose base 256 digits are `octets`, the most significant one
first. -/
def toNat (octets : List UInt8) : Nat :=
  octets.foldl (fun n octet => 256 * n + octet.toNat) 0

/-- The last `width` base 256 digits of `n`, the most significant one first. -/
def ofNat : (width : Nat) → (n : Nat) → List UInt8
  | 0, _ => []
  | width + 1, n => ofNat width (n / 256) ++ [n.toUInt8]

@[simp] theorem toNat_nil : toNat [] = 0 := rfl

@[simp] theorem toNat_concat (octets : List UInt8) (octet : UInt8) :
    toNat (octets ++ [octet]) = 256 * toNat octets + octet.toNat := by
  simp [toNat]

@[simp] theorem length_ofNat (width n : Nat) : (ofNat width n).length = width := by
  induction width generalizing n with
  | zero => rfl
  | succ width ih => simp [ofNat, ih]

theorem toNat_lt (octets : List UInt8) : toNat octets < Nat.pow 256 octets.length := by
  induction h : octets.length generalizing octets with
  | zero =>
    rw [List.eq_nil_of_length_eq_zero h]
    exact Nat.one_pos
  | succ width ih =>
    obtain rfl | ⟨front, octet, rfl⟩ := List.eq_nil_or_concat octets
    · simp at h
    · rw [List.concat_eq_append] at h ⊢
      have hfront := ih front (by simpa using h)
      have hoctet := octet.toNat_lt
      rw [toNat_concat]
      show 256 * toNat front + octet.toNat < Nat.pow 256 width * 256
      omega

theorem toNat_ofNat {width n : Nat} (h : n < Nat.pow 256 width) : toNat (ofNat width n) = n := by
  induction width generalizing n with
  | zero => simp_all [ofNat]
  | succ width ih =>
    have hdiv : n / 256 < Nat.pow 256 width := Nat.div_lt_of_lt_mul (Nat.mul_comm .. ▸ h)
    simp only [ofNat, toNat_concat, ih hdiv, Nat.toUInt8, UInt8.toNat_ofNat']
    omega

/-- A sequence of octets is the only one of its width for its number. -/
theorem ofNat_toNat (octets : List UInt8) : ofNat octets.length (toNat octets) = octets := by
  induction h : octets.length generalizing octets with
  | zero => simp [List.eq_nil_of_length_eq_zero h, ofNat]
  | succ width ih =>
    obtain rfl | ⟨front, octet, rfl⟩ := List.eq_nil_or_concat octets
    · simp at h
    · rw [List.concat_eq_append] at h ⊢
      have hlt := octet.toNat_lt
      have hdiv : (256 * toNat front + octet.toNat) / 256 = toNat front := by omega
      have hmod : (256 * toNat front + octet.toNat).toUInt8 = octet := by
        apply UInt8.toNat_inj.mp
        simp only [Nat.toUInt8, UInt8.toNat_ofNat']
        omega
      simp only [ofNat, toNat_concat, hdiv, hmod, ih front (by simpa using h)]

/-- Octet sequences of one width that stand for the same number are equal. -/
theorem eq_of_toNat_eq {xs ys : List UInt8} (hlength : xs.length = ys.length)
    (h : toNat xs = toNat ys) : xs = ys := by
  rw [← ofNat_toNat xs, ← ofNat_toNat ys, hlength, h]

end Octets

end ServiceDiscovery

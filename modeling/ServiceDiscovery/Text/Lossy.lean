import ServiceDiscovery.Octets.BigEndian

/-!
# Text of arbitrary octets

`Text.ofOctets` is the text of octets that are meant to be UTF-8. What is not
becomes a replacement character, one for each maximal part that begins a
character but does not complete it.
-/

namespace ServiceDiscovery

namespace Text

/-- The range of an octet that continues a character. -/
def tailRange : UInt8 × UInt8 := (0x80, 0xbf)

/-- The ranges for the octets behind `lead` in one character, or `none` if no
character begins with `lead`. The first of them leaves out what has a shorter
form, is a surrogate or lies beyond the last code point. -/
def tailRanges (lead : UInt8) : Option (List (UInt8 × UInt8)) :=
  if lead < 0x80 then some []
  else if lead < 0xc2 then none
  else if lead < 0xe0 then some [tailRange]
  else if lead = 0xe0 then some [(0xa0, 0xbf), tailRange]
  else if lead = 0xed then some [(0x80, 0x9f), tailRange]
  else if lead < 0xf0 then some [tailRange, tailRange]
  else if lead = 0xf0 then some [(0x90, 0xbf), tailRange, tailRange]
  else if lead < 0xf4 then some [tailRange, tailRange, tailRange]
  else if lead = 0xf4 then some [(0x80, 0x8f), tailRange, tailRange]
  else none

/-- How many octets, from the first on, lie in the ranges for them. -/
def tailLength : List (UInt8 × UInt8) → List UInt8 → Nat
  | (low, high) :: ranges, octet :: octets =>
    if low ≤ octet ∧ octet ≤ high then tailLength ranges octets + 1 else 0
  | _, _ => 0

/-- Cuts octets into characters and maximal parts of characters. -/
def sequences : List UInt8 → List (List UInt8)
  | [] => []
  | lead :: rest =>
    let length := tailLength ((tailRanges lead).getD []) rest
    (lead :: rest.take length) :: sequences (rest.drop length)
termination_by octets => octets.length
decreasing_by simp only [List.length_drop, List.length_cons]; omega

/-- The text of octets, if they are UTF-8. -/
def ofOctets? (octets : List UInt8) : Option String :=
  String.fromUTF8? ⟨octets.toArray⟩

/-- The text of octets, with a replacement character for each part that is no
character. -/
def ofOctets (octets : List UInt8) : String :=
  match ofOctets? octets with
  | some text => text
  | none => String.join ((sequences octets).map fun octets => (ofOctets? octets).getD "\uFFFD")

end Text

end ServiceDiscovery

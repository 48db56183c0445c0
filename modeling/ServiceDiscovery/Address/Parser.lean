import ServiceDiscovery.Address.Basic

/-!
# Addresses in text

`Address.parse?` reads an address in any of its usual notations. Dotted decimal
numbers have no leading zeros; groups of an `Ipv6` address have at most four
hexadecimal digits, a double colon stands for one or more zero groups, and the
last two groups may be given as an `Ipv4` address.
-/

namespace ServiceDiscovery

def hexDigit? (c : Char) : Option Nat :=
  if c.isDigit then some (c.toNat - '0'.toNat)
  else if 'a' ≤ c ∧ c ≤ 'f' then some (c.toNat - 'a'.toNat + 10)
  else if 'A' ≤ c ∧ c ≤ 'F' then some (c.toNat - 'A'.toNat + 10)
  else none

/-- The number with the given digits, the most significant one first. -/
def ofDigits (base : Nat) (digits : List Nat) : Nat :=
  digits.foldl (fun n digit => base * n + digit) 0

namespace Ipv4

/-- One of the four numbers: up to three decimal digits without a leading zero,
at most 255. -/
def parseOctet? (digits : List Char) : Option UInt8 :=
  let value := ofDigits 10 (digits.map fun c => c.toNat - '0'.toNat)
  if digits ≠ [] ∧ digits.all Char.isDigit ∧ digits.length ≤ 3
      ∧ (digits.head? = some '0' → digits = ['0']) ∧ value < 256 then
    some value.toUInt8
  else
    none

def parse? (text : List Char) : Option Ipv4 :=
  match (text.splitOn '.').mapM parseOctet? with
  | some [a, b, c, d] => some { octets := #v[a, b, c, d] }
  | _ => none

end Ipv4

namespace Ipv6

/-- One group: up to four hexadecimal digits, as its two octets. -/
def parseGroup? (digits : List Char) : Option (List UInt8) :=
  if digits ≠ [] ∧ digits.length ≤ 4 then
    (digits.mapM hexDigit?).map fun digits => Octets.ofNat 2 (ofDigits 16 digits)
  else
    none

/-- The octets of groups with colons between them, where the last two groups may
be given as an `Ipv4` address if `dotted` is set. -/
def parseGroups? (dotted : Bool) : List (List Char) → Option (List UInt8)
  | [] => some []
  | [group] =>
    match dotted, Ipv4.parse? group with
    | true, some address => some address.octets.toList
    | _, _ => parseGroup? group
  | group :: rest => do
    let octets ← parseGroup? group
    let others ← parseGroups? dotted rest
    return octets ++ others

/-- The octets of a part of an address, which may be empty. -/
def parsePart? (dotted : Bool) (text : List Char) : Option (List UInt8) :=
  if text = [] then some [] else parseGroups? dotted (text.splitOn ':')

/-- Splits text at the first double colon in it. -/
def splitGap : List Char → Option (List Char × List Char)
  | ':' :: ':' :: rest => some ([], rest)
  | c :: rest => (splitGap rest).map fun (front, back) => (c :: front, back)
  | [] => none

/-- The address with the given octets, if there are enough of them. -/
def ofOctets? (octets : List UInt8) : Option Ipv6 :=
  if h : octets.toArray.size = 16 then some { octets := ⟨octets.toArray, h⟩ } else none

/-- Reads an address. Where there is no gap all eight groups have to be given,
and a gap takes the place of one group at least. -/
def parse? (text : List Char) : Option Ipv6 :=
  match splitGap text with
  | none => do
    ofOctets? (← parseGroups? true (text.splitOn ':'))
  | some (front, back) => do
    let front ← parsePart? false front
    let back ← parsePart? true back
    if front.length + back.length ≤ 14 then
      ofOctets? (front ++ List.replicate (16 - front.length - back.length) 0 ++ back)
    else
      none

end Ipv6

def Address.parse? (text : String) : Option Address :=
  match Ipv4.parse? text.toList with
  | some address => some (.v4 address)
  | none => (Ipv6.parse? text.toList).map .v6

end ServiceDiscovery

import ServiceDiscovery.Address.Basic

/-!
# Text of addresses

`Address.text` is the canonical text of an address: dotted decimal for `Ipv4`,
and for `Ipv6` eight groups of hexadecimal digits, of which the first of the
longest runs of zero groups is left out.
-/

namespace ServiceDiscovery

def dottedDecimal (octets : List UInt8) : String :=
  ".".intercalate (octets.map fun octet => toString octet.toNat)

def Ipv4.text (address : Ipv4) : String :=
  dottedDecimal address.octets.toList

namespace Ipv6

/-- The numbers of two octets each that consecutive octets form. -/
def pairs : List UInt8 → List Nat
  | high :: low :: rest => Octets.toNat [high, low] :: pairs rest
  | _ => []

def groups (address : Ipv6) : List Nat :=
  pairs address.octets.toList

/-- The length of the run of zeros at the beginning of a list of groups. -/
def leadingZeros (groups : List Nat) : Nat :=
  (groups.takeWhile (· = 0)).length

/-- The first of the longest runs of zeros in a list of groups, as the number of
groups in front of it and its length. -/
def longestZeros : List Nat → Nat × Nat
  | [] => (0, 0)
  | group :: rest =>
    let here := leadingZeros (group :: rest)
    let (start, length) := longestZeros rest
    if length ≤ here then (0, here) else (start + 1, length)

/-- Groups in lower-case hexadecimal with colons between them. -/
def joinGroups (groups : List Nat) : String :=
  ":".intercalate (groups.map fun group => String.ofList (Nat.toDigits 16 group))

/-- Whether an address stands for an `Ipv4` address: ten zero octets and two
whose bits are all set stand in front of that one. -/
def isMapped (address : Ipv6) : Bool :=
  address.octets.toList.take 12 = List.replicate 10 0 ++ [0xff, 0xff]

def text (address : Ipv6) : String :=
  if address.isMapped then
    "::ffff:" ++ dottedDecimal (address.octets.toList.drop 12)
  else
    let groups := address.groups
    let (start, length) := longestZeros groups
    if length < 2 then joinGroups groups
    else joinGroups (groups.take start) ++ "::" ++ joinGroups (groups.drop (start + length))

end Ipv6

def Address.text : Address → String
  | .v4 address => address.text
  | .v6 address => address.text

end ServiceDiscovery

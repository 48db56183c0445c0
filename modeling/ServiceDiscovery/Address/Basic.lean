import ServiceDiscovery.Octets.BigEndian
import ServiceDiscovery.Ordered.Ascending

/-!
# Internet addresses

An `Address` belongs to one of two families, `Ipv4` and `Ipv6`. Addresses are
ordered by `Address.rank`, all of the first family before those of the second
and by number inside a family. An `AddressSet` holds each of its addresses once
and in that order.
-/

namespace ServiceDiscovery

/-- An address of four octets. -/
structure Ipv4 where
  octets : Vector UInt8 4
  deriving DecidableEq, Repr

/-- An address of sixteen octets. -/
structure Ipv6 where
  octets : Vector UInt8 16
  deriving DecidableEq, Repr

def Ipv4.unspecified : Ipv4 where
  octets := .replicate 4 0

def Ipv6.unspecified : Ipv6 where
  octets := .replicate 16 0

def Ipv4.loopback : Ipv4 where
  octets := #v[127, 0, 0, 1]

def Ipv6.loopback : Ipv6 where
  octets := #v[0, 0, 0, 0, 0, 0, 0, 0, 0, 0, 0, 0, 0, 0, 0, 1]

/-- The two kinds of internet addresses, and of sockets. -/
inductive Family where
  | v4
  | v6
  deriving DecidableEq, Repr

/-- An address of either family. -/
inductive Address where
  | v4 (address : Ipv4)
  | v6 (address : Ipv6)
  deriving DecidableEq, Repr

namespace Address

/-- The place of an address in the order of all addresses. -/
def rank : Address → Nat
  | v4 address => Octets.toNat address.octets.toList
  | v6 address => 0x100000000 + Octets.toNat address.octets.toList

end Address

/-- A finite set of addresses, in ascending order. -/
structure AddressSet where
  toList : List Address
  ascending : Ascending Address.rank toList
  deriving DecidableEq, Repr

namespace AddressSet

def empty : AddressSet where
  toList := []
  ascending := Ascending.nil _

def insert (set : AddressSet) (address : Address) : AddressSet where
  toList := Ascending.insert Address.rank address set.toList
  ascending := Ascending.insert_ascending set.ascending address

def ofList (addresses : List Address) : AddressSet :=
  addresses.foldl insert empty

end AddressSet

end ServiceDiscovery

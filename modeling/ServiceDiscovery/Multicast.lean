import ServiceDiscovery.Address.Printer

/-!
# The multicast groups

An `Endpoint` is where datagrams are sent to and where they come from: an
address and a port on it. Questions go to the endpoint of one multicast group
for each address family, `Family.group`. This module holds what all who talk to
a group agree upon.
-/

namespace ServiceDiscovery

structure Endpoint where
  address : Address
  port : UInt16
  deriving DecidableEq, Repr

/-- The address and the port, with brackets around an address that has
colons. -/
def Endpoint.text (endpoint : Endpoint) : String :=
  match endpoint.address with
  | .v4 address => s!"{address.text}:{endpoint.port}"
  | .v6 address => s!"[{address.text}]:{endpoint.port}"

namespace Multicast

def port : UInt16 := 5353

/-- How many hops a question may travel. -/
def hopLimit : Nat := 10

/-- The longest message that is received as a whole, in octets. -/
def maxMessageLength : Nat := 9000

end Multicast

def Family.group (family : Family) : Endpoint where
  address :=
    match family with
    | .v4 => .v4 { octets := #v[224, 0, 0, 251] }
    | .v6 => .v6 { octets := #v[0xff, 0x02, 0, 0, 0, 0, 0, 0, 0, 0, 0, 0, 0, 0, 0, 0xfb] }
  port := Multicast.port

end ServiceDiscovery

import ServiceDiscovery.Multicast

/-!
# Hosts

A `Host` has network interfaces, each with a name, an index and addresses, and an
operating system that carries out what is asked of it for a socket or refuses it.
What the operating system does is not said here: a host is given with what it
refuses (`Host.refusal?`). Socket calls name an interface by a `Device`, which
`Host.device` finds for the address of an interface.
-/

namespace ServiceDiscovery

structure Interface where
  name : String
  /-- The number of the interface, which is not zero. -/
  index : Nat
  addresses : List Address
  deriving DecidableEq, Repr

/-- How the socket calls of a family name an interface: those of `Ipv4` by an
address it owns, those of `Ipv6` by its index. -/
inductive Device where
  | address (address : Ipv4)
  | index (index : Nat)
  deriving DecidableEq, Repr

namespace Device

/-- Leaves the choice to the host. -/
def unspecified : Family → Device
  | .v4 => address .unspecified
  | .v6 => index 0

end Device

/-- A socket of a family, which can be a member of the family's group on several
interfaces and has options for what it sends. -/
structure Socket where
  family : Family
  /-- Where the socket receives, once it is bound. -/
  bound : Option Endpoint := none
  /-- Whether other sockets may be bound to the same endpoint. -/
  shared : Bool := false
  /-- Whether the socket is for its own family alone. -/
  exclusive : Bool := false
  hopLimit : Nat := 1
  /-- Whether the host receives what it sends itself. -/
  loop : Bool := true
  egress : Device := .unspecified family
  /-- The interfaces on which the group is joined. -/
  memberships : List Device := []
  deriving DecidableEq, Repr

/-- What is asked of the operating system for a socket. -/
inductive SocketCall where
  | share
  | setExclusive
  | bind (endpoint : Endpoint)
  | join (device : Device)
  | leave (device : Device)
  | setHopLimit (limit : Nat)
  | setLoop (loop : Bool)
  | setEgress (device : Device)
  deriving DecidableEq, Repr

/-- A socket for which a call was carried out. -/
def Socket.after (socket : Socket) : SocketCall → Socket
  | .share => { socket with shared := true }
  | .setExclusive => { socket with exclusive := true }
  | .bind endpoint => { socket with bound := some endpoint }
  | .join device => { socket with memberships := socket.memberships ++ [device] }
  | .leave device => { socket with memberships := socket.memberships.erase device }
  | .setHopLimit limit => { socket with hopLimit := limit }
  | .setLoop loop => { socket with loop }
  | .setEgress device => { socket with egress := device }

/-- What socket calls depend on. -/
structure Host where
  interfaces : List Interface
  /-- The error number with which the operating system refuses a call, if it
  does. -/
  refusal? : Socket → SocketCall → Option Nat

/-- Why a socket call, or the preparation for one, fails. -/
inductive HostError where
  /-- The operating system refuses with an error number. -/
  | system (number : Nat)
  | noInterface (address : Address)
  | noIpv4Address (interface : String)
  | notJoined (group : Endpoint)
  deriving DecidableEq, Repr

/-- The failure in words, or its number if it has no words here. -/
def HostError.message : HostError → String
  | .system number => toString number
  | .noInterface address => s!"no interface has address {address.text}"
  | .noIpv4Address interface => s!"interface {interface} has no IPv4 address"
  | .notJoined group => s!"{group.text} was not joined"

namespace Host

def interfaceOwning (host : Host) (address : Address) : Except HostError Interface :=
  match host.interfaces.find? fun interface => address ∈ interface.addresses with
  | some interface => .ok interface
  | none => .error (.noInterface address)

/-- The first address of the `Ipv4` family that an interface owns. -/
def ipv4Address (interface : Interface) : Except HostError Ipv4 :=
  let address? := interface.addresses.findSome? fun
    | .v4 address => some address
    | .v6 _ => none
  match address? with
  | some address => .ok address
  | none => .error (.noIpv4Address interface.name)

/-- How the calls of a family name the interface that owns an address. An
address of the `Ipv4` family names its interface itself. -/
def device (host : Host) (family : Family) (owned : Option Address) : Except HostError Device :=
  match family, owned with
  | family, none => .ok (.unspecified family)
  | .v4, some (.v4 address) => .ok (.address address)
  | .v4, some address => do
    let interface ← host.interfaceOwning address
    return .address (← ipv4Address interface)
  | .v6, some address => do
    let interface ← host.interfaceOwning address
    return .index interface.index

end Host

end ServiceDiscovery

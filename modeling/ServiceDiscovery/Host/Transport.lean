import ServiceDiscovery.Error
import ServiceDiscovery.Host.Socket

/-!
# Transports

A `Transport` is what a discovery sends and receives by: a socket for each
address family whose group could be joined. One family is enough. `Exchange` has
a transport talk to one peer for each family on the same host.
-/

namespace ServiceDiscovery

/-- The address families whose groups are joined. -/
structure Transport where
  v4 : Bool
  v6 : Bool
  usable : v4 || v6
  deriving DecidableEq, Repr

namespace Transport

/-- The transport over the families that could be joined. -/
def ofJoined (v4 v6 : Bool) : Except DiscoveryError Transport :=
  if usable : v4 || v6 then .ok { v4, v6, usable } else .error .noUsableInterface

def hasJoined (transport : Transport) : Family → Bool
  | .v4 => transport.v4
  | .v6 => transport.v6

def groups (transport : Transport) : List Endpoint :=
  ([.v4, .v6].filter transport.hasJoined).map Family.group

/-- Why nothing can be sent to the group of a family, if that is so. -/
def sendError? (transport : Transport) (family : Family) : Option HostError :=
  if transport.hasJoined family then none else some (.notJoined family.group)

end Transport

/-- Whether the group of a family can be joined on the interface that owns an
address. -/
def Host.joins (host : Host) (owned : Option Address) (family : Family) : Bool :=
  (host.bind family owned).isOk

/-- A transport and the datagrams that its sockets have not received yet. -/
structure Exchange where
  transport : Transport
  /-- The datagrams with the family they came by, the oldest one first. -/
  waiting : List (Family × Message) := []
  deriving DecidableEq, Repr

namespace Exchange

/-- The peer of a family sends a datagram to the transport. -/
def deliver (exchange : Exchange) (family : Family) (datagram : Message) : Exchange :=
  { exchange with waiting := exchange.waiting ++ [(family, datagram)] }

/-- Receives the oldest datagram into a buffer, what is beyond its end is
lost. -/
def receive (exchange : Exchange) (size : Nat) : Option Message × Exchange :=
  match exchange.waiting with
  | [] => (none, exchange)
  | (_, datagram) :: rest => (some (datagram.take size), { exchange with waiting := rest })

structure Receipt where
  /-- How many octets are reported to have been sent. -/
  reported : Nat
  datagram : Message
  /-- Whether it gets it from the transport's socket. -/
  fromTransport : Bool
  deriving DecidableEq, Repr

/-- Sends a datagram to the peer of a family, which gets it as a whole. -/
def send (exchange : Exchange) (family : Family) (datagram : Message) :
    Except HostError Receipt :=
  match exchange.transport.sendError? family with
  | some cause => .error cause
  | none => .ok { reported := datagram.size, datagram, fromTransport := true }

end Exchange

end ServiceDiscovery

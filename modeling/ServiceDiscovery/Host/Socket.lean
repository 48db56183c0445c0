import ServiceDiscovery.Host.Basic

/-!
# Multicast sockets

A `SocketAction` is a sequence of calls for one socket. It ends at the first call
that is refused, and what was carried out before stays. `Host.bind` makes a socket
that takes part in a discovery: bound to the port of the group, a member of it, and
with the options of a question.
-/

namespace ServiceDiscovery

/-- Calls for a socket, one after the other. -/
abbrev SocketAction := EStateM HostError Socket

namespace Socket

/-- Asks the operating system for one call. -/
def call (host : Host) (call : SocketCall) : SocketAction Unit := fun socket =>
  match host.refusal? socket call with
  | some number => .error (.system number) socket
  | none => .ok () (socket.after call)

/-- How the calls for the socket name the interface that owns an address. -/
def device (host : Host) (owned : Option Address) : SocketAction Device := do
  MonadExcept.ofExcept (host.device (← get).family owned)

/-- Joins the group on the interface that owns an address. -/
def join (host : Host) (owned : Option Address) : SocketAction Unit := do
  call host (.join (← device host owned))

/-- Leaves the group on the interface that owns an address. -/
def leave (host : Host) (owned : Option Address) : SocketAction Unit := do
  call host (.leave (← device host owned))

/-- Sets the options of a question, the interface it leaves by only if there is an
address of it. -/
def configureEgress (host : Host) (owned : Option Address) : SocketAction Unit := do
  call host (.setHopLimit Multicast.hopLimit)
  call host (.setLoop true)
  if owned.isSome then
    call host (.setEgress (← device host owned))

end Socket

/-- All addresses of a family, on the port of the groups. -/
def Family.listeningEndpoint (family : Family) : Endpoint where
  address :=
    match family with
    | .v4 => .v4 .unspecified
    | .v6 => .v6 .unspecified
  port := Multicast.port

namespace Socket

/-- Has a new socket take part in a discovery on the interface that owns an
address. -/
def takePart (host : Host) (owned : Option Address) : SocketAction Unit := do
  let family := (← get).family
  call host .share
  if family = .v6 then
    call host .setExclusive
  call host (.bind family.listeningEndpoint)
  join host owned
  configureEgress host owned

end Socket

/-- Makes a socket that takes part in a discovery on the interface that owns an
address. -/
def Host.bind (host : Host) (family : Family) (owned : Option Address) :
    Except HostError Socket :=
  match Socket.takePart host owned { family } with
  | .ok () socket => .ok socket
  | .error cause _ => .error cause

end ServiceDiscovery

import ServiceDiscovery.Discovery.Run
import ServiceDiscovery.Host.Transport
import ServiceDiscovery.Service.Domain

/-!
# Queries

A `Query` says what a discovery looks for, and `Query.run` looks for it on a
network, which is given by the groups that can be joined on each interface and by
what arrives.
-/

namespace ServiceDiscovery

/-- What a discovery looks for, and how. -/
structure Query where
  type : ServiceType
  domain : Domain := .linkLocal
  /-- How long nothing has to arrive for the discovery to end, in
  milliseconds. -/
  window : Nat := 750
  /-- An address of the interface to use, the host chooses if there is none. -/
  interface : Option Address := none
  deriving DecidableEq, Repr

namespace Query

def question (query : Query) : Question :=
  .browse query.type query.domain

/-- Runs the discovery over the groups that `joins` allows for the interface,
against what arrives there. -/
def run (query : Query) (joins : Option Address → Family → Bool)
    (arrivals : List Discovery.Arrival) : Except DiscoveryError (List Instance) := do
  let joined := joins query.interface
  let transport ← Transport.ofJoined (joined .v4) (joined .v6)
  (Discovery.run query.question query.window transport.groups arrivals []).result

end Query

end ServiceDiscovery

import ServiceDiscovery.Error
import ServiceDiscovery.Name.Basic

/-!
# Service types

A `ServiceType` such as `_http._tcp` is a protocol with the label of a service
in front of it, or a protocol alone. `ServiceType.parse` accepts just the names
of service types, each of them also with a final dot.
-/

namespace ServiceDiscovery

/-- The transport protocol of a service. -/
inductive Protocol where
  | tcp
  | udp
  deriving DecidableEq, Repr

namespace Protocol

def label : Protocol → String
  | tcp => "_tcp"
  | udp => "_udp"

def ofLabel? (label : String) : Option Protocol :=
  if label = tcp.label then some tcp
  else if label = udp.label then some udp
  else none

end Protocol

/-- Whether a label can name a service: an underscore, and behind it one or more
letters, digits and hyphens of ASCII. -/
def isServiceLabel (label : String) : Bool :=
  match label.toList with
  | '_' :: body =>
    body ≠ [] && label.utf8ByteSize ≤ Name.maxLabelLength &&
      body.all fun c => c.isAlphanum || c = '-'
  | _ => false

/-- What kind of service, and over which protocol. -/
structure ServiceType where
  service : Option String
  protocol : Protocol
  service_valid : ∀ label ∈ service, isServiceLabel label = true
  deriving DecidableEq, Repr

/-- A text without the dot it ends with, if it ends with one. -/
def Name.dropFinalDot (name : Name) : Name :=
  if name.toList.getLast? = some '.' then String.ofList name.toList.dropLast else name

namespace ServiceType

/-- The labels of a service type, that of the service first. -/
def labels (type : ServiceType) : List String :=
  type.service.toList ++ [type.protocol.label]

def name (type : ServiceType) : String :=
  ".".intercalate type.labels

/-- A service type as it is shown, its name without a final dot. -/
def display (type : ServiceType) : String :=
  type.name

def ofLabels? : List String → Option ServiceType
  | [protocol] =>
    (Protocol.ofLabel? protocol).map fun protocol =>
      { service := none, protocol, service_valid := by simp }
  | [service, protocol] =>
    if h : isServiceLabel service = true then
      (Protocol.ofLabel? protocol).map fun protocol =>
        { service := some service, protocol, service_valid := by simpa using h }
    else
      none
  | _ => none

def parse (text : String) : Except DiscoveryError ServiceType :=
  match ofLabels? (Name.dropFinalDot text).pieces with
  | some type => .ok type
  | none => .error (.invalidServiceType text)

end ServiceType

end ServiceDiscovery

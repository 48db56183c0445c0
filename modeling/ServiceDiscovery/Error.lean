import ServiceDiscovery.Text.Quoted

/-!
# Causes of refusal and failure

`WireError` lists why a message, or a part of one, can be neither read nor
written, and `DiscoveryError` lists why a discovery fails or can't begin.
`WireError.message` and `DiscoveryError.message` say it in words. Messages that
are refused while listening are no failures, they are passed over.
-/

namespace ServiceDiscovery

/-- Why a message can't be read or written. -/
inductive WireError where
  /-- Fewer octets are left than a header has. -/
  | headerTooShort
  /-- The message ends before the field that is being read does. -/
  | unexpectedEnd
  /-- A name leaves the message, refers forward or has a reserved length
  octet. -/
  | malformedName
  | labelNotText
  /-- A label or an attribute has `length` octets, more than its length octet
  may count. -/
  | labelTooLong (length : Nat)
  | unsupportedRecordType (code : UInt16)
  | invalidClass (code : UInt16)
  | invalidQueryType (code : UInt16)
  | invalidQueryClass (code : UInt16)
  /-- An address record whose data has not the size of an address. -/
  | invalidAddress
  | notAResponse
  /-- A response with an operation or a response code other than zero. -/
  | unsupportedOperation
  /-- One section can't count any more entries. -/
  | tooManyEntries
  /-- A sum of positions is no word, and reading is broken off there. -/
  | overflow
  deriving DecidableEq, Repr

namespace WireError

def message : WireError → String
  | headerTooShort => "packet is smaller than header size"
  | unexpectedEnd => "packet has incomplete data"
  | malformedName => "domain name is malformed"
  | labelNotText => "invalid characters encountered while reading label"
  | labelTooLong length => s!"label of {length} bytes is too long for a domain name"
  | unsupportedRecordType code => s!"record type {code} is not supported"
  | invalidClass code => s!"class {code} is invalid"
  | invalidQueryType code => s!"query type {code} is invalid"
  | invalidQueryClass code => s!"query class {code} is invalid"
  | invalidAddress => "address record has wrong (too short or too long) RDATA"
  | notAResponse => "packet is not a DNS response"
  | unsupportedOperation => "mDNS responses can't carry OPCODE or RCODE values"
  | tooManyEntries => "too many entries in a single section"
  | overflow => "attempt to add with overflow"

end WireError

/-- Why a discovery fails or can't begin. -/
inductive DiscoveryError where
  /-- The group of neither address family could be joined. -/
  | noUsableInterface
  | invalidServiceType (text : String)
  | invalidDomain (text : String)
  | encode (cause : WireError)
  deriving DecidableEq, Repr

def DiscoveryError.message : DiscoveryError → String
  | noUsableInterface => "could not join the mDNS group on any address family"
  | invalidServiceType text => s!"{Text.quoted text} is not a valid service type"
  | invalidDomain text => s!"{Text.quoted text} is not a valid domain"
  | encode cause => s!"failed to encode query: {cause.message}"

end ServiceDiscovery

import ServiceDiscovery.Wire.Reader

/-!
# Message headers

Every message begins with a `Header` of twelve octets: an id, a word of flags
and the number of entries in each of the four sections. A header can be changed
in a message in place, with `Header.overwrite` as a whole and with
`Header.increment` in one of its counts.
-/

namespace ServiceDiscovery

/-- The twelve octets that every message begins with. -/
structure Header where
  id : UInt16 := 0
  flags : UInt16 := 0
  questions : UInt16 := 0
  answers : UInt16 := 0
  nameservers : UInt16 := 0
  additional : UInt16 := 0
  deriving DecidableEq, Repr

namespace Header

def size : Nat := 12

/-- Whether the message is a response, the top bit of the flags. -/
def isResponse (header : Header) : Bool :=
  header.flags &&& 0x8000 ≠ 0

/-- The kind of operation, zero for a standard query. -/
def opcode (header : Header) : UInt8 :=
  ((header.flags &&& 0x7800) >>> 11).toUInt8

/-- Whether the responder is an authority for the names. -/
def authoritative (header : Header) : Bool :=
  header.flags &&& 0x0400 ≠ 0

/-- Whether more of the response is to follow in other messages. -/
def truncated (header : Header) : Bool :=
  header.flags &&& 0x0200 ≠ 0

/-- How the operation went, zero for success. -/
def responseCode (header : Header) : UInt8 :=
  (header.flags &&& 0x000f).toUInt8

/-- The number of records in all sections that hold records. -/
def records (header : Header) : Nat :=
  header.answers.toNat + header.nameservers.toNat + header.additional.toNat

/-- The fields in the order of transmission. -/
def fields (header : Header) : List UInt16 :=
  [header.id, header.flags, header.questions, header.answers, header.nameservers,
    header.additional]

def octets (header : Header) : List UInt8 :=
  header.fields.flatMap fun field => Octets.ofNat 2 field.toNat

/-- Reads a header, if there is room for one. -/
def read : Reader Header := do
  if (← Reader.remaining) < size then
    throw .headerTooShort
  else
    let id ← Reader.u16
    let flags ← Reader.u16
    let questions ← Reader.u16
    let answers ← Reader.u16
    let nameservers ← Reader.u16
    let additional ← Reader.u16
    return { id, flags, questions, answers, nameservers, additional }

/-- Replaces the header at the beginning of a message. -/
def overwrite (header : Header) (message : Message) : Message :=
  header.octets.toArray ++ message.extract size

/-- The number of two octets at `offset` in a message. -/
def fieldAt (offset : Nat) (message : Message) : UInt16 :=
  (Octets.toNat [message.getD offset 0, message.getD (offset + 1) 0]).toUInt16

/-- Replaces the number of two octets at `offset` in a message. -/
def setFieldAt (offset : Nat) (field : UInt16) (message : Message) : Message :=
  (message.setIfInBounds offset (field >>> 8).toUInt8).setIfInBounds (offset + 1) field.toUInt8

def questionCount (message : Message) : UInt16 :=
  fieldAt 4 message

def answerCount (message : Message) : UInt16 :=
  fieldAt 6 message

/-- Counts one more entry in the number of two octets at `offset` in a message, in place,
and gives the new number. A number that two octets can't hold is refused, and the
message stays as it is. -/
def increment (offset : Nat) : EStateM WireError Message UInt16 := fun message =>
  let count := fieldAt offset message
  if count = 0xffff then .error .tooManyEntries message
  else .ok (count + 1) (setFieldAt offset (count + 1) message)

def incrementQuestions : EStateM WireError Message UInt16 :=
  increment 4

/-- The message with one more question counted in its header, if the count can go
higher. -/
def countQuestion (message : Message) : Except WireError Message :=
  match incrementQuestions message with
  | .ok _ counted => .ok counted
  | .error cause _ => .error cause

end Header

end ServiceDiscovery

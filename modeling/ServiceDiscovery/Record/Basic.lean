import ServiceDiscovery.Question
import ServiceDiscovery.Record.Data

/-!
# Records

A `Record` says something about the name it has. How long it may be remembered
is part of it, so that records that differ in nothing else are still different
records.
-/

namespace ServiceDiscovery

structure Record where
  name : Name
  cls : RecordClass := .internet
  /-- For how many seconds the record may be remembered. -/
  ttl : UInt32
  data : RecordData
  deriving DecidableEq, Repr

namespace Record

def type (record : Record) : RecordType :=
  record.data.type

/-- Reads a record. The top bit of its class field is passed over. -/
def read : Reader Record := do
  let name ← Reader.name
  let type ← Reader.ofExcept (RecordType.ofCode (← Reader.u16))
  let cls ← Reader.ofExcept (RecordClass.ofCode ((← Reader.u16) &&& ~~~classTopBit))
  let ttl ← Reader.u32
  let length ← Reader.u16
  let data ← RecordData.read type length.toNat
  return { name, cls, ttl, data }

def display (record : Record) : String :=
  s!"{record.name} {record.type.mnemonic} ttl={record.ttl} {record.data.display}"

end Record

/-- Whether a record has the name that a question asks for. Its type is of no
account. -/
def Question.answeredBy (question : Question) (record : Record) : Bool :=
  record.name = question.name

end ServiceDiscovery

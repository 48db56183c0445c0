import ServiceDiscovery.Wire.Code
import ServiceDiscovery.Wire.Reader

/-!
# Questions

A `Question` asks for the records with a name, a type and a class. Two questions
are the same if all three agree, and a record answers a question if it has the
name the question asks for.
-/

namespace ServiceDiscovery

structure Question where
  name : Name
  type : QueryType
  cls : QueryClass
  deriving DecidableEq, Repr

namespace Question

/-- The question for the internet records of a type. -/
def internet (name : Name) (type : QueryType) : Question where
  name := name
  type := type
  cls := .internet

/-- Reads a question. The top bit of its class field is passed over. -/
def read : Reader Question := do
  let name ← Reader.name
  let type ← Reader.ofExcept (QueryType.ofCode (← Reader.u16))
  let cls ← Reader.ofExcept (QueryClass.ofCode ((← Reader.u16) &&& ~~~classTopBit))
  return { name, type, cls }

/-- The octets of a question, its class field with the top bit set to ask for a
unicast response. -/
def octets (question : Question) (unicast : Bool) : Except WireError (List UInt8) :=
  let classField := if unicast then question.cls.code ||| classTopBit else question.cls.code
  question.name.write.map fun name =>
    name ++ Octets.ofNat 2 question.type.code.toNat ++ Octets.ofNat 2 classField.toNat

/-- The name, the type and the class of a question, with a blank between
them. -/
def display (question : Question) : String :=
  s!"{question.name} {question.type.mnemonic} {question.cls.mnemonic}"

end Question

end ServiceDiscovery

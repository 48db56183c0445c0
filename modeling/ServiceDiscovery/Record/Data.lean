import ServiceDiscovery.Address.Printer
import ServiceDiscovery.Attributes
import ServiceDiscovery.Wire.Code
import ServiceDiscovery.Wire.Reader

/-!
# Record data

`RecordData` is what a record says: an address, the name it points to, where a
service is to be found or its attributes. `RecordData.read` reads the data of a
type that a record announces a length for, and `RecordData.octets` lays data
out.
-/

namespace ServiceDiscovery

/-- What a record says, which depends on its type. -/
inductive RecordData where
  | a (address : Ipv4)
  | aaaa (address : Ipv6)
  | ptr (target : Name)
  | srv (priority weight port : UInt16) (target : Name)
  | txt (attributes : Attributes)
  deriving DecidableEq, Repr

namespace RecordData

def type : RecordData → RecordType
  | a _ => .a
  | aaaa _ => .aaaa
  | ptr _ => .ptr
  | srv .. => .srv
  | txt _ => .txt

def ptrTarget? : RecordData → Option Name
  | ptr target => some target
  | _ => none

/-- The port of a service and the host it is on, from an SRV record. -/
def location? : RecordData → Option (UInt16 × Name)
  | srv _ _ port target => some (port, target)
  | _ => none

/-- The attributes of a service, from a TXT record. -/
def attributes? : RecordData → Option Attributes
  | txt attributes => some attributes
  | _ => none

/-- The address of a host, from an address record of either family. -/
def address? : RecordData → Option Address
  | a address => some (.v4 address)
  | aaaa address => some (.v6 address)
  | _ => none

/-- What a person would recognise of the name that a PTR record points to. -/
def userVisibleName? (data : RecordData) : Option String :=
  data.ptrTarget?.map Name.userVisible

/-- Where data of `length` octets ends that begins at `start`. -/
def payloadEnd (start length : Nat) : Nat :=
  start + length

/-- Computes the end of data in words, before anything is compared with it: a sum
that is no word breaks reading off. A sum inside the message is always a word, for
no message has more octets than there are words. -/
def computeEnd (start length : Nat) : Reader Nat := fun message position =>
  let stop := payloadEnd start length
  if Word.limit ≤ stop ∧ message.size < stop then .error .overflow position
  else .ok stop position

section

variable {message : Message} {start length position : Nat}

theorem computeEnd_of_overflow (hword : Word.limit ≤ start + length)
    (hbeyond : message.size < start + length) :
    computeEnd start length message position = .error .overflow position :=
  if_pos ⟨hword, hbeyond⟩

theorem computeEnd_of_word (h : start + length < Word.limit ∨ start + length ≤ message.size) :
    computeEnd start length message position = .ok (payloadEnd start length) position :=
  if_neg fun ⟨hword, hbeyond⟩ => by
    simp only [payloadEnd] at hword hbeyond
    omega

theorem computeEnd_eq_ok_iff {stop last : Nat} :
    computeEnd start length message position = .ok stop last ↔
      (start + length < Word.limit ∨ start + length ≤ message.size) ∧
        payloadEnd start length = stop ∧ position = last := by
  by_cases h : start + length < Word.limit ∨ start + length ≤ message.size
  · simp [computeEnd_of_word h, h]
  · rw [computeEnd_of_overflow (by omega) (by omega)]
    simp [h]

end

/-- Reads data of a type, `length` octets if it is of a fixed size or made of
strings. A name is read to its own end, be it in front of the end of the data or
behind it. -/
def readPayload (type : RecordType) (length : Nat) : Reader RecordData :=
  match type with
  | .a => do
    if length = 4 then return a { octets := ← Reader.octets 4 }
    else throw .invalidAddress
  | .aaaa => do
    if length = 16 then return aaaa { octets := ← Reader.octets 16 }
    else throw .invalidAddress
  | .ptr => do
    if length = 0 then return ptr ""
    else return ptr (← Reader.name)
  | .srv => do
    if length < 7 then
      throw .unexpectedEnd
    else
      let priority ← Reader.u16
      let weight ← Reader.u16
      let port ← Reader.u16
      let target ← Reader.name
      return srv priority weight port target
  | .txt => do
    let octets ← Reader.octets length
    return txt (← Reader.ofExcept (Attributes.decode octets.toList))

/-- Reads data of a type that takes `length` octets, and moves to the end of it
whatever was read. -/
def read (type : RecordType) (length : Nat) : Reader RecordData := do
  let stop ← computeEnd (← Reader.position) length
  if (← Reader.remaining) < length then
    throw .unexpectedEnd
  else
    let data ← readPayload type length
    Reader.seek stop
    return data

def octets : RecordData → Except WireError (List UInt8)
  | a address => .ok address.octets.toList
  | aaaa address => .ok address.octets.toList
  | ptr target => target.write
  | srv priority weight port target =>
    target.write.map fun target =>
      Octets.ofNat 2 priority.toNat ++ Octets.ofNat 2 weight.toNat ++ Octets.ofNat 2 port.toNat ++
        target
  | txt attributes => attributes.octets

/-- Attributes in the order of their keys, keys and values quoted. -/
def displayAttributes (attributes : Attributes) : String :=
  "\x7b" ++ ", ".intercalate (attributes.toList.map fun (key, value) =>
    s!"{Text.quoted key}: {Text.quoted value}") ++ "\x7d"

def display : RecordData → String
  | a address => s!"A({address.text})"
  | aaaa address => s!"AAAA({address.text})"
  | ptr target => s!"PTR({Text.quoted target})"
  | srv priority weight port target =>
    "SRV \x7b " ++
      s!"priority: {priority}, weight: {weight}, port: {port}, target: {Text.quoted target}" ++
      " \x7d"
  | txt attributes => s!"TXT({displayAttributes attributes})"

end RecordData

end ServiceDiscovery

import ServiceDiscovery.Name.Decoder

/-!
# Readers

A `Reader` reads a part of a message from a position on. It ends with a value or
with the cause of a refusal, and either way at a position: `Reader.octets`,
`Reader.name` and `Reader.seek` stay where they were when they refuse, a reader
made of several stops in front of the one that refused.
-/

namespace ServiceDiscovery

/-- Reads a value from a message, starting at a position and moving it. -/
abbrev Reader := ReaderT Message (EStateM WireError Nat)

namespace Reader

/-- Goes on with a value, or refuses for a cause, without reading anything. -/
def ofExcept {α : Type} (result : Except WireError α) : Reader α := fun _ position =>
  match result with
  | .ok value => .ok value position
  | .error cause => .error cause position

def position : Reader Nat := fun _ position =>
  .ok position position

/-- The number of octets from the position to the end of the message. -/
def remaining : Reader Nat := fun message position =>
  .ok (message.size - position) position

/-- Moves to a position of the message, or to its end. -/
def seek (target : Nat) : Reader Unit := fun message position =>
  if message.size < target then .error .unexpectedEnd position
  else .ok () target

def octets (count : Nat) : Reader (Vector UInt8 count) := fun message position =>
  if h : position + count ≤ message.size then
    .ok ⟨message.extract position (position + count), by simp; omega⟩ (position + count)
  else
    .error .unexpectedEnd position

/-- Reads an unsigned number of `width` octets. -/
def number (width : Nat) : Reader Nat :=
  return Octets.toNat (← octets width).toList

def u8 : Reader UInt8 :=
  return (← number 1).toUInt8

def u16 : Reader UInt16 :=
  return (← number 2).toUInt16

def u32 : Reader UInt32 :=
  return (← number 4).toUInt32

/-- Reads a name, following its references, and moves behind the part of it that
stands at the position. -/
def name : Reader Name := fun message position =>
  match Name.decode message position with
  | .error cause => .error cause position
  | .ok reading => .ok reading.text (position + reading.consumed)

/-- Reads `count` values of one kind, one behind the other. -/
def replicate {α : Type} (reader : Reader α) : (count : Nat) → Reader (List α)
  | 0 => pure []
  | count + 1 => do
    let value ← reader
    let values ← replicate reader count
    return value :: values

/-- The value read from the beginning of a message, or the cause of a
refusal. -/
def value {α : Type} (reader : Reader α) (message : Message) : Except WireError α :=
  match reader message 0 with
  | .ok value _ => .ok value
  | .error cause _ => .error cause

end Reader

end ServiceDiscovery

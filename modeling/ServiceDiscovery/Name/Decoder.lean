import ServiceDiscovery.Name.Basic

/-!
# Names in a message

A name in a message is a run of labels, each behind its length octet, that ends
with the root label or with a reference to a name that begins earlier in the
message. `Name.Cursor` walks over such a name, `Name.Cursor.step` looks at one
of its elements and `Name.decode` takes steps until the name ends.

A reference has to point below the beginning of the run it ends.
`Name.Cursor.measure` decreases in every step for that reason, so the walk comes
to an end on any message.
-/

namespace ServiceDiscovery

namespace Name

/-- The labels of a name in a message, and the number of octets the name
occupies where it stands: through its root label or its first reference. -/
structure Reading where
  labels : List String
  consumed : Nat
  deriving DecidableEq, Repr

namespace Reading

def text (reading : Reading) : Name :=
  ofLabels reading.labels

end Reading

/-- A place inside a name that is being read. -/
structure Cursor where
  /-- Where the next element stands. -/
  position : Nat
  /-- Where the run of labels began, references have to point below it. -/
  floor : Nat
  /-- Just behind the first reference, once one was met. -/
  resume : Option Nat
  /-- The labels met so far, the last one first. -/
  labels : List String
  deriving DecidableEq, Repr

namespace Cursor

def atStart (start : Nat) : Cursor where
  position := start
  floor := start
  resume := none
  labels := []

/-- Where reading goes on behind a name whose root label ends at `stop`. -/
def stop (cursor : Cursor) (stop : Nat) : Nat :=
  cursor.resume.getD stop

/-- What one element of a name leads to. -/
inductive Move where
  /-- The name goes on at another place. -/
  | next (cursor : Cursor)
  /-- The name is complete. It has `labels`, the last one first, and reading
  goes on at `stop`. -/
  | done (labels : List String) (stop : Nat)
  deriving DecidableEq, Repr

/-- The position that a reference octet and the octet behind it point to. -/
def referenceTarget (high low : UInt8) : Nat :=
  Octets.toNat [high &&& 0x3f, low]

/-- Looks at the element under the cursor. Its two top bits are both set in a
reference and both clear in a label, whose length the other bits count. -/
def step (message : Message) (cursor : Cursor) : Except WireError Move :=
  match message[cursor.position]? with
  | none => .error .malformedName
  | some octet =>
    if octet &&& 0xc0 = 0xc0 then
      match message[cursor.position + 1]? with
      | none => .error .malformedName
      | some low =>
        let target := referenceTarget octet low
        if cursor.floor ≤ target then
          .error .malformedName
        else
          .ok (.next {
            cursor with
            position := target
            floor := target
            resume := some (cursor.stop (cursor.position + 2)) })
    else if octet &&& 0xc0 = 0 then
      let first := cursor.position + 1
      let last := first + octet.toNat
      if message.size < last then
        .error .malformedName
      else if octet = 0 then
        .ok (.done cursor.labels (cursor.stop first))
      else
        match String.fromUTF8? ⟨message.extract first last⟩ with
        | none => .error .labelNotText
        | some label =>
          .ok (.next { cursor with position := last, labels := label :: cursor.labels })
    else
      .error .malformedName

/-- Bounds the number of elements still to be looked at. A label brings the
position nearer to the end of the message, a reference lowers the floor. -/
def measure (message : Message) (cursor : Cursor) : Nat :=
  cursor.floor * (message.size + 1) + (message.size - cursor.position)

/-- Every step that does not end the name decreases the measure. -/
theorem measure_lt_of_step {message : Message} {cursor after : Cursor}
    (h : cursor.step message = .ok (.next after)) :
    after.measure message < cursor.measure message := by
  unfold step at h
  split at h
  · simp at h
  next octet hoctet =>
    have hposition : cursor.position < message.size := by
      have := Array.getElem?_eq_some_iff.mp hoctet
      exact this.1
    split at h
    · split at h
      · simp at h
      next low hlow =>
        simp only at h
        split at h
        · simp at h
        next hfloor =>
          simp only [Except.ok.injEq, Move.next.injEq] at h
          subst h
          simp only [measure]
          have := Nat.mul_le_mul_right (message.size + 1) (Nat.lt_of_not_le hfloor)
          rw [Nat.succ_mul] at this
          omega
    · split at h
      · simp only at h
        split at h
        · simp at h
        · split at h
          · simp at h
          · split at h
            · simp at h
            · simp only [Except.ok.injEq, Move.next.injEq] at h
              subst h
              simp only [measure]
              omega
      · simp at h

/-- Walks from the cursor to the end of the name. The labels come with the last
one first, behind them the position where reading goes on. -/
def walk (message : Message) (cursor : Cursor) : Except WireError (List String × Nat) :=
  match _h : cursor.step message with
  | .error cause => .error cause
  | .ok (.done labels stop) => .ok (labels, stop)
  | .ok (.next after) => after.walk message
termination_by cursor.measure message
decreasing_by exact measure_lt_of_step ‹_›

end Cursor

/-- Reads the name at `start`, following its references. -/
def decode (message : Message) (start : Nat) : Except WireError Reading :=
  ((Cursor.atStart start).walk message).map fun (labels, stop) =>
    { labels := labels.reverse, consumed := stop - start }

end Name

end ServiceDiscovery

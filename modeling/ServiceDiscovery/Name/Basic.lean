import ServiceDiscovery.Error
import ServiceDiscovery.Octets.BigEndian

/-!
# Domain names

A domain name is kept as dotted text. `Name.labels` are the labels the text
stands for, `Name.ofLabels` spells labels out again, each followed by a dot, and
`Name.write` lays a name out in a message, each label behind its length octet
and the empty root label at the end.
-/

namespace ServiceDiscovery

/-- The dotted text of a domain name, with or without the final dot. -/
abbrev Name := String

namespace Name

/-- The longest label that a length octet can count, in octets. -/
def maxLabelLength : Nat := 63

/-- The stretches of text between the dots of a name, empty ones included. -/
def pieces (name : Name) : List String :=
  (name.toList.splitOn '.').map String.ofList

/-- The labels a name stands for, its pieces that are not empty. -/
def labels (name : Name) : List String :=
  name.pieces.filter (· ≠ "")

/-- The text of a sequence of labels, a dot after each of them. The root name,
which has none, is the empty text. -/
def ofLabels (labels : List String) : Name :=
  String.join (labels.map (· ++ "."))

/-- The text that has the labels of `name` and no dots besides theirs. -/
def normalize (name : Name) : Name :=
  ofLabels name.labels

/-- The octets of one label, behind the octet that counts them. -/
def labelOctets (label : String) : List UInt8 :=
  label.utf8ByteSize.toUInt8 :: label.toUTF8.data.toList

/-- Lays out labels and the root label after them. A label that is too long is
refused, the first one if there are several. -/
def writeLabels : List String → Except WireError (List UInt8)
  | [] => .ok [0]
  | label :: rest =>
    if maxLabelLength < label.utf8ByteSize then
      .error (.labelTooLong label.utf8ByteSize)
    else
      (writeLabels rest).map (labelOctets label ++ ·)

/-- Lays out a name in full. Dots that separate nothing are of no account. -/
def write (name : Name) : Except WireError (List UInt8) :=
  writeLabels name.labels

/-- Stands in for a first label that is missing. -/
def untitled : String := "Untitled"

/-- The part of an instance's name that a person would recognise: the text in
front of the first dot, or `untitled` if there is none. -/
def userVisible (name : Name) : String :=
  match name.pieces with
  | [] | "" :: _ => untitled
  | label :: _ => label

end Name

end ServiceDiscovery

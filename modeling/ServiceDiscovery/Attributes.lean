import ServiceDiscovery.Ordered.Ascending
import ServiceDiscovery.Text.Lossy
import ServiceDiscovery.Error

/-!
# Attributes

The `Attributes` of a service are a finite map from keys to values, kept in
ascending order of the keys. In a message they are a sequence of strings, each
behind its length octet. `Attributes.decode` reads such a sequence, splitting
each string at its first equals sign, and `Attributes.octets` writes it.
-/

namespace ServiceDiscovery

/-- A finite map from keys to values. -/
structure Attributes where
  toList : List (String × String)
  ascending : Ascending Prod.fst toList
  deriving DecidableEq, Repr

namespace Attributes

def empty : Attributes where
  toList := []
  ascending := Ascending.nil _

/-- Gives a key its value, unless it has one already. -/
def insert (attributes : Attributes) (entry : String × String) : Attributes where
  toList := Ascending.insert Prod.fst entry attributes.toList
  ascending := Ascending.insert_ascending attributes.ascending entry

/-- The map with the given entries. The first entry for a key counts. -/
def ofList (entries : List (String × String)) : Attributes :=
  entries.foldl insert empty

def get? (attributes : Attributes) (key : String) : Option String :=
  (attributes.toList.find? fun entry => entry.1 = key).map Prod.snd

/-- The longest string that a length octet can count, in octets. -/
def maxStringLength : Nat := 255

/-- Cuts octets into the strings they are made of, each behind its length octet.
Nothing may be left over. -/
def strings? : List UInt8 → Option (List (List UInt8))
  | [] => some []
  | length :: rest =>
    if rest.length < length.toNat then none
    else
      (strings? (rest.drop length.toNat)).map (rest.take length.toNat :: ·)
termination_by octets => octets.length
decreasing_by simp only [List.length_drop, List.length_cons]; omega

/-- The key and the value in the text of a string: what is in front of the first
equals sign and what is behind it. Without one all is key. -/
def entryOfText (text : String) : String × String :=
  let isKey := fun c => c ≠ '='
  (String.ofList (text.toList.takeWhile isKey),
    String.ofList ((text.toList.dropWhile isKey).drop 1))

def entryText (entry : String × String) : String :=
  entry.1 ++ "=" ++ entry.2

/-- Reads the attributes that octets stand for. Strings that are empty stand for
none. -/
def decode (octets : List UInt8) : Except WireError Attributes :=
  match strings? octets with
  | none => .error .unexpectedEnd
  | some strings =>
    .ok (ofList ((strings.filter (· ≠ [])).map fun string =>
      entryOfText (Text.ofOctets string)))

/-- Lays out entries, refusing the first one that is too long. -/
def entryOctets : List (String × String) → Except WireError (List UInt8)
  | [] => .ok []
  | entry :: rest =>
    let text := entryText entry
    if maxStringLength < text.utf8ByteSize then
      .error (.labelTooLong text.utf8ByteSize)
    else
      (entryOctets rest).map fun others =>
        text.utf8ByteSize.toUInt8 :: text.toUTF8.data.toList ++ others

/-- Lays out attributes. No attributes at all are a single empty string. -/
def octets (attributes : Attributes) : Except WireError (List UInt8) :=
  if attributes.toList = [] then .ok [0] else entryOctets attributes.toList

end Attributes

end ServiceDiscovery

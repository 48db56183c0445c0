import ServiceDiscovery.QueryPacket
import ServiceDiscovery.Record.Basic

/-!
# Responses

A `Response` is a message that answers. The records of its three sections are
one list, since nothing depends on the section a record came from. Room for the
entries of a response is made before they are read, and `ReservingReader` keeps
account of it. Responses are collected with `Response.merge`, and the lookups say
what the collected records tell about a name: where a service is (`srvFor?`), its
attributes (`txtFor?`) and the addresses of a host (`addressesFor`).
-/

namespace ServiceDiscovery

/-- Room that is made for entries before they are read. -/
structure Reservation where
  /-- How many entries are announced. -/
  count : Nat
  /-- What remains of the message at that moment, in octets. -/
  remaining : Nat
  /-- The length of the shortest entry. -/
  minLength : Nat
  /-- For how many entries room is made. -/
  capacity : Nat
  deriving DecidableEq, Repr

/-- Where a reader is, and the room it has made on the way. -/
structure Progress where
  position : Nat
  reservations : List Reservation := []
  deriving DecidableEq, Repr

/-- A reader that makes room for what it is about to read. The room is accounted for
when it refuses, too. -/
abbrev ReservingReader := ReaderT Message (EStateM WireError Progress)

instance : MonadLift Reader ReservingReader where
  monadLift reader := fun message progress =>
    match reader message progress.position with
    | .ok value position => .ok value { progress with position }
    | .error cause position => .error cause { progress with position }

/-- What comes of reading, without the account of the room that was made. -/
def Progress.forget {α : Type} :
    EStateM.Result WireError Progress α → EStateM.Result WireError Nat α
  | .ok value progress => .ok value progress.position
  | .error cause progress => .error cause progress.position

/-- Reads without an account of the room that is made. -/
def ReservingReader.toReader {α : Type} (reader : ReservingReader α) : Reader α :=
  fun message position => Progress.forget (reader message { position })

structure Response where
  header : Header := {}
  questions : List Question := []
  records : List Record := []
  deriving DecidableEq, Repr

namespace Response

/-- The length of a question for the root: its name, its type and its class. -/
def minQuestionLength : Nat := 5

/-- The length of a record of the root without data: its name, its type, its
class, how long it may be remembered and the length of its data. -/
def minRecordLength : Nat := 11

/-- For how many entries room is made before they are read: for those that are
announced, but for no more than what remains of the message could hold. -/
def capacityFor (count remaining minLength : Nat) : Nat :=
  min count (remaining / minLength)

/-- The room for entries that are announced. -/
def reservation (count remaining minLength : Nat) : Reservation where
  count := count
  remaining := remaining
  minLength := minLength
  capacity := capacityFor count remaining minLength

/-- Makes room for `count` entries of `minLength` octets or more. -/
def reserve (count minLength : Nat) : ReservingReader Unit := fun message progress =>
  let made := reservation count (message.size - progress.position) minLength
  .ok () { progress with reservations := progress.reservations ++ [made] }

/-- Reads a response, all of whose entries have to be complete. -/
def readReserving : ReservingReader Response := do
  let header ← Header.read
  if ¬header.isResponse then
    throw .notAResponse
  else if header.opcode ≠ 0 ∨ header.responseCode ≠ 0 then
    throw .unsupportedOperation
  else
    reserve header.questions.toNat minQuestionLength
    let questions ← Question.read.replicate header.questions.toNat
    reserve header.records minRecordLength
    let records ← Record.read.replicate header.records
    return { header, questions, records }

def read : Reader Response :=
  readReserving.toReader

/-- The response that a message is. What follows the last record is of no
account. -/
def decode (message : Message) : Except WireError Response :=
  read.value message

/-- Whether any record has the name of one of the questions. -/
def answers (response : Response) (questions : List Question) : Bool :=
  questions.any fun question => response.records.any question.answeredBy

/-- Appends a record unless it is in the list already. -/
def addRecord (records : List Record) (record : Record) : List Record :=
  if record ∈ records then records else records ++ [record]

/-- Adds the records of another response that this one does not have yet. -/
def merge (response other : Response) : Response :=
  { response with records := other.records.foldl addRecord response.records }

/-- What a response grows to when others are merged into it one by one, the
response itself first. -/
def merges (response : Response) : List Response → List Response
  | [] => [response]
  | other :: others => response :: (response.merge other).merges others

def recordsFor (response : Response) (name : Name) : List Record :=
  response.records.filter (·.name = name)

/-- The PTR records, as pairs of their name and their target. -/
def ptrRecords (response : Response) : List (Name × Name) :=
  response.records.filterMap fun record =>
    record.data.ptrTarget?.map fun target => (record.name, target)

def srvTargets (response : Response) : List Name :=
  response.records.filterMap fun record => record.data.location?.map Prod.snd

/-- The port and the target of the first SRV record with a name. -/
def srvFor? (response : Response) (name : Name) : Option (UInt16 × Name) :=
  (response.recordsFor name).findSome? (·.data.location?)

/-- The attributes of the first TXT record with a name. -/
def txtFor? (response : Response) (name : Name) : Option Attributes :=
  (response.recordsFor name).findSome? (·.data.attributes?)

/-- The addresses of all address records with a name. -/
def addressesFor (response : Response) (name : Name) : List Address :=
  (response.recordsFor name).filterMap (·.data.address?)

def hasSrvFor (response : Response) (name : Name) : Bool :=
  (response.srvFor? name).isSome

def hasTxtFor (response : Response) (name : Name) : Bool :=
  (response.txtFor? name).isSome

def hasAddressFor (response : Response) (name : Name) : Bool :=
  response.addressesFor name ≠ []

/-- What a person would recognise of the first PTR record's target. -/
def userVisibleName? (response : Response) : Option String :=
  response.records.findSome? (·.data.userVisibleName?)

/-- The port of the first SRV record. -/
def port? (response : Response) : Option UInt16 :=
  response.records.findSome? fun record => record.data.location?.map Prod.fst

def addresses (response : Response) : List Address :=
  response.records.filterMap (·.data.address?)

/-- The attributes of the first TXT record, none if there is no such record. -/
def attributes (response : Response) : Attributes :=
  (response.records.findSome? (·.data.attributes?)).getD .empty

end Response

end ServiceDiscovery

import ServiceDiscovery.Instance

/-!
# Sessions

A `Session` is what is known in the course of a discovery: the questions that
were asked and the records that were received and matter. `Session.handle` takes
in one more message and tells what is to be asked next. No question is asked
twice, and a message that answers no question changes nothing.
-/

namespace ServiceDiscovery

/-- What a discovery knows at one moment. -/
structure Session where
  initial : Question
  /-- The questions asked so far, in the order they were asked. -/
  asked : List Question
  records : Response
  deriving DecidableEq, Repr

namespace Session

/-- A session that has asked its first question and received nothing. -/
def start (initial : Question) : Session where
  initial := initial
  asked := [initial]
  records := {}

/-- The questions for what the instance with a given name lacks. -/
def wantedOfInstance (records : Response) (target : Name) : List Question :=
  (if records.hasSrvFor target then [] else [.internet target .srv]) ++
    if records.hasTxtFor target then [] else [.internet target .txt]

/-- The questions for what the host with a given name lacks. -/
def wantedOfHost (records : Response) (target : Name) : List Question :=
  if records.hasAddressFor target then [] else [.internet target .a, .internet target .aaaa]

/-- The questions for all that records refer to and don't tell. Those that PTR
records lead to are in front of those that SRV records lead to. -/
def wanted (records : Response) : List Question :=
  (records.ptrRecords.flatMap fun (_, target) => wantedOfInstance records target) ++
    records.srvTargets.flatMap fun target => wantedOfHost records target

/-- The questions that were not asked before, each of them once. -/
def unasked (asked : List Question) : List Question → List Question
  | [] => []
  | question :: rest =>
    if question ∈ asked then unasked asked rest
    else question :: unasked (asked ++ [question]) rest

/-- Collects the records of a response, and asks for what they still lack. -/
def collect (session : Session) (response : Response) : List Question × Session :=
  let records := session.records.merge response
  let questions := unasked session.asked (wanted records)
  (questions, { session with asked := session.asked ++ questions, records })

/-- Takes in one message. Gives the questions that are to be asked next. A
message that is no response, or answers nothing that was asked, is passed
over. -/
def handle (session : Session) (message : Message) : List Question × Session :=
  match Response.decode message with
  | .error _ => ([], session)
  | .ok response =>
    if response.answers session.asked then session.collect response
    else ([], session)

/-- Takes in messages one by one. Gives for each of them the questions that are
to be asked next and the session behind it. -/
def run (session : Session) : List Message → List (List Question × Session)
  | [] => []
  | message :: messages =>
    let (questions, next) := session.handle message
    (questions, next) :: next.run messages

/-- The instances that PTR records with the first question's name point to, each
of them once and in order. -/
def instances (session : Session) : List Instance :=
  Instance.distinct <|
    (session.records.ptrRecords.filter fun (name, _) => name = session.initial.name).filterMap
      fun (_, target) => Instance.ofRecords? target session.records

end Session

end ServiceDiscovery

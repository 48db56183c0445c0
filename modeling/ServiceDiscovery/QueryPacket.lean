import ServiceDiscovery.Question
import ServiceDiscovery.Wire.Header

/-!
# Query packets

A `QueryPacket` is a message that asks questions. `QueryPacket.empty` asks none
yet and `QueryPacket.ask` appends one more, keeping the header's count of them.
-/

namespace ServiceDiscovery

/-- The octets of a message that asks questions. -/
structure QueryPacket where
  message : Message
  deriving DecidableEq, Repr

namespace QueryPacket

/-- A query without questions. Queries that are multicast have a zero id. -/
def empty (id : UInt16) : QueryPacket where
  message := ({ id := id : Header } : Header).octets.toArray

/-- Appends a question and counts it. -/
def ask (packet : QueryPacket) (question : Question) (unicast : Bool) :
    Except WireError QueryPacket := do
  let octets ← question.octets unicast
  let message ← Header.countQuestion (packet.message ++ octets)
  return { message }

/-- Appends questions, each with whether it asks for a unicast response, as long
as none is refused. -/
def askAll (packet : QueryPacket) (questions : List (Question × Bool)) :
    Except WireError QueryPacket :=
  questions.foldlM (fun packet (question, unicast) => packet.ask question unicast) packet

/-- Whether the packet holds neither questions nor answers. -/
def isEmpty (packet : QueryPacket) : Bool :=
  Header.questionCount packet.message = 0 && Header.answerCount packet.message = 0

end QueryPacket

/-- The message that asks one question, and asks for a unicast response to
it. -/
def Question.encode (question : Question) : Except WireError Message :=
  ((QueryPacket.empty 0).ask question true).map (·.message)

end ServiceDiscovery

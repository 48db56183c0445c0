import ServiceDiscovery.Error
import ServiceDiscovery.Multicast
import ServiceDiscovery.Session

/-!
# Discovery runs

`Discovery.run` is a whole discovery, against a script of what is received and
of what becomes of each send. Two tasks have a part in it. The initiator spawns
the listener, sends the first question when the listener says that it is ready,
and then waits for the listener to end. The listener receives until nothing
arrives for a whole window or receiving fails. Every message that arrives goes
through the session, and the questions it leads to are sent to every group before
the next message is received.

Sending takes no time. A receive does, and time passes only while neither task
can go on (`Tasks.turn?`).
-/

namespace ServiceDiscovery

namespace Discovery

inductive SendOutcome where
  | complete
  /-- Fewer octets were sent than there are. -/
  | short
  | failed
  deriving DecidableEq, Repr

/-- What one receive leads to if it is given the time: after `delay`
milliseconds a message arrives, or the receive fails if there is none. -/
structure Arrival where
  delay : Nat
  message? : Option Message
  deriving DecidableEq, Repr

structure Sent where
  /-- The number of receives that were complete before. -/
  after : Nat
  group : Endpoint
  message : Message
  deriving DecidableEq, Repr

/-- The outside of a run: the groups that can be sent to, what will become of
the next sends, and what has happened so far. -/
structure Network where
  groups : List Endpoint
  /-- What becomes of the next sends. Beyond the list they are complete. -/
  outcomes : List SendOutcome
  sent : Array Sent := #[]
  /-- The number of receives that are complete, failed ones included. -/
  received : Nat := 0
  /-- The milliseconds since the beginning of the run. -/
  elapsed : Nat := 0
  deriving DecidableEq, Repr

namespace Network

/-- Sends a message to one group. The attempt counts whatever becomes of it. -/
def send (network : Network) (message : Message) (group : Endpoint) : SendOutcome × Network :=
  (network.outcomes.headD .complete,
    { network with
      outcomes := network.outcomes.tail
      sent := network.sent.push { after := network.received, group, message } })

/-- Sends a message to every group, going on when a send does not succeed. -/
def sendToAll (network : Network) (message : Message) : Network :=
  network.groups.foldl (fun network group => (network.send message group).2) network

/-- Sends a question to every group. One that can't be written is passed
over. -/
def ask (network : Network) (question : Question) : Network :=
  match question.encode with
  | .ok message => network.sendToAll message
  | .error _ => network

def wait (network : Network) (time : Nat) : Network :=
  { network with elapsed := network.elapsed + time }

def receive (network : Network) (arrival : Arrival) : Network :=
  { network.wait arrival.delay with received := network.received + 1 }

end Network

/-- What the task that began the run is waiting for. -/
inductive Initiator where
  /-- That the listener is ready. Then the first question is sent. -/
  | ready (message : Message)
  /-- That the listener ends. -/
  | listenerEnd
  deriving DecidableEq, Repr

inductive Listener where
  /-- It has not begun yet. -/
  | spawned
  | receiving
  | ended
  deriving DecidableEq, Repr

/-- The two tasks of a run, and what they work with. -/
structure Tasks where
  initiator : Initiator
  listener : Listener := .spawned
  /-- Whether the listener has said that it is ready. -/
  signalled : Bool := false
  session : Session
  arrivals : List Arrival
  network : Network
  deriving DecidableEq, Repr

namespace Tasks

/-- The tasks when the listener was just spawned. -/
def spawn (initial : Question) (message : Message) (arrivals : List Arrival)
    (network : Network) : Tasks where
  initiator := .ready message
  session := Session.start initial
  arrivals := arrivals
  network := network

/-- The listener begins and says that it is ready. -/
def listenerTurn? (tasks : Tasks) : Option Tasks :=
  match tasks.listener with
  | .spawned => some { tasks with listener := .receiving, signalled := true }
  | .receiving | .ended => none

/-- The initiator sends the first question when it hears that the listener is ready.
It leaves the question out when the listener ended without a word. -/
def initiatorTurn? (tasks : Tasks) : Option Tasks :=
  match tasks.initiator with
  | .listenerEnd => none
  | .ready message =>
    if tasks.signalled then
      some { tasks with initiator := .listenerEnd, network := tasks.network.sendToAll message }
    else if tasks.listener = .ended then
      some { tasks with initiator := .listenerEnd }
    else
      none

/-- Lets time pass until something arrives for the listener or its window is over.
Messages beyond the greatest length are cut off there. -/
def receive (window : Nat) (tasks : Tasks) : Tasks :=
  match tasks.arrivals with
  | [] => { tasks with listener := .ended, network := tasks.network.wait window }
  | arrival :: arrivals =>
    if window < arrival.delay then
      { tasks with listener := .ended, network := tasks.network.wait window }
    else
      let network := tasks.network.receive arrival
      match arrival.message? with
      | none => { tasks with listener := .ended, arrivals, network }
      | some message =>
        let (questions, session) :=
          tasks.session.handle (message.take Multicast.maxMessageLength)
        { tasks with session, arrivals, network := questions.foldl Network.ask network }

def receiveTurn? (window : Nat) (tasks : Tasks) : Option Tasks :=
  match tasks.listener with
  | .receiving => some (tasks.receive window)
  | .spawned | .ended => none

/-- Lets a task go on that can, and time pass if neither can. -/
def turn? (window : Nat) (tasks : Tasks) : Option Tasks :=
  (tasks.listenerTurn?.or tasks.initiatorTurn?).or (tasks.receiveTurn? window)

/-- There are no more turns than this to come. -/
def turnsLeft (tasks : Tasks) : Nat :=
  let ofInitiator : Nat :=
    match tasks.initiator with
    | .ready _ => 1
    | .listenerEnd => 0
  let ofListener : Nat :=
    match tasks.listener with
    | .spawned => 2
    | .receiving => 1
    | .ended => 0
  ofInitiator + ofListener + tasks.arrivals.length

variable {window : Nat} {tasks next : Tasks}

theorem listenerTurn?_eq_some_iff :
    tasks.listenerTurn? = some next ↔
      tasks.listener = .spawned ∧
        { tasks with listener := .receiving, signalled := true } = next := by
  unfold listenerTurn?
  split <;> simp_all

theorem receiveTurn?_eq_some_iff :
    tasks.receiveTurn? window = some next ↔
      tasks.listener = .receiving ∧ tasks.receive window = next := by
  unfold receiveTurn?
  split <;> simp_all

theorem turnsLeft_listenerTurn? (h : tasks.listenerTurn? = some next) :
    next.turnsLeft < tasks.turnsLeft := by
  obtain ⟨hlistener, rfl⟩ := listenerTurn?_eq_some_iff.mp h
  simp [turnsLeft, hlistener]

theorem turnsLeft_initiatorTurn? (h : tasks.initiatorTurn? = some next) :
    next.turnsLeft < tasks.turnsLeft := by
  unfold initiatorTurn? at h
  split at h
  · cases h
  · rename_i hinitiator
    split at h
    · cases h
      simp [turnsLeft, hinitiator, Nat.add_assoc]
    · split at h
      · cases h
        simp [turnsLeft, hinitiator, Nat.add_assoc]
      · cases h

/-- A receive takes up an arrival or ends the listener. -/
theorem turnsLeft_receiveTurn? (h : tasks.receiveTurn? window = some next) :
    next.turnsLeft < tasks.turnsLeft := by
  obtain ⟨hlistener, rfl⟩ := receiveTurn?_eq_some_iff.mp h
  unfold receive
  split
  · simp [turnsLeft, hlistener]
  · rename_i harrivals
    split
    · simp [turnsLeft, hlistener]
    · split <;> simp only [turnsLeft, hlistener, harrivals, List.length_cons] <;> omega

theorem turnsLeft_turn? (h : tasks.turn? window = some next) :
    next.turnsLeft < tasks.turnsLeft := by
  rw [turn?] at h
  obtain htask | ⟨-, hreceive⟩ := Option.or_eq_some_iff.mp h
  · obtain hlistener | ⟨-, hinitiator⟩ := Option.or_eq_some_iff.mp htask
    · exact turnsLeft_listenerTurn? hlistener
    · exact turnsLeft_initiatorTurn? hinitiator
  · exact turnsLeft_receiveTurn? hreceive

/-- The tasks when neither has anything left to do. -/
def finish (window : Nat) (tasks : Tasks) : Tasks :=
  match _hturn : tasks.turn? window with
  | none => tasks
  | some next => next.finish window
termination_by tasks.turnsLeft
decreasing_by exact turnsLeft_turn? ‹_›

end Tasks

/-- What a run leads to: the instances found, or why it could not begin, and
what happened to the network. -/
structure Report where
  result : Except DiscoveryError (List Instance)
  network : Network

/-- Runs a discovery that begins with a question. -/
def run (initial : Question) (window : Nat) (groups : List Endpoint) (arrivals : List Arrival)
    (outcomes : List SendOutcome) : Report :=
  let network : Network := { groups, outcomes }
  match initial.encode with
  | .error cause => { result := .error (.encode cause), network }
  | .ok message =>
    let last := (Tasks.spawn initial message arrivals network).finish window
    { result := .ok last.session.instances, network := last.network }

end Discovery

end ServiceDiscovery

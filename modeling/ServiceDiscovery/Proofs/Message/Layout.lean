import ServiceDiscovery.Proofs.Name.Layout
import ServiceDiscovery.Response

/-!
# Responses laid out in a message

How the parts of a response stand in a message, one behind the other:
`Question.LaidOut`, `RecordData.LaidOut`, `Record.LaidOut` and, for the whole,
`Response.LaidOut`. Names are spelled with their final dot and are laid out in
full or with a reference, at each place anew. The top bit of a class field is
free, and so is all that follows the last record.
-/

namespace ServiceDiscovery

/-- A name stands at `start` in front of `stop`, in full or with a reference. -/
def Name.FieldAt (message : Message) (start : Nat) (name : Name) (stop : Nat) : Prop :=
  ∃ labels, name = Name.ofLabels labels ∧ Name.LaidOut message start start labels stop

/-- A class field, its top bit set or clear. -/
def classField (code : UInt16) (topBit : Bool) : UInt16 :=
  if topBit then code ||| classTopBit else code

/-- A question stands at `start` in front of `stop`: name, type and class. -/
inductive Question.LaidOut (message : Message) (start : Nat) (question : Question) :
    (stop : Nat) → Prop where
  | intro {middle : Nat} (topBit : Bool)
      (hname : Name.FieldAt message start question.name middle)
      (hfixed : message.HasAt middle
        (Octets.ofNat 2 question.type.code.toNat ++
          Octets.ofNat 2 (classField question.cls.code topBit).toNat)) :
      LaidOut message start question (middle + 4)

/-- Record data stand at `start` in front of `stop`. The keys of attributes have
no equals sign. -/
inductive RecordData.LaidOut (message : Message) (start : Nat) :
    RecordData → (stop : Nat) → Prop where
  | a {address : Ipv4} (h : message.HasAt start address.octets.toList) :
      LaidOut message start (.a address) (start + 4)
  | aaaa {address : Ipv6} (h : message.HasAt start address.octets.toList) :
      LaidOut message start (.aaaa address) (start + 16)
  | ptr {target : Name} {stop : Nat} (htarget : Name.FieldAt message start target stop) :
      LaidOut message start (.ptr target) stop
  | srv {priority weight port : UInt16} {target : Name} {stop : Nat}
      (hfixed : message.HasAt start
        (Octets.ofNat 2 priority.toNat ++ Octets.ofNat 2 weight.toNat ++
          Octets.ofNat 2 port.toNat))
      (htarget : Name.FieldAt message (start + 6) target stop) :
      LaidOut message start (.srv priority weight port target) stop
  | txt {attributes : Attributes} {octets : List UInt8}
      (hkeys : ∀ entry ∈ attributes.toList, '=' ∉ entry.1.toList)
      (hoctets : attributes.octets = .ok octets) (h : message.HasAt start octets) :
      LaidOut message start (.txt attributes) (start + octets.length)

/-- A record stands at `start` in front of `stop`: name, type, class, time to
live, the length of the data and the data. -/
inductive Record.LaidOut (message : Message) (start : Nat) (record : Record) :
    (stop : Nat) → Prop where
  | intro {middle length : Nat} (topBit : Bool)
      (hname : Name.FieldAt message start record.name middle)
      (hfixed : message.HasAt middle
        (Octets.ofNat 2 record.type.code.toNat ++
          Octets.ofNat 2 (classField record.cls.code topBit).toNat ++
          Octets.ofNat 4 record.ttl.toNat ++ Octets.ofNat 2 length))
      (hlength : length < 0x10000)
      (hdata : record.data.LaidOut message (middle + 10) (middle + 10 + length)) :
      LaidOut message start record (middle + 10 + length)

/-- Values of one kind stand one behind the other. -/
inductive Sequence {α : Type} (laidOut : Nat → α → Nat → Prop) :
    (start : Nat) → List α → (stop : Nat) → Prop where
  | nil {start : Nat} : Sequence laidOut start [] start
  | cons {start middle stop : Nat} {value : α} {rest : List α}
      (hfirst : laidOut start value middle) (hrest : Sequence laidOut middle rest stop) :
      Sequence laidOut start (value :: rest) stop

/-- A response is laid out in a message: its header, its questions and its
records. -/
inductive Response.LaidOut (message : Message) (response : Response) : Prop where
  | intro {middle stop : Nat} (hheader : message.HasAt 0 response.header.octets)
      (hquestions : Sequence (fun start question stop => question.LaidOut message start stop)
        Header.size response.questions middle)
      (hrecords : Sequence (fun start record stop => record.LaidOut message start stop)
        middle response.records stop) :
      LaidOut message response

/-! ## Parts written in full -/

variable {message : Message} {start : Nat} {octets : List UInt8}

theorem Name.FieldAt.of_write {name : Name} (hspelled : name.normalize = name)
    (hwrite : name.write = .ok octets) (h : message.HasAt start octets) :
    Name.FieldAt message start name (start + octets.length) :=
  ⟨name.labels, hspelled.symm, .of_write hwrite h⟩

theorem Question.LaidOut.of_octets {question : Question} {unicast : Bool}
    (hspelled : question.name.normalize = question.name)
    (hoctets : question.octets unicast = .ok octets) (h : message.HasAt start octets) :
    question.LaidOut message start (start + octets.length) := by
  obtain ⟨name, hname, rfl⟩ := Except.map_eq_ok_iff.mp hoctets
  rw [List.append_assoc] at h ⊢
  obtain ⟨hfront, hfixed⟩ := Message.hasAt_append.mp h
  have hlength : start + (name.length + (2 + 2)) = start + name.length + 4 := by omega
  rw [List.length_append, List.length_append, Octets.length_ofNat, Octets.length_ofNat, hlength]
  exact .intro unicast (.of_write hspelled hname hfront) hfixed

/-- Data that are read as they were written: names have their final dot, and keys
no equals sign. -/
def RecordData.Canonical : RecordData → Prop
  | .a _ | .aaaa _ => True
  | .ptr target | .srv _ _ _ target => target.normalize = target
  | .txt attributes => ∀ entry ∈ attributes.toList, '=' ∉ entry.1.toList

/-- What is written of data is laid out. -/
theorem RecordData.LaidOut.of_octets {data : RecordData} (hdata : data.Canonical)
    (hoctets : data.octets = .ok octets) (h : message.HasAt start octets) :
    data.LaidOut message start (start + octets.length) := by
  cases data with
  | a address =>
    cases hoctets
    rw [Vector.length_toList]
    exact .a h
  | aaaa address =>
    cases hoctets
    rw [Vector.length_toList]
    exact .aaaa h
  | ptr target => exact .ptr (.of_write hdata hoctets h)
  | srv priority weight port target =>
    obtain ⟨name, hname, rfl⟩ := Except.map_eq_ok_iff.mp hoctets
    obtain ⟨hfixed, hbehind⟩ := Message.hasAt_append.mp h
    simp only [List.length_append, Octets.length_ofNat] at hbehind
    have hlength : start + (2 + 2 + 2 + name.length) = start + 6 + name.length := by omega
    simp only [List.length_append, Octets.length_ofNat, hlength]
    exact .srv hfixed (.of_write hdata hname hbehind)
  | txt attributes => exact .txt hdata hoctets h

end ServiceDiscovery

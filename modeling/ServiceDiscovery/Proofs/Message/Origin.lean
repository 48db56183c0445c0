import ServiceDiscovery.Proofs.Message.Reservations
import ServiceDiscovery.Proofs.Reader.Origin

/-!
# Where decoded records stand

A response that was decoded is a sequence of questions and records in its
message. `Response.RecordAt` tells which record stands where, and
`Record.TargetAt` which labels the name has there that a PTR or SRV record points
to. Every such record of a decoded response has its target in the message
(`Response.exists_recordAt`).
-/

namespace ServiceDiscovery

variable {message : Message} {start stop length : Nat} {target : Name} {labels : List String}

/-! ## Record data -/

/-- Data of `length` octets at `start` in a message point to `target`, which has
these labels there. A PTR record without data points to the root. -/
inductive RecordData.TargetAt (message : Message) (start length : Nat) :
    RecordData → (target : Name) → (labels : List String) → Prop where
  | empty (hlength : length = 0) : TargetAt message start length (.ptr "") "" []
  | ptr {labels : List String} {stop : Nat} (hlength : length ≠ 0)
      (h : Name.LaidOut message start start labels stop) :
      TargetAt message start length (.ptr (Name.ofLabels labels)) (Name.ofLabels labels) labels
  | srv {priority weight port : UInt16} {labels : List String} {stop : Nat}
      (h : Name.LaidOut message (start + 6) (start + 6) labels stop) :
      TargetAt message start length (.srv priority weight port (Name.ofLabels labels))
        (Name.ofLabels labels) labels

namespace RecordData

variable {type : RecordType} {data : RecordData}

theorem TargetAt.ofLabels_eq (h : data.TargetAt message start length target labels) :
    Name.ofLabels labels = target := by
  cases h <;> rfl

theorem TargetAt.fitting (h : data.TargetAt message start length target labels) :
    Name.Fitting labels := by
  cases h with
  | empty hlength => exact fun _ hmem => absurd hmem List.not_mem_nil
  | ptr hlength h => exact h.fitting
  | srv h => exact h.fitting

/-- Where data stand tells the labels of the name they point to. -/
theorem TargetAt.labels_unique {others : List String}
    (h : data.TargetAt message start length target labels)
    (hothers : data.TargetAt message start length target others) : labels = others := by
  cases h with
  | empty hlength =>
    generalize hdata : RecordData.ptr "" = data, htarget : "" = target at hothers
    cases hothers with
    | empty => rfl
    | ptr hne hlaid => exact absurd hlength hne
  | ptr hne hlaid =>
    generalize hdata : RecordData.ptr _ = data, htarget : Name.ofLabels _ = target at hothers
    cases hothers with
    | empty hlength => exact absurd hlength hne
    | ptr _ hlaidOthers => exact hlaid.labels_unique hlaidOthers
  | srv hlaid =>
    generalize hdata : RecordData.srv _ _ _ _ = data, htarget : Name.ofLabels _ = target
      at hothers
    cases hothers with
    | srv hlaidOthers => exact hlaid.labels_unique hlaidOthers

theorem readPayload_of_read (h : read type length message start = .ok data stop) :
    ∃ middle, readPayload type length message start = .ok data middle := by
  obtain ⟨_, _, hposition, h⟩ := Reader.bind_eq_ok_iff.mp h
  obtain ⟨_, middle, hend, h⟩ := Reader.bind_eq_ok_iff.mp h
  obtain ⟨room, _, hroom, h⟩ := Reader.bind_eq_ok_iff.mp h
  cases hposition
  cases hroom
  obtain ⟨-, -, rfl⟩ := computeEnd_eq_ok_iff.mp hend
  split at h
  · cases h
  · obtain ⟨payload, last, hpayload, h⟩ := Reader.bind_eq_ok_iff.mp h
    obtain ⟨_, _, _, h⟩ := Reader.bind_eq_ok_iff.mp h
    obtain ⟨rfl, _⟩ := Reader.pure_eq_ok_iff.mp h
    exact ⟨last, hpayload⟩

theorem laidOut_of_readPayload_ptr (hlength : length ≠ 0)
    (h : readPayload .ptr length message start = .ok data stop) :
    data.type = .ptr ∧ data.LaidOut message start stop := by
  rw [readPayload, if_neg hlength] at h
  obtain ⟨target, middle, htarget, h⟩ := Reader.bind_eq_ok_iff.mp h
  obtain ⟨rfl, rfl⟩ := Reader.pure_eq_ok_iff.mp h
  exact ⟨rfl, .ptr (Reader.name_eq_ok_iff.mp htarget)⟩

theorem laidOut_of_readPayload_srv (h : readPayload .srv length message start = .ok data stop) :
    data.type = .srv ∧ data.LaidOut message start stop := by
  rw [readPayload] at h
  split at h
  · cases h
  · obtain ⟨priority, first, hpriority, h⟩ := Reader.bind_eq_ok_iff.mp h
    obtain ⟨weight, second, hweight, h⟩ := Reader.bind_eq_ok_iff.mp h
    obtain ⟨port, third, hport, h⟩ := Reader.bind_eq_ok_iff.mp h
    obtain ⟨target, last, htarget, h⟩ := Reader.bind_eq_ok_iff.mp h
    obtain ⟨rfl, rfl⟩ := Reader.pure_eq_ok_iff.mp h
    obtain ⟨hpriorityAt, rfl⟩ := Reader.hasAt_of_u16 hpriority
    obtain ⟨hweightAt, rfl⟩ := Reader.hasAt_of_u16 hweight
    obtain ⟨hportAt, rfl⟩ := Reader.hasAt_of_u16 hport
    refine ⟨rfl, .srv ?_ (Reader.name_eq_ok_iff.mp htarget)⟩
    simp only [Message.hasAt_append, List.length_append, Octets.length_ofNat]
    exact ⟨⟨hpriorityAt, hweightAt⟩, hportAt⟩

theorem targetAt_of_readPayload_ptr
    (h : readPayload .ptr length message start = .ok data stop) :
    ∃ target labels, data = .ptr target ∧ data.TargetAt message start length target labels := by
  by_cases hlength : length = 0
  · rw [readPayload, if_pos hlength] at h
    obtain ⟨rfl, _⟩ := Reader.pure_eq_ok_iff.mp h
    exact ⟨"", [], rfl, .empty hlength⟩
  · obtain ⟨htype, hlaid⟩ := laidOut_of_readPayload_ptr hlength h
    cases hlaid with
    | ptr htarget =>
      obtain ⟨labels, rfl, hname⟩ := htarget
      exact ⟨_, labels, rfl, .ptr hlength hname⟩
    | a | aaaa | srv | txt => cases htype

theorem targetAt_of_readPayload_srv
    (h : readPayload .srv length message start = .ok data stop) :
    ∃ priority weight port target labels, data = .srv priority weight port target ∧
      data.TargetAt message start length target labels := by
  obtain ⟨htype, hlaid⟩ := laidOut_of_readPayload_srv h
  cases hlaid with
  | @srv priority weight port target _ hfixed htarget =>
    obtain ⟨labels, rfl, hname⟩ := htarget
    exact ⟨priority, weight, port, _, labels, rfl, .srv hname⟩
  | a | aaaa | ptr | txt => cases htype

theorem type_of_readPayload (h : readPayload type length message start = .ok data stop) :
    data.type = type := by
  cases type with
  | a | aaaa =>
    rw [readPayload] at h
    split at h
    · obtain ⟨octets, middle, _, h⟩ := Reader.bind_eq_ok_iff.mp h
      obtain ⟨rfl, _⟩ := Reader.pure_eq_ok_iff.mp h
      rfl
    · cases h
  | ptr =>
    obtain ⟨target, labels, rfl, _⟩ := targetAt_of_readPayload_ptr h
    rfl
  | srv =>
    obtain ⟨priority, weight, port, target, labels, rfl, _⟩ := targetAt_of_readPayload_srv h
    rfl
  | txt =>
    rw [readPayload] at h
    obtain ⟨octets, middle, _, h⟩ := Reader.bind_eq_ok_iff.mp h
    obtain ⟨attributes, last, _, h⟩ := Reader.bind_eq_ok_iff.mp h
    obtain ⟨rfl, _⟩ := Reader.pure_eq_ok_iff.mp h
    rfl

/-- A PTR or SRV record points to a name. -/
inductive RefersTo : RecordData → Name → Prop where
  | ptr {target : Name} : RefersTo (.ptr target) target
  | srv {priority weight port : UInt16} {target : Name} :
      RefersTo (.srv priority weight port target) target

theorem RefersTo.exists_targetAt (hrefers : data.RefersTo target)
    (h : read type length message start = .ok data stop) :
    ∃ labels, data.TargetAt message start length target labels := by
  obtain ⟨middle, hpayload⟩ := readPayload_of_read h
  have htype := type_of_readPayload hpayload
  cases hrefers with
  | ptr =>
    obtain rfl : RecordType.ptr = type := htype
    obtain ⟨found, labels, heq, hat⟩ := targetAt_of_readPayload_ptr hpayload
    cases heq
    exact ⟨labels, hat⟩
  | srv =>
    obtain rfl : RecordType.srv = type := htype
    obtain ⟨priority, weight, port, found, labels, heq, hat⟩ :=
      targetAt_of_readPayload_srv hpayload
    cases heq
    exact ⟨labels, hat⟩

end RecordData

/-! ## Records -/

/-- The record at `start` in a message points to `target`, which has these labels
there. Its data stand behind its name and ten octets more, the last two of which
announce their length. -/
def Record.TargetAt (message : Message) (start : Nat) (record : Record) (target : Name)
    (labels : List String) : Prop :=
  ∃ (middle : Nat) (length : UInt16), Name.FieldAt message start record.name middle ∧
    message.HasAt (middle + 8) (Octets.ofNat 2 length.toNat) ∧
    record.data.TargetAt message (middle + 10) length.toNat target labels

theorem Record.TargetAt.ofLabels_eq {record : Record}
    (h : record.TargetAt message start target labels) : Name.ofLabels labels = target := by
  obtain ⟨middle, length, _, _, hat⟩ := h
  exact hat.ofLabels_eq

theorem Record.TargetAt.fitting {record : Record}
    (h : record.TargetAt message start target labels) : Name.Fitting labels := by
  obtain ⟨middle, length, _, _, hat⟩ := h
  exact hat.fitting

/-- Where a record stands tells the labels of the name it points to. -/
theorem Record.TargetAt.labels_unique {record : Record} {others : List String}
    (h : record.TargetAt message start target labels)
    (hothers : record.TargetAt message start target others) : labels = others := by
  obtain ⟨middle, length, hname, hlength, hat⟩ := h
  obtain ⟨middleOther, lengthOther, hnameOther, hlengthOther, hatOther⟩ := hothers
  obtain ⟨-, rfl⟩ := Reader.fieldAt_unique hname hnameOther
  have hcount := Reader.u16_of_hasAt hlength
  rw [Reader.u16_of_hasAt hlengthOther] at hcount
  cases hcount
  exact hat.labels_unique hatOther

theorem Record.data_of_read {record : Record} (h : Record.read message start = .ok record stop) :
    ∃ (middle : Nat) (type : RecordType) (length : UInt16),
      Name.FieldAt message start record.name middle ∧
      message.HasAt (middle + 8) (Octets.ofNat 2 length.toNat) ∧
      RecordData.read type length.toNat message (middle + 10) = .ok record.data stop := by
  obtain ⟨name, middle, hname, h⟩ := Reader.bind_eq_ok_iff.mp h
  obtain ⟨typeCode, first, htypeCode, h⟩ := Reader.bind_eq_ok_iff.mp h
  obtain ⟨type, second, htype, h⟩ := Reader.bind_eq_ok_iff.mp h
  obtain ⟨clsCode, third, hclsCode, h⟩ := Reader.bind_eq_ok_iff.mp h
  obtain ⟨cls, fourth, hcls, h⟩ := Reader.bind_eq_ok_iff.mp h
  obtain ⟨ttl, fifth, httl, h⟩ := Reader.bind_eq_ok_iff.mp h
  obtain ⟨length, sixth, hlength, h⟩ := Reader.bind_eq_ok_iff.mp h
  obtain ⟨data, last, hdata, h⟩ := Reader.bind_eq_ok_iff.mp h
  obtain ⟨rfl, rfl⟩ := Reader.pure_eq_ok_iff.mp h
  obtain rfl := (Reader.hasAt_of_u16 htypeCode).2
  obtain rfl := (Reader.ofExcept_eq_ok_iff.mp htype).2
  obtain rfl := (Reader.hasAt_of_u16 hclsCode).2
  obtain rfl := (Reader.ofExcept_eq_ok_iff.mp hcls).2
  obtain rfl := Reader.stop_of_u32 httl
  obtain ⟨hplaced, rfl⟩ := Reader.hasAt_of_u16 hlength
  exact ⟨middle, type, length, Reader.name_eq_ok_iff.mp hname, hplaced, hdata⟩

/-! ## Responses -/

theorem Sequence.exists_split {α : Type} {laidOut : Nat → α → Nat → Prop} {values : List α}
    {value : α} (h : Sequence laidOut start values stop) (hmem : value ∈ values) :
    ∃ before after middle last, values = before ++ value :: after ∧
      Sequence laidOut start before middle ∧ laidOut middle value last := by
  induction h with
  | nil => exact absurd hmem List.not_mem_nil
  | @cons start middle stop first rest hfirst hrest ih =>
    rcases List.mem_cons.mp hmem with rfl | hmem
    · exact ⟨[], rest, start, middle, rfl, .nil, hfirst⟩
    · obtain ⟨before, after, position, last, rfl, hbefore, hvalue⟩ := ih hmem
      exact ⟨first :: before, after, position, last, rfl, .cons hfirst hbefore, hvalue⟩

theorem Header.stop_of_read {header : Header} (h : Header.read message start = .ok header stop) :
    stop = start + size := by
  obtain ⟨room, middle, hroom, h⟩ := Reader.bind_eq_ok_iff.mp h
  cases hroom
  split at h
  · cases h
  · obtain ⟨id, first, hid, h⟩ := Reader.bind_eq_ok_iff.mp h
    obtain ⟨flags, second, hflags, h⟩ := Reader.bind_eq_ok_iff.mp h
    obtain ⟨questions, third, hquestions, h⟩ := Reader.bind_eq_ok_iff.mp h
    obtain ⟨answers, fourth, hanswers, h⟩ := Reader.bind_eq_ok_iff.mp h
    obtain ⟨nameservers, fifth, hnameservers, h⟩ := Reader.bind_eq_ok_iff.mp h
    obtain ⟨additional, last, hadditional, h⟩ := Reader.bind_eq_ok_iff.mp h
    obtain ⟨_, rfl⟩ := Reader.pure_eq_ok_iff.mp h
    obtain rfl := (Reader.hasAt_of_u16 hid).2
    obtain rfl := (Reader.hasAt_of_u16 hflags).2
    obtain rfl := (Reader.hasAt_of_u16 hquestions).2
    obtain rfl := (Reader.hasAt_of_u16 hanswers).2
    obtain rfl := (Reader.hasAt_of_u16 hnameservers).2
    exact (Reader.hasAt_of_u16 hadditional).2

namespace Response

variable {response : Response} {record : Record}

/-- The record stands at `start` in the message that the response was decoded
from, behind the header, the questions and the records in front of it. -/
def RecordAt (message : Message) (response : Response) (record : Record) (start : Nat) : Prop :=
  ∃ before after first stop, response.records = before ++ record :: after ∧
    Sequence (fun start question stop => Question.read message start = .ok question stop)
      Header.size response.questions first ∧
    Sequence (fun start record stop => Record.read message start = .ok record stop)
      first before start ∧
    Record.read message start = .ok record stop

/-- A record of the response points to `target`, which has these labels in the
message. -/
def TargetAt (message : Message) (response : Response) (target : Name) (labels : List String) :
    Prop :=
  ∃ record start, response.RecordAt message record start ∧
    record.TargetAt message start target labels

theorem TargetAt.ofLabels_eq (h : response.TargetAt message target labels) :
    Name.ofLabels labels = target := by
  obtain ⟨record, start, _, hat⟩ := h
  exact hat.ofLabels_eq

theorem TargetAt.fitting (h : response.TargetAt message target labels) :
    Name.Fitting labels := by
  obtain ⟨record, start, _, hat⟩ := h
  exact hat.fitting

theorem decode_eq_ok_iff :
    decode message = .ok response ↔ ∃ stop, read message 0 = .ok response stop := by
  rw [decode, Reader.value]
  cases read message 0 <;> simp

/-- A response was read part by part: a header that reports success, and then the
questions and the records that it counts. -/
theorem parts_of_read (h : read message 0 = .ok response stop) :
    ∃ middle, Header.read message 0 = .ok response.header Header.size ∧
      (response.header.isResponse ∧ response.header.opcode = 0 ∧
        response.header.responseCode = 0) ∧
      Question.read.replicate response.header.questions.toNat message Header.size =
        .ok response.questions middle ∧
      Record.read.replicate response.header.records message middle =
        .ok response.records stop := by
  rw [read_eq] at h
  obtain ⟨header, first, hheader, h⟩ := Reader.bind_eq_ok_iff.mp h
  split at h
  · cases h
  · rename_i hresponse
    split at h
    · cases h
    · rename_i hsuccess
      obtain ⟨hopcode, hcode⟩ := not_or.mp hsuccess
      obtain ⟨questions, middle, hquestions, h⟩ := Reader.bind_eq_ok_iff.mp h
      obtain ⟨records, last, hrecords, h⟩ := Reader.bind_eq_ok_iff.mp h
      obtain ⟨rfl, rfl⟩ := Reader.pure_eq_ok_iff.mp h
      have hfirst : first = Header.size := (Header.stop_of_read hheader).trans (Nat.zero_add _)
      subst hfirst
      exact ⟨middle, hheader, ⟨Decidable.not_not.mp hresponse, Decidable.not_not.mp hopcode,
        Decidable.not_not.mp hcode⟩, hquestions, hrecords⟩

/-- What is decoded stands in the message, question by question and record by
record. -/
theorem sequences_of_decode (h : decode message = .ok response) :
    ∃ first stop,
      Sequence (fun start question stop => Question.read message start = .ok question stop)
        Header.size response.questions first ∧
      Sequence (fun start record stop => Record.read message start = .ok record stop)
        first response.records stop := by
  obtain ⟨stop, hread⟩ := decode_eq_ok_iff.mp h
  obtain ⟨first, -, -, hquestions, hrecords⟩ := parts_of_read hread
  exact ⟨first, stop, (Reader.sequence_of_replicate hquestions).1,
    (Reader.sequence_of_replicate hrecords).1⟩

/-- A decoded record stands in the message, and what it points to has labels
there. -/
theorem exists_recordAt (h : decode message = .ok response) (hmem : record ∈ response.records)
    (hrefers : record.data.RefersTo target) :
    ∃ start labels, response.RecordAt message record start ∧
      record.TargetAt message start target labels := by
  obtain ⟨first, last, hquestions, hrecords⟩ := sequences_of_decode h
  obtain ⟨before, after, start, stop, hsplit, hbefore, hread⟩ := hrecords.exists_split hmem
  obtain ⟨middle, type, length, hname, hlength, hdata⟩ := Record.data_of_read hread
  obtain ⟨labels, hat⟩ := hrefers.exists_targetAt hdata
  exact ⟨start, labels, ⟨before, after, first, stop, hsplit, hquestions, hbefore, hread⟩,
    middle, length, hname, hlength, hat⟩

theorem exists_targetAt (h : decode message = .ok response) (hmem : record ∈ response.records)
    (hrefers : record.data.RefersTo target) :
    ∃ labels, response.TargetAt message target labels := by
  obtain ⟨start, labels, hrecord, hat⟩ := exists_recordAt h hmem hrefers
  exact ⟨labels, record, start, hrecord, hat⟩

end Response

end ServiceDiscovery

import ServiceDiscovery.Proofs.Reader.Origin
import ServiceDiscovery.Record.Basic
import ServiceDiscovery.Wire.Header

/-!
# How readers move

Where a reader is left, whether it succeeds or refuses. A reader is forward
(`Reader.Forward`) if it stays inside the message and does not go back, and readers
made of forward readers are forward. It is whole (`Reader.Whole`) if it stays where
it was when it refuses. `Reader.Operation` lists the uses of a reader, and
`Reader.steps` is what comes of a sequence of them, which goes on behind refusals.
`Reader.steps_sound` says what each step of any sequence keeps to.
-/

namespace ServiceDiscovery

variable {message : Message} {start stop middle : Nat} {cause : WireError}

namespace Reader

variable {α β : Type} {reader : Reader α} {next : α → Reader β}

/-- Where a reader is left. -/
def left : EStateM.Result WireError Nat α → Nat
  | .ok _ stop => stop
  | .error _ stop => stop

/-- From a position inside the message, or from its end, the reader does not go
back and does not leave the message. -/
def Forward (reader : Reader α) : Prop :=
  ∀ ⦃message : Message⦄ ⦃start : Nat⦄, start ≤ message.size →
    start ≤ left (reader message start) ∧ left (reader message start) ≤ message.size

/-- The reader stays where it was when it refuses. -/
def Whole (reader : Reader α) : Prop :=
  ∀ ⦃message : Message⦄ ⦃start stop : Nat⦄ ⦃cause : WireError⦄,
    reader message start = .error cause stop → stop = start

theorem bind_eq_error_iff :
    (reader >>= next) message start = .error cause stop ↔
      reader message start = .error cause stop ∨
        ∃ value middle, reader message start = .ok value middle ∧
          next value message middle = .error cause stop := by
  rw [bind_apply]
  cases reader message start with
  | ok value middle => simp [and_assoc]
  | error cause middle => simp

theorem octets_of_room {count : Nat} (h : start + count ≤ message.size) :
    ∃ values, octets count message start = .ok values (start + count) := by
  rw [octets, dif_pos h]
  exact ⟨_, rfl⟩

theorem octets_of_no_room {count : Nat} (h : message.size < start + count) :
    octets count message start = .error .unexpectedEnd start := by
  rw [octets, dif_neg (Nat.not_le_of_lt h)]

theorem u16_of_room (h : start + 2 ≤ message.size) :
    ∃ field, u16 message start = .ok field (start + 2) := by
  obtain ⟨values, hvalues⟩ := octets_of_room h
  rw [u16, number, bind_apply, bind_apply, hvalues]
  exact ⟨_, rfl⟩

/-! ## Forward readers -/

namespace Forward

theorem pure (value : α) : Forward (Pure.pure value) :=
  fun _ start hstart => ⟨Nat.le_refl start, hstart⟩

theorem throw (cause : WireError) : Forward (throw cause : Reader α) :=
  fun _ start hstart => ⟨Nat.le_refl start, hstart⟩

theorem ofExcept (result : Except WireError α) : Forward (Reader.ofExcept result) := by
  intro message start hstart
  cases result <;> exact ⟨Nat.le_refl start, hstart⟩

theorem bind (h : Forward reader) (hnext : ∀ value, Forward (next value)) :
    Forward (reader >>= next) := by
  intro message start hstart
  obtain ⟨hforward, hinside⟩ := h hstart
  rw [bind_apply]
  cases hread : reader message start with
  | error cause middle =>
    rw [hread] at hforward hinside
    exact ⟨hforward, hinside⟩
  | ok value middle =>
    rw [hread] at hforward hinside
    obtain ⟨hrest, hend⟩ := hnext value hinside
    exact ⟨Nat.le_trans hforward hrest, hend⟩

theorem replicate (h : Forward reader) (count : Nat) : Forward (reader.replicate count) := by
  induction count with
  | zero => exact .pure []
  | succ count ih => exact h.bind fun _ => ih.bind fun _ => .pure _

theorem remaining : Forward Reader.remaining :=
  fun _ start hstart => ⟨Nat.le_refl start, hstart⟩

theorem octets (count : Nat) : Forward (Reader.octets count) := by
  intro message start hstart
  rw [Reader.octets]
  split
  · rename_i hroom
    exact ⟨Nat.le_add_right start count, hroom⟩
  · exact ⟨Nat.le_refl start, hstart⟩

theorem u8 : Forward Reader.u8 :=
  .bind (.bind (.octets 1) fun _ => .pure _) fun _ => .pure _

theorem u16 : Forward Reader.u16 :=
  .bind (.bind (.octets 2) fun _ => .pure _) fun _ => .pure _

theorem u32 : Forward Reader.u32 :=
  .bind (.bind (.octets 4) fun _ => .pure _) fun _ => .pure _

end Forward

/-! ## Whole readers -/

namespace Whole

theorem octets (count : Nat) : Whole (Reader.octets count) := by
  intro message start stop cause h
  rw [Reader.octets] at h
  split at h
  · cases h
  · cases h
    rfl

/-- What becomes of a value when it was read is no reason to refuse. -/
theorem map (h : Whole reader) (f : α → β) :
    Whole (reader >>= fun value => Pure.pure (f value)) := by
  intro message start stop cause hrefused
  obtain hread | ⟨value, middle, -, hpure⟩ := bind_eq_error_iff.mp hrefused
  · exact h hread
  · cases hpure

theorem u8 : Whole Reader.u8 := ((octets 1).map _).map _

theorem u16 : Whole Reader.u16 := ((octets 2).map _).map _

theorem u32 : Whole Reader.u32 := ((octets 4).map _).map _

theorem seek (target : Nat) : Whole (Reader.seek target) := by
  intro message start stop cause h
  rw [Reader.seek] at h
  split at h
  · cases h
    rfl
  · cases h

theorem name : Whole Reader.name := by
  intro message start stop cause h
  rw [Reader.name] at h
  split at h
  · cases h
    rfl
  · cases h

end Whole

/-- A name takes the reader forward by the part of it that stands there, wherever
its references lead. -/
theorem Forward.name : Forward Reader.name := by
  intro message start hstart
  cases hread : Reader.name message start with
  | ok value stop =>
    obtain ⟨labels, rfl, hlaid⟩ := name_eq_ok_iff.mp hread
    obtain ⟨hforward, hinside⟩ := hlaid.lt_stop_and_le_size
    exact ⟨Nat.le_of_lt hforward, hinside⟩
  | error cause stop =>
    obtain rfl := Whole.name hread
    exact ⟨Nat.le_refl stop, hstart⟩

end Reader

open Reader (Forward Whole)

/-! ## Headers and questions -/

theorem Header.forward_read : Forward Header.read := by
  refine .bind .remaining fun room => ?_
  split
  · exact .throw _
  · exact .bind .u16 fun _ => .bind .u16 fun _ => .bind .u16 fun _ => .bind .u16 fun _ =>
      .bind .u16 fun _ => .bind .u16 fun _ => .pure _

/-- A header is refused before anything of it is read, or not at all. -/
theorem Header.whole_read : Whole Header.read := by
  intro message start stop cause h
  obtain hremaining | ⟨room, middle, hremaining, h⟩ := Reader.bind_eq_error_iff.mp h
  · cases hremaining
  cases hremaining
  split at h
  · cases h
    rfl
  · rename_i hroom
    rw [size] at hroom
    obtain ⟨id, hid⟩ := @Reader.u16_of_room message start (by omega)
    obtain ⟨flags, hflags⟩ := @Reader.u16_of_room message (start + 2) (by omega)
    obtain ⟨questions, hquestions⟩ := @Reader.u16_of_room message (start + 2 + 2) (by omega)
    obtain ⟨answers, hanswers⟩ := @Reader.u16_of_room message (start + 2 + 2 + 2) (by omega)
    obtain ⟨nameservers, hnameservers⟩ :=
      @Reader.u16_of_room message (start + 2 + 2 + 2 + 2) (by omega)
    obtain ⟨additional, hadditional⟩ :=
      @Reader.u16_of_room message (start + 2 + 2 + 2 + 2 + 2) (by omega)
    simp only [Reader.bind_apply, hid, hflags, hquestions, hanswers, hnameservers, hadditional,
      Reader.pure_apply] at h
    cases h

theorem Question.forward_read : Forward Question.read :=
  .bind .name fun _ => .bind .u16 fun _ => .bind (.ofExcept _) fun _ =>
    .bind .u16 fun _ => .bind (.ofExcept _) fun _ => .pure _

/-! ## Record data -/

namespace RecordData

variable {type : RecordType} {length : Nat} {data : RecordData}

theorem forward_readPayload (type : RecordType) (length : Nat) :
    Forward (readPayload type length) := by
  cases type with
  | a | aaaa =>
    rw [readPayload]
    split
    · exact .bind (.octets _) fun _ => .pure _
    · exact .throw _
  | ptr =>
    rw [readPayload]
    split
    · exact .pure _
    · exact .bind .name fun _ => .pure _
  | srv =>
    rw [readPayload]
    split
    · exact .throw _
    · exact .bind .u16 fun _ => .bind .u16 fun _ => .bind .u16 fun _ => .bind .name fun _ => .pure _
  | txt => exact .bind (.octets _) fun _ => .bind (.ofExcept _) fun _ => .pure _

/-- The end of data that the message has room for is a position to go to, wherever
the reader is. -/
theorem seek_payloadEnd (hstart : start ≤ message.size) (hroom : length ≤ message.size - start) :
    Reader.seek (payloadEnd start length) message middle = .ok () (start + length) :=
  Reader.seek_apply (by rw [payloadEnd]; omega)

/-- Data that the message has no room for are refused in front of them. -/
theorem read_of_no_room (h : message.size - start < length) :
    read type length message start =
      .error (if Word.limit ≤ start + length then .overflow else .unexpectedEnd) start := by
  simp only [read, Reader.bind_apply, Reader.position_apply]
  by_cases hword : Word.limit ≤ start + length
  · rw [computeEnd_of_overflow hword (by omega), if_pos hword]
  · rw [computeEnd_of_word (.inl (Nat.lt_of_not_le hword)), if_neg hword]
    simp only [Reader.remaining_apply, if_pos h]
    rfl

/-- Data that the message has room for are refused just as their payload is, and
otherwise the reader is taken to the end of them. -/
theorem read_of_room (hstart : start ≤ message.size) (hroom : length ≤ message.size - start) :
    read type length message start =
      match readPayload type length message start with
      | .ok data _ => .ok data (start + length)
      | .error cause middle => .error cause middle := by
  have hinside : start + length ≤ message.size := by omega
  simp only [read, Reader.bind_apply, Reader.position_apply, computeEnd_of_word (.inr hinside),
    Reader.remaining_apply, if_neg (Nat.not_lt_of_le hroom)]
  cases readPayload type length message start with
  | ok data middle => simp only [seek_payloadEnd hstart hroom, Reader.pure_apply]
  | error cause middle => rfl

theorem forward_read (type : RecordType) (length : Nat) : Forward (read type length) := by
  intro message start hstart
  by_cases hroom : length ≤ message.size - start
  · have hpayload := forward_readPayload type length hstart
    rw [read_of_room hstart hroom]
    cases hread : readPayload type length message start with
    | ok data middle =>
      refine ⟨Nat.le_add_right start length, ?_⟩
      rw [Reader.left]
      omega
    | error cause middle => rwa [hread] at hpayload
  · rw [read_of_no_room (Nat.lt_of_not_le hroom)]
    exact ⟨Nat.le_refl start, hstart⟩

theorem stop_of_read (hstart : start ≤ message.size)
    (h : read type length message start = .ok data stop) : stop = start + length := by
  by_cases hroom : length ≤ message.size - start
  · rw [read_of_room hstart hroom] at h
    split at h
    · cases h
      rfl
    · cases h
  · rw [read_of_no_room (Nat.lt_of_not_le hroom)] at h
    cases h

end RecordData

theorem Record.forward_read : Forward Record.read :=
  .bind .name fun _ => .bind .u16 fun _ => .bind (.ofExcept _) fun _ =>
    .bind .u16 fun _ => .bind (.ofExcept _) fun _ => .bind .u32 fun _ => .bind .u16 fun _ =>
      .bind (RecordData.forward_read _ _) fun _ => .pure _

/-! ## Operations one after the other -/

namespace Reader

/-- One use of a reader. -/
inductive Operation where
  | u8
  | u16
  | u32
  | octets (count : Nat)
  | name
  | seek (target : Nat)
  | header
  | question
  | record
  | recordData (type : RecordType) (length : Nat)
  deriving DecidableEq, Repr

namespace Operation

/-- What an operation gives when it succeeds. -/
abbrev Value : Operation → Type
  | u8 => UInt8
  | u16 => UInt16
  | u32 => UInt32
  | octets count => Vector UInt8 count
  | name => Name
  | seek _ => Unit
  | header => Header
  | question => Question
  | record => Record
  | recordData .. => RecordData

def reader : (operation : Operation) → Reader operation.Value
  | u8 => Reader.u8
  | u16 => Reader.u16
  | u32 => Reader.u32
  | octets count => Reader.octets count
  | name => Reader.name
  | seek target => Reader.seek target
  | header => Header.read
  | question => Question.read
  | record => Record.read
  | recordData type length => RecordData.read type length

/-- Questions, records and their data may be refused half way. All else is read as
a whole or not at all. -/
def IsWhole : Operation → Prop
  | question | record | recordData .. => False
  | _ => True

theorem whole_reader {operation : Operation} (h : operation.IsWhole) : Whole operation.reader := by
  cases operation with
  | u8 => exact .u8
  | u16 => exact .u16
  | u32 => exact .u32
  | octets count => exact .octets count
  | name => exact .name
  | seek target => exact .seek target
  | header => exact Header.whole_read
  | question | record | recordData => exact h.elim

theorem forward_reader {operation : Operation} (h : ∀ target, operation ≠ seek target) :
    Forward operation.reader := by
  cases operation with
  | u8 => exact .u8
  | u16 => exact .u16
  | u32 => exact .u32
  | octets count => exact .octets count
  | name => exact .name
  | seek target => exact absurd rfl (h target)
  | header => exact Header.forward_read
  | question => exact Question.forward_read
  | record => exact Record.forward_read
  | recordData type length => exact RecordData.forward_read type length

/-- No operation leaves the message, not even one that goes elsewhere. -/
theorem left_reader_le (operation : Operation) (hstart : start ≤ message.size) :
    left (operation.reader message start) ≤ message.size := by
  by_cases h : ∃ target, operation = seek target
  · obtain ⟨target, rfl⟩ := h
    change left (Reader.seek target message start) ≤ message.size
    rw [Reader.seek]
    split
    · exact hstart
    · rename_i htarget
      exact Nat.le_of_not_lt htarget
  · exact (forward_reader (not_exists.mp h) hstart).2

end Operation

/-- An operation, where it began and what came of it. -/
structure Step where
  operation : Operation
  position : Nat
  result : EStateM.Result WireError Nat operation.Value

/-- Operations on one reader, one after the other. Each begins where the one before
was left, be it that it succeeded or that it was refused. -/
def steps (message : Message) (position : Nat) : List Operation → List Step
  | [] => []
  | operation :: rest =>
    let result := operation.reader message position
    { operation, position, result } :: steps message (left result) rest

/-- What a step on a message keeps to. -/
structure Step.Sound (message : Message) (step : Step) : Prop where
  /-- The position and the room behind it make up the message. -/
  inside : ∃ room, remaining message (left step.result) = .ok room (left step.result) ∧
    left step.result + room = message.size
  /-- Only a reader that is told where to go goes back. -/
  forward : (∀ target, step.operation ≠ .seek target) → step.position ≤ left step.result
  unmoved : step.operation.IsWhole → ∀ cause stop, step.result = .error cause stop →
    stop = step.position
  /-- Record data end as far behind their beginning as they are long. -/
  payload : ∀ type length, step.operation = .recordData type length →
    (∀ cause stop, step.result ≠ .error cause stop) →
      left step.result = step.position + length
  /-- To go to the end of record data is not refused when the data were read. -/
  payloadEnd : ∀ type length data middle, step.operation = .recordData type length →
    length ≤ message.size - step.position →
    RecordData.readPayload type length message step.position = .ok data middle →
      Reader.seek (RecordData.payloadEnd step.position length) message middle =
        .ok () (step.position + length)

theorem sound_step (operation : Operation) (hstart : start ≤ message.size) :
    Step.Sound message { operation, position := start, result := operation.reader message start } where
  inside := ⟨_, rfl, Nat.add_sub_cancel' (operation.left_reader_le hstart)⟩
  forward h := (Operation.forward_reader h hstart).1
  unmoved h _ _ hrefused := Operation.whole_reader h hrefused
  payload := by
    rintro type length rfl hsuccess
    cases hread : RecordData.read type length message start with
    | ok data stop =>
      change left (RecordData.read type length message start) = _
      rw [hread]
      exact RecordData.stop_of_read hstart hread
    | error cause stop => exact absurd hread (hsuccess cause stop)
  payloadEnd _ _ _ _ _ hroom _ := RecordData.seek_payloadEnd hstart hroom

theorem sound_of_mem_steps {operations : List Operation} (hstart : start ≤ message.size) :
    ∀ step ∈ steps message start operations, step.Sound message := by
  induction operations generalizing start with
  | nil => exact fun _ hmem => absurd hmem List.not_mem_nil
  | cons operation rest ih =>
    refine List.forall_mem_cons.mpr ⟨sound_step operation hstart, ?_⟩
    exact ih (operation.left_reader_le hstart)

/-- Whatever is done with a reader, and however often it is refused, each step
stays inside the message, goes back only if it is told where to go, does not move
if it is refused as a whole, and ends behind record data if it has read them. -/
theorem steps_sound (message : Message) (operations : List Operation) :
    ∀ step ∈ steps message 0 operations, step.Sound message :=
  sound_of_mem_steps (Nat.zero_le _)

/-- Where there is one octet, a number of two is refused and the root is read. When the
reader has been taken back, so are the data of a record that points to the root. -/
theorem steps_sound_root :
    steps #[0] 0 [.u16, .name, .seek 0, .recordData .ptr 1] =
        [⟨.u16, 0, .error .unexpectedEnd 0⟩, ⟨.name, 0, .ok "" 1⟩, ⟨.seek 0, 1, .ok () 0⟩,
          ⟨.recordData .ptr 1, 0, .ok (.ptr "") 1⟩] ∧
      Step.Sound #[0] ⟨.u16, 0, .error .unexpectedEnd 0⟩ ∧
      Step.Sound #[0] ⟨.name, 0, .ok "" 1⟩ ∧
      Step.Sound #[0] ⟨.seek 0, 1, .ok () 0⟩ ∧
      Step.Sound #[0] ⟨.recordData .ptr 1, 0, .ok (.ptr "") 1⟩ := by
  have hnumber : Reader.u16 #[0] 0 = .error .unexpectedEnd 0 := by decide +kernel
  have hname : Reader.name #[0] 0 = .ok "" 1 := by decide +kernel
  have hback : Reader.seek 0 #[0] 1 = .ok () 0 := seek_apply (by decide)
  have hdata : RecordData.read .ptr 1 #[0] 0 = .ok (.ptr "") 1 := by decide +kernel
  have hsteps : steps #[0] 0 [.u16, .name, .seek 0, .recordData .ptr 1] =
      [⟨.u16, 0, .error .unexpectedEnd 0⟩, ⟨.name, 0, .ok "" 1⟩, ⟨.seek 0, 1, .ok () 0⟩,
        ⟨.recordData .ptr 1, 0, .ok (.ptr "") 1⟩] := by
    simp only [steps, Operation.reader, hnumber, left, hname, hback, hdata]
  have hsound := steps_sound #[0] [.u16, .name, .seek 0, .recordData .ptr 1]
  simp only [hsteps, List.forall_mem_cons] at hsound
  obtain ⟨hfirst, hsecond, hthird, hfourth, -⟩ := hsound
  exact ⟨hsteps, hfirst, hsecond, hthird, hfourth⟩

end Reader

end ServiceDiscovery

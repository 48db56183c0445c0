import ServiceDiscovery.Proofs.Message.Extent
import ServiceDiscovery.Proofs.Reader.Motion

/-!
# The entries that a header announces

A header announces how many entries follow it, and a response has just as many.
Every entry takes a least number of octets, also one with a reference for its name
or without data (`Reader.Takes`), so a message that is too short for what it
announces is refused, and room for all entries of a response can be made in
advance (`Response.counts_honoured`).
-/

namespace ServiceDiscovery

variable {message : Message} {start stop : Nat}

namespace Reader

variable {α β : Type} {least more count : Nat} {reader : Reader α} {next : α → Reader β}
  {values : List α}

/-- Where the reader succeeds it has gone on by `least` octets or more, and it is
still inside the message. -/
def Takes (least : Nat) (reader : Reader α) : Prop :=
  ∀ ⦃message : Message⦄ ⦃start stop : Nat⦄ ⦃value : α⦄, start ≤ message.size →
    reader message start = .ok value stop → start + least ≤ stop ∧ stop ≤ message.size

theorem Forward.takes (h : Forward reader) : Takes 0 reader := by
  intro message start stop value hstart hread
  have hmoved := h hstart
  rwa [hread] at hmoved

namespace Takes

theorem bind (h : Takes least reader) (hnext : ∀ value, Takes more (next value)) :
    Takes (least + more) (reader >>= next) := by
  intro message start stop value hstart hread
  obtain ⟨first, middle, hfirst, hrest⟩ := bind_eq_ok_iff.mp hread
  obtain ⟨htaken, hinside⟩ := h hstart hfirst
  obtain ⟨hmore, hend⟩ := hnext first hinside hrest
  exact ⟨by omega, hend⟩

theorem pure (value : α) : Takes 0 (Pure.pure value) := (Forward.pure value).takes

theorem ofExcept (result : Except WireError α) : Takes 0 (Reader.ofExcept result) :=
  (Forward.ofExcept result).takes

theorem octets (count : Nat) : Takes count (Reader.octets count) := by
  intro message start stop values hstart hread
  obtain ⟨-, rfl⟩ := hasAt_of_octets hread
  exact ⟨Nat.le_refl _, ((Forward.octets count).takes hstart hread).2⟩

theorem u16 : Takes 2 Reader.u16 :=
  .bind (.bind (.octets 2) fun _ => .pure _) fun _ => .pure _

theorem u32 : Takes 4 Reader.u32 :=
  .bind (.bind (.octets 4) fun _ => .pure _) fun _ => .pure _

/-- A name takes one octet at least where it stands, be it the root or a
reference. -/
theorem name : Takes 1 Reader.name := by
  intro message start stop value hstart hread
  obtain ⟨labels, rfl, hlaid⟩ := name_eq_ok_iff.mp hread
  exact hlaid.lt_stop_and_le_size

theorem replicate (h : Takes least reader) (count : Nat) :
    Takes (least * count) (reader.replicate count) := by
  induction count with
  | zero => exact .pure []
  | succ count ih =>
    have hstep : Takes (least + (least * count + 0)) (reader.replicate (count + 1)) :=
      h.bind fun _ => ih.bind fun _ => .pure _
    rwa [Nat.add_zero, Nat.add_comm] at hstep

/-- Entries that were read are no more than what remained of the message had room
for. -/
theorem count_le (h : Takes least reader) (hleast : 0 < least) (hstart : start ≤ message.size)
    (hread : reader.replicate count message start = .ok values stop) :
    count ≤ (message.size - start) / least := by
  obtain ⟨htaken, hinside⟩ := h.replicate count hstart hread
  rw [Nat.le_div_iff_mul_le hleast, Nat.mul_comm]
  omega

end Takes

end Reader

open Reader (Takes)

/-! ## Headers, questions and records -/

theorem Header.size_le_of_read {header : Header} (h : Header.read message 0 = .ok header stop) :
    Header.size ≤ message.size := by
  have hinside := (Header.forward_read.takes (Nat.zero_le _) h).2
  rwa [Header.stop_of_read h, Nat.zero_add] at hinside

theorem Question.takes_read : Takes Response.minQuestionLength Question.read :=
  .bind .name fun _ => .bind .u16 fun _ => .bind (.ofExcept _) fun _ =>
    .bind .u16 fun _ => .bind (.ofExcept _) fun _ => .pure _

/-- The data of a record may be empty, and a name that runs past them does not
count, for the reader is taken back to their end. -/
theorem Record.takes_read : Takes Response.minRecordLength Record.read :=
  .bind .name fun _ => .bind .u16 fun _ => .bind (.ofExcept _) fun _ =>
    .bind .u16 fun _ => .bind (.ofExcept _) fun _ => .bind .u32 fun _ => .bind .u16 fun _ =>
      .bind (RecordData.forward_read _ _).takes fun _ => .pure _

namespace Response

variable {response : Response}

/-! ## What a header announces -/

/-- A response has the entries that the header of its message announces, whose
records are counted together, and the message is long enough for them. -/
structure Honours (message : Message) (response : Response) : Prop where
  header : Header.read message 0 = .ok response.header Header.size
  questions : response.questions.length = response.header.questions.toNat
  records : response.records.length =
    response.header.answers.toNat + response.header.nameservers.toNat +
      response.header.additional.toNat
  size : Header.size + minQuestionLength * response.questions.length +
    minRecordLength * response.records.length ≤ message.size

theorem honours_of_read (h : read message 0 = .ok response stop) : Honours message response := by
  obtain ⟨middle, hheader, -, hquestions, hrecords⟩ := parts_of_read h
  -- the header, the questions and the records take their room one behind the other
  have hroom := Header.size_le_of_read hheader
  obtain ⟨htaken, hmiddle⟩ := Question.takes_read.replicate _ hroom hquestions
  obtain ⟨hmore, hend⟩ := Record.takes_read.replicate _ hmiddle hrecords
  have hquestionCount := (Reader.sequence_of_replicate hquestions).2
  have hrecordCount := (Reader.sequence_of_replicate hrecords).2
  refine ⟨hheader, hquestionCount, hrecordCount, ?_⟩
  rw [hquestionCount, hrecordCount]
  omega

/-- Room is made for all entries of a response, behind its header and behind its
questions. -/
theorem reservations_of_read (h : read message 0 = .ok response stop) :
    (reservations message).map Reservation.count =
        [response.questions.length, response.records.length] ∧
      ∀ reservation ∈ reservations message,
        reservation.count ≤ reservation.remaining / reservation.minLength ∧
          reservation.capacity = reservation.count := by
  obtain ⟨middle, hheader, ⟨hresponse, hopcode, hcode⟩, hquestions, hrecords⟩ := parts_of_read h
  have hroom := Header.size_le_of_read hheader
  have hmiddle := (Question.takes_read.replicate _ hroom hquestions).2
  have hfirst := Question.takes_read.count_le (by decide) hroom hquestions
  have hsecond := Record.takes_read.count_le (by decide) hmiddle hrecords
  have hmade : reservations message =
      [reservation response.header.questions.toNat (message.size - Header.size) minQuestionLength,
        reservation response.header.records (message.size - middle) minRecordLength] := by
    simp only [reservations, readReserving, ReservingReader.bind_apply,
      ReservingReader.lift_apply, hheader, hresponse, hopcode, hcode, not_true_eq_false, ne_eq,
      or_self, if_false, reserve, hquestions, hrecords]
    rfl
  rw [hmade]
  refine ⟨?_, List.forall_mem_cons.mpr ⟨⟨hfirst, Nat.min_eq_left hfirst⟩,
    List.forall_mem_singleton.mpr ⟨hsecond, Nat.min_eq_left hsecond⟩⟩⟩
  rw [(Reader.sequence_of_replicate hquestions).2, (Reader.sequence_of_replicate hrecords).2]
  rfl

/-- A response has just the entries that its header announces, up to 196605 records,
and its message is long enough for the shortest such entries. So the room that is
made in advance, which has no bearing on what is read, is for all of them. A message
that is too short for the entries it announces is refused. Whatever is announced,
and also if the message is refused, room is made for no more entries than what
remains of the message could hold. -/
theorem counts_honoured :
    (read = do
      let header ← Header.read
      if ¬header.isResponse then
        throw .notAResponse
      else if header.opcode ≠ 0 ∨ header.responseCode ≠ 0 then
        throw .unsupportedOperation
      else
        let questions ← Question.read.replicate header.questions.toNat
        let records ← Record.read.replicate header.records
        return { header, questions, records }) ∧
    (∀ message response, decode message = .ok response →
      Honours message response ∧ response.records.length ≤ 196605 ∧
      (reservations message).map Reservation.count =
        [response.questions.length, response.records.length] ∧
      ∀ reservation ∈ reservations message,
        reservation.count ≤ reservation.remaining / reservation.minLength ∧
          reservation.capacity = reservation.count) ∧
    (∀ message header, Header.read message 0 = .ok header Header.size →
      message.size < Header.size + minQuestionLength * header.questions.toNat +
        minRecordLength * header.records →
      ∃ cause, decode message = .error cause) ∧
    ∀ message, ∀ reservation ∈ reservations message, reservation.Capped message := by
  refine ⟨read_eq, ?_, ?_, fun _ _ => capped_of_mem_reservations⟩
  · intro message response hdecode
    obtain ⟨stop, hread⟩ := decode_eq_ok_iff.mp hdecode
    have hhonours := honours_of_read hread
    refine ⟨hhonours, ?_, reservations_of_read hread⟩
    have hanswers := response.header.answers.toNat_lt
    have hnameservers := response.header.nameservers.toNat_lt
    have hadditional := response.header.additional.toNat_lt
    have hrecords := hhonours.records
    omega
  · intro message header hheader hshort
    cases hdecode : decode message with
    | error cause => exact ⟨cause, rfl⟩
    | ok response =>
      obtain ⟨stop, hread⟩ := decode_eq_ok_iff.mp hdecode
      have hhonours := honours_of_read hread
      -- the response has the header that was read in front of it
      cases hheader.symm.trans hhonours.header
      have hsize := hhonours.size
      rw [hhonours.questions, hhonours.records] at hsize
      exact absurd hsize (Nat.not_le_of_lt hshort)

/-- A response with the shortest entries: a question for the root, and a PTR record
of the root without data. -/
def shortest : Message :=
  #[0, 0, 0x84, 0, 0, 1, 0, 1, 0, 0, 0, 0,
    0, 0, 12, 0, 1,
    0, 0, 12, 0, 1, 0, 0, 0, 0, 0, 0]

/-- What the shortest entries say. -/
def shortestResponse : Response where
  header := { flags := 0x8400, questions := 1, answers := 1 }
  questions := [.internet "" .ptr]
  records := [{ name := "", ttl := 0, data := .ptr "" }]

/-- The header announces as much as fits into the message. It can't announce one
record more. -/
theorem counts_honoured_shortest :
    (decode shortest = .ok shortestResponse ∧ Honours shortest shortestResponse ∧
      Header.size + minQuestionLength * 1 + minRecordLength * 1 = shortest.size) ∧
    Header.read (shortest.set 11 1) 0 =
        .ok { shortestResponse.header with additional := 1 } Header.size ∧
      (shortest.set 11 1).size < Header.size + minQuestionLength * 1 + minRecordLength * 2 ∧
      ∃ cause, decode (shortest.set 11 1) = .error cause := by
  have hdecode : decode shortest = .ok shortestResponse :=
    decode_eq_ok_iff.mpr ⟨28, by decide +kernel⟩
  have hheader : Header.read (shortest.set 11 1) 0 =
      .ok { shortestResponse.header with additional := 1 } Header.size := by decide +kernel
  exact ⟨⟨hdecode, (counts_honoured.2.1 _ _ hdecode).1, by decide⟩, hheader, by decide,
    counts_honoured.2.2.1 _ _ hheader (by decide)⟩

end Response

end ServiceDiscovery

import ServiceDiscovery.Proofs.Attributes.RoundTrip
import ServiceDiscovery.Proofs.Message.Layout
import ServiceDiscovery.Proofs.Message.Reservations

/-!
# Messages read back

Reading undoes a layout. Every reader ends just behind the part it has read, so
the parts of a response are read one after the other, and a response that is
laid out in a message is what the message is decoded to
(`Response.LaidOut.decode_eq`, `Response.decode_of_sections`).
-/

namespace ServiceDiscovery

variable {message : Message} {start stop : Nat}

/-! ## Fields -/

theorem Name.FieldAt.read_eq {name : Name} (h : Name.FieldAt message start name stop) :
    Reader.name message start = .ok name stop := by
  obtain ⟨labels, rfl, hlaid⟩ := h
  exact Reader.name_of_laidOut hlaid

theorem Name.FieldAt.lt_stop_and_le_size {name : Name}
    (h : Name.FieldAt message start name stop) : start < stop ∧ stop ≤ message.size := by
  obtain ⟨labels, _, hlaid⟩ := h
  exact hlaid.lt_stop_and_le_size

theorem QueryClass.ofCode_classField (cls : QueryClass) (topBit : Bool) :
    QueryClass.ofCode (classField cls.code topBit &&& ~~~classTopBit) = .ok cls := by
  cases cls <;> cases topBit <;> rfl

theorem RecordClass.ofCode_classField (cls : RecordClass) (topBit : Bool) :
    RecordClass.ofCode (classField cls.code topBit &&& ~~~classTopBit) = .ok cls := by
  cases cls
  cases topBit <;> rfl

/-! ## Questions -/

theorem Question.LaidOut.read_eq {question : Question}
    (h : question.LaidOut message start stop) :
    Question.read message start = .ok question stop := by
  cases h with
  | @intro middle topBit hname hfixed =>
    obtain ⟨htype, hclass⟩ := Message.hasAt_append.mp hfixed
    rw [Octets.length_ofNat] at hclass
    simp only [Question.read, Reader.bind_apply, hname.read_eq, Reader.u16_of_hasAt htype,
      Reader.u16_of_hasAt hclass, QueryType.ofCode_code, QueryClass.ofCode_classField,
      Reader.ofExcept_ok, Reader.pure_apply]

/-! ## Record data -/

namespace RecordData.LaidOut

variable {data : RecordData}

theorem le_stop_and_le_size (h : data.LaidOut message start stop) :
    start ≤ stop ∧ stop ≤ message.size := by
  cases h with
  | a h =>
    have := h.le_size (List.ne_nil_of_length_eq_add_one (Vector.length_toList ..))
    simp_all
  | aaaa h =>
    have := h.le_size (List.ne_nil_of_length_eq_add_one (Vector.length_toList ..))
    simp_all
  | ptr htarget =>
    have := htarget.lt_stop_and_le_size
    omega
  | srv hfixed htarget =>
    have := htarget.lt_stop_and_le_size
    omega
  | txt hkeys hoctets h =>
    exact ⟨Nat.le_add_right _ _, h.le_size (Attributes.octets_ne_nil hoctets)⟩

theorem readPayload_eq (h : data.LaidOut message start stop) :
    RecordData.readPayload data.type (stop - start) message start = .ok data stop := by
  cases h with
  | @a address h =>
    have hread := Reader.octets_of_hasAt (by decide) h
    simp [RecordData.readPayload, RecordData.type, Reader.bind_apply, hread, Reader.pure_apply]
  | @aaaa address h =>
    have hread := Reader.octets_of_hasAt (by decide) h
    simp [RecordData.readPayload, RecordData.type, Reader.bind_apply, hread, Reader.pure_apply]
  | ptr htarget =>
    have hpositive : stop - start ≠ 0 := by
      have := htarget.lt_stop_and_le_size
      omega
    simp [RecordData.readPayload, RecordData.type, Reader.bind_apply, hpositive, htarget.read_eq,
      Reader.pure_apply]
  | srv hfixed htarget =>
    -- six octets of numbers and one of the target at least
    have hlong : ¬stop - start < 7 := by
      have := htarget.lt_stop_and_le_size
      omega
    have hparts := hfixed
    simp only [Message.hasAt_append, List.length_append, Octets.length_ofNat] at hparts
    obtain ⟨⟨hpriority, hweight⟩, hport⟩ := hparts
    have hread : Reader.name message (start + 2 + 2 + 2) = _ := htarget.read_eq
    simp only [RecordData.readPayload, RecordData.type, Reader.bind_apply, if_neg hlong,
      Reader.u16_of_hasAt hpriority, Reader.u16_of_hasAt hweight,
      Reader.u16_of_hasAt (Nat.add_assoc start 2 2 ▸ hport), hread, Reader.pure_apply]
  | @txt attributes octets hkeys hoctets h =>
    rw [Nat.add_sub_cancel_left]
    have hcount : octets.length ≠ 0 :=
      fun hzero => Attributes.octets_ne_nil hoctets (List.eq_nil_of_length_eq_zero hzero)
    have hread : Reader.octets octets.length message start =
        .ok ⟨octets.toArray, rfl⟩ (start + octets.length) :=
      Reader.octets_of_hasAt hcount (by simpa [Vector.toList] using h)
    simp only [RecordData.readPayload, RecordData.type, Reader.bind_apply, hread,
      Vector.toList_mk, Attributes.decode_octets hkeys hoctets, Reader.ofExcept_ok,
      Reader.pure_apply]

/-- Data are read as what is laid out, and the reader ends behind them. -/
theorem read_eq (h : data.LaidOut message start stop) :
    RecordData.read data.type (stop - start) message start = .ok data stop := by
  obtain ⟨hstart, hstop⟩ := h.le_stop_and_le_size
  have hroom : ¬message.size - start < stop - start := by omega
  have hinside : start + (stop - start) ≤ message.size := by omega
  have hend : RecordData.payloadEnd start (stop - start) = stop := Nat.add_sub_cancel' hstart
  simp only [RecordData.read, Reader.bind_apply, Reader.position_apply,
    RecordData.computeEnd_of_word (.inr hinside), Reader.remaining_apply, if_neg hroom,
    h.readPayload_eq, hend, Reader.seek_apply hstop, Reader.pure_apply]

end RecordData.LaidOut

/-! ## Records -/

theorem Record.LaidOut.read_eq {record : Record} (h : record.LaidOut message start stop) :
    Record.read message start = .ok record stop := by
  cases h with
  | @intro middle length topBit hname hfixed hlength hdata =>
    simp only [Message.hasAt_append, List.length_append, Octets.length_ofNat,
      ← Nat.add_assoc] at hfixed
    obtain ⟨⟨⟨htype, hclass⟩, httl⟩, hcount⟩ := hfixed
    -- the field has room for the length
    have hnat : length.toUInt16.toNat = length := UInt16.toNat_ofNat_of_lt' hlength
    have hlengthField : Reader.u16 message (middle + 2 + 2 + 4) = .ok length.toUInt16 _ :=
      Reader.u16_of_hasAt (by rwa [hnat])
    have hread : RecordData.read record.type length.toUInt16.toNat message
        (middle + 2 + 2 + 4 + 2) = .ok record.data (middle + 10 + length) := by
      have hdataRead := hdata.read_eq
      rw [Nat.add_sub_cancel_left] at hdataRead
      rw [hnat]
      exact hdataRead
    simp only [Record.read, Reader.bind_apply, hname.read_eq, Reader.u16_of_hasAt htype,
      Reader.u16_of_hasAt hclass, Reader.u32_of_hasAt httl, hlengthField,
      RecordType.ofCode_code, RecordClass.ofCode_classField, Reader.ofExcept_ok, hread,
      Reader.pure_apply]

/-! ## Messages -/

theorem Sequence.replicate_eq {α : Type} {reader : Reader α} {laidOut : Nat → α → Nat → Prop}
    {values : List α}
    (hread : ∀ start value stop, laidOut start value stop → reader message start = .ok value stop)
    (h : Sequence laidOut start values stop) :
    reader.replicate values.length message start = .ok values stop := by
  induction h with
  | nil => rfl
  | cons hfirst hrest ih =>
    simp only [List.length_cons, Reader.replicate, Reader.bind_apply, hread _ _ _ hfirst, ih,
      Reader.pure_apply]

theorem Header.read_of_hasAt {header : Header} (h : message.HasAt 0 header.octets) :
    Header.read message 0 = .ok header Header.size := by
  have hsize : ¬message.size - 0 < Header.size := by
    have := h.le_size (by simp [Header.octets, Header.fields, Octets.ofNat])
    simp [Header.octets, Header.fields] at this
    simpa [Header.size] using this
  simp only [Header.octets, Header.fields, List.flatMap_cons, List.flatMap_nil,
    Message.hasAt_append, Octets.length_ofNat] at h
  obtain ⟨hid, hflags, hquestions, hanswers, hnameservers, hadditional, _⟩ := h
  simp only [Header.read, Reader.bind_apply, Reader.remaining_apply, if_neg hsize,
    Reader.u16_of_hasAt hid, Reader.u16_of_hasAt hflags, Reader.u16_of_hasAt hquestions,
    Reader.u16_of_hasAt hanswers, Reader.u16_of_hasAt hnameservers,
    Reader.u16_of_hasAt hadditional, Reader.pure_apply]
  rfl

/-- A message is decoded to the response that is laid out in it if its header
counts the entries and reports neither an error nor another operation. -/
theorem Response.LaidOut.decode_eq {response : Response} (h : Response.LaidOut message response)
    (hresponse : response.header.isResponse) (hopcode : response.header.opcode = 0)
    (hcode : response.header.responseCode = 0)
    (hquestions : response.header.questions.toNat = response.questions.length)
    (hrecords : response.header.records = response.records.length) :
    Response.decode message = .ok response := by
  cases h with
  | @intro middle stop hheader hquestionsLaid hrecordsLaid =>
    have hquestionsRead := hquestionsLaid.replicate_eq fun _ _ _ => Question.LaidOut.read_eq
    have hrecordsRead := hrecordsLaid.replicate_eq fun _ _ _ => Record.LaidOut.read_eq
    have hread : Response.read message 0 = .ok response stop := by
      simp only [Response.read_eq, Reader.bind_apply, Header.read_of_hasAt hheader, hresponse,
        hopcode, hcode, not_true_eq_false, ne_eq, or_self, if_false, hquestions, hquestionsRead,
        hrecords, hrecordsRead, Reader.pure_apply]
    rw [Response.decode, Reader.value, hread]

/-- Whole messages are decoded to what they were made of. The records stand in
three sections and are one list in the response. -/
theorem Response.decode_of_sections {header : Header} {questions : List Question}
    {answers nameservers additional : List Record}
    (hresponse : header.isResponse) (hopcode : header.opcode = 0)
    (hcode : header.responseCode = 0)
    (hquestions : header.questions.toNat = questions.length)
    (hanswers : header.answers.toNat = answers.length)
    (hnameservers : header.nameservers.toNat = nameservers.length)
    (hadditional : header.additional.toNat = additional.length)
    (h : Response.LaidOut message
      { header, questions, records := answers ++ nameservers ++ additional }) :
    Response.decode message =
      .ok { header, questions, records := answers ++ nameservers ++ additional } := by
  have hrecords : header.records = (answers ++ nameservers ++ additional).length := by
    rw [Header.records, hanswers, hnameservers, hadditional, List.length_append,
      List.length_append]
  exact h.decode_eq hresponse hopcode hcode hquestions hrecords

/-! ## A message with references -/

/-- A browse for `x.` is answered with one instance and where it is. All names
but the first refer back, two of them to a name that refers back itself, and
behind the last record there is an octet to spare. -/
def announcement : Message :=
  #[0, 7, 0x84, 0, 0, 1, 0, 1, 0, 0, 0, 2,
    1, 0x78, 0, 0, 12, 0x80, 1,
    0xc0, 12, 0, 12, 0, 1, 0, 0, 0, 10, 0, 4, 1, 0x79, 0xc0, 12,
    0xc0, 31, 0, 33, 0x80, 1, 0, 0, 0, 10, 0, 8, 0, 0, 0, 0, 0, 9, 0xc0, 12,
    0xc0, 31, 0, 16, 0x80, 1, 0, 0, 0, 10, 0, 4, 3, 0x6b, 0x3d, 0x76,
    0xff]

/-- What the announcement says. -/
def announced : Response where
  header := { id := 7, flags := 0x8400, questions := 1, answers := 1, additional := 2 }
  questions := [.internet "x." .ptr]
  records := [
    { name := "x.", ttl := 10, data := .ptr "y.x." },
    { name := "y.x.", ttl := 10, data := .srv 0 0 9 "x." },
    { name := "y.x.", ttl := 10, data := .txt (.ofList [("k", "v")]) }]

/-- A reminder of the announcement: the first of its records alone. -/
def reminder : Message :=
  #[0, 0, 0x84, 0, 0, 0, 0, 1, 0, 0, 0, 0,
    1, 0x78, 0, 0, 12, 0, 1, 0, 0, 0, 10, 0, 4, 1, 0x79, 0xc0, 12]

theorem announcement_service :
    Name.LaidOut announcement 12 12 ["x"] 15 :=
  .label (by decide) (by decide) (by decide) (.root (by decide))

theorem announcement_toService {start : Nat} (hstart : 12 < start)
    (h : announcement.HasAt start (Name.referenceOctets 12)) :
    Name.FieldAt announcement start "x." (start + 2) :=
  ⟨["x"], rfl, .reference hstart (by decide) h announcement_service⟩

theorem announcement_instance :
    Name.LaidOut announcement 31 31 ["y", "x"] 35 :=
  .label (by decide) (by decide) (by decide)
    (.reference (by decide) (by decide) (by decide) announcement_service)

theorem announcement_toInstance {start : Nat} (hstart : 31 < start)
    (h : announcement.HasAt start (Name.referenceOctets 31)) :
    Name.FieldAt announcement start "y.x." (start + 2) :=
  ⟨["y", "x"], rfl, .reference hstart (by decide) h announcement_instance⟩

theorem announcement_laidOut : Response.LaidOut announcement announced := by
  have hquestion : (Question.internet "x." .ptr).LaidOut announcement 12 19 :=
    .intro true ⟨["x"], rfl, announcement_service⟩ (by decide)
  have hptr : RecordData.LaidOut announcement 31 (.ptr "y.x.") 35 :=
    .ptr ⟨["y", "x"], rfl, announcement_instance⟩
  have hsrv : RecordData.LaidOut announcement 47 (.srv 0 0 9 "x.") 55 :=
    @RecordData.LaidOut.srv _ 47 _ _ _ _ _ (by decide) (announcement_toService (by decide)
      (by decide))
  have htxt : RecordData.LaidOut announcement 67 (.txt (.ofList [("k", "v")])) 71 :=
    @RecordData.LaidOut.txt _ _ _ [3, 0x6b, 0x3d, 0x76] (by decide) rfl (by decide)
  have hfirst : Record.LaidOut announcement 19
      { name := "x.", ttl := 10, data := .ptr "y.x." } 35 :=
    @Record.LaidOut.intro _ _ _ 21 4 false (announcement_toService (by decide) (by decide))
      (by decide) (by decide) hptr
  have hsecond : Record.LaidOut announcement 35
      { name := "y.x.", ttl := 10, data := .srv 0 0 9 "x." } 55 :=
    @Record.LaidOut.intro _ _ _ 37 8 true (announcement_toInstance (by decide) (by decide))
      (by decide) (by decide) hsrv
  have hthird : Record.LaidOut announcement 55
      { name := "y.x.", ttl := 10, data := .txt (.ofList [("k", "v")]) } 71 :=
    @Record.LaidOut.intro _ _ _ 57 4 true (announcement_toInstance (by decide) (by decide))
      (by decide) (by decide) htxt
  exact .intro (by decide) (.cons hquestion .nil)
    (.cons hfirst (.cons hsecond (.cons hthird .nil)))

/-- The references are followed, and the octet to spare is passed over. -/
theorem Response.decode_announcement : Response.decode announcement = .ok announced :=
  @Response.decode_of_sections announcement announced.header announced.questions
    (announced.records.take 1) [] (announced.records.drop 1) (by decide) (by decide) (by decide)
    (by decide) (by decide) (by decide) (by decide) announcement_laidOut

end ServiceDiscovery

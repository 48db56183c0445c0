import ServiceDiscovery.Proofs.Message.RoundTrip
import ServiceDiscovery.Proofs.Name.Normal
import ServiceDiscovery.Proofs.QueryPacket.Encoding

/-!
# What a query packet asks

A packet that asks questions holds a header that counts them and their octets one
behind the other (`QueryPacket.holding`). Each question either is appended or is
refused for a cause that depends on its name and on the number of questions in
front of it (`QueryPacket.ask_holding`). From that it follows when a sequence of
questions can be asked, which of them is refused first and why, and that the
questions are read back in their order (`QueryPacket.askAll_empty`).
-/

namespace ServiceDiscovery

/-! ## Octets of questions -/

namespace Question

variable {message : Message} {start : Nat} {question : Question}

/-- The question with its name as it is read from messages. -/
def normalize (question : Question) : Question :=
  { question with name := question.name.normalize }

/-- The octets of a question whose name is written label by label. -/
def fullOctets (question : Question) (unicast : Bool) : List UInt8 :=
  Name.fullOctets question.name.labels ++ Octets.ofNat 2 question.type.code.toNat ++
    Octets.ofNat 2 (classField question.cls.code unicast).toNat

theorem octets_eq (question : Question) (unicast : Bool) :
    question.octets unicast =
      match question.name.tooLong? with
      | some length => .error (.labelTooLong length)
      | none => .ok (question.fullOctets unicast) := by
  rw [octets, Name.write_eq]
  cases question.name.tooLong? <;> rfl

theorem octets_normalize (question : Question) (unicast : Bool) :
    question.normalize.octets unicast = question.octets unicast := by
  rw [octets, normalize, Name.write_normalize]
  rfl

/-- A question whose name can be written is laid out as its octets, in its normal
form. -/
theorem laidOut_of_fullOctets {unicast : Bool} (hname : question.name.tooLong? = none)
    (h : message.HasAt start (question.fullOctets unicast)) :
    question.normalize.LaidOut message start
      (start + (question.fullOctets unicast).length) := by
  have hoctets : question.normalize.octets unicast = .ok (question.fullOctets unicast) := by
    rw [octets_normalize, octets_eq, hname]
  exact .of_octets (Name.normalize_normalize question.name) hoctets h

end Question

/-- The octets of questions one behind the other, each with whether it asks for a
unicast response. -/
def Question.allOctets (questions : List (Question × Bool)) : List UInt8 :=
  questions.flatMap fun asked => asked.1.fullOctets asked.2

theorem Question.sequence_of_allOctets {message : Message} {start : Nat}
    {questions : List (Question × Bool)}
    (hnames : ∀ asked ∈ questions, asked.1.name.tooLong? = none)
    (h : message.HasAt start (allOctets questions)) :
    Sequence (fun start question stop => question.LaidOut message start stop) start
      (questions.map fun asked => asked.1.normalize)
      (start + (allOctets questions).length) := by
  induction questions generalizing start with
  | nil => exact .nil
  | cons asked rest ih =>
    obtain ⟨hname, hnamesRest⟩ := List.forall_mem_cons.mp hnames
    rw [allOctets, List.flatMap_cons] at h ⊢
    obtain ⟨hfirst, hrest⟩ := Message.hasAt_append.mp h
    rw [List.length_append, ← Nat.add_assoc]
    exact .cons (laidOut_of_fullOctets hname hfirst) (ih hnamesRest hrest)

theorem Response.decode_of_not_isResponse {message : Message} {header : Header}
    (h : message.HasAt 0 header.octets) (hquery : ¬header.isResponse) :
    decode message = .error .notAResponse := by
  have hread : Response.read message 0 = .error .notAResponse Header.size := by
    simp only [Response.read_eq, Reader.bind_apply, Header.read_of_hasAt h, if_pos hquery]
    rfl
  rw [decode, Reader.value, hread]

namespace QueryPacket

variable {id : UInt16} {earlier questions : List (Question × Bool)} {cause : WireError}

/-! ## One more question -/

/-- The greatest number of questions that a header counts. -/
def maxQuestions : Nat := 0xffff

/-- The packet that holds some questions. -/
def holding (id : UInt16) (questions : List (Question × Bool)) : QueryPacket where
  message := (({ id, questions := questions.length.toUInt16 } : Header).octets ++
    Question.allOctets questions).toArray

/-- Why a question can't be added to `count` others: one of its labels is too long,
or else no more questions can be counted. -/
def refusal? (count : Nat) (question : Question) : Option WireError :=
  match question.name.tooLong? with
  | some length => some (.labelTooLong length)
  | none => if count = maxQuestions then some .tooManyEntries else none

theorem refusal?_eq_none_iff {count : Nat} {question : Question} :
    refusal? count question = none ↔
      question.name.tooLong? = none ∧ count ≠ maxQuestions := by
  rw [refusal?]
  cases question.name.tooLong? <;> simp

theorem empty_eq_holding (id : UInt16) : empty id = holding id [] := by
  simp [empty, holding, Question.allOctets]

theorem message_holding_append (question : Question) (unicast : Bool) :
    (holding id earlier).message ++ question.fullOctets unicast =
      (({ id, questions := earlier.length.toUInt16 } : Header).octets ++
        Question.allOctets (earlier ++ [(question, unicast)])).toArray := by
  simp [holding, Question.allOctets]

/-- A question is appended unless there is a reason to refuse it. -/
theorem ask_holding (hcount : earlier.length ≤ maxQuestions) (question : Question)
    (unicast : Bool) :
    (holding id earlier).ask question unicast =
      match refusal? earlier.length question with
      | some cause => .error cause
      | none => .ok (holding id (earlier ++ [(question, unicast)])) := by
  have hnat : earlier.length.toUInt16.toNat = earlier.length :=
    UInt16.toNat_ofNat_of_lt' (Nat.lt_succ_of_le hcount)
  rw [ask, Question.octets_eq, refusal?]
  cases question.name.tooLong? with
  | some length => rfl
  | none =>
    simp only [bind, Except.bind, message_holding_append]
    by_cases hfull : earlier.length = maxQuestions
    · have hfield : earlier.length.toUInt16 = 0xffff := by
        rw [hfull]
        rfl
      rw [Header.countQuestion_octets_of_full hfield, if_pos hfull]
    · have hfield : earlier.length.toUInt16 ≠ 0xffff := by
        intro heq
        rw [heq] at hnat
        exact hfull hnat.symm
      rw [Header.countQuestion_octets hfield, if_neg hfull]
      simp [holding, pure, Except.pure]

/-! ## All questions -/

/-- Why the first of some questions that can't be added to `count` others is
refused. -/
def firstRefusal? (count : Nat) : List (Question × Bool) → Option WireError
  | [] => none
  | asked :: rest => (refusal? count asked.1).or (firstRefusal? (count + 1) rest)

/-- Questions are appended in their order unless there is a reason to refuse one
of them. -/
theorem askAll_holding (hcount : earlier.length ≤ maxQuestions) :
    (holding id earlier).askAll questions =
      match firstRefusal? earlier.length questions with
      | some cause => .error cause
      | none => .ok (holding id (earlier ++ questions)) := by
  induction questions generalizing earlier with
  | nil =>
    rw [List.append_nil]
    rfl
  | cons asked rest ih =>
    have hstep : (holding id earlier).askAll (asked :: rest) =
        (holding id earlier).ask asked.1 asked.2 >>= (askAll · rest) := rfl
    rw [hstep, ask_holding hcount, firstRefusal?]
    cases hrefusal : refusal? earlier.length asked.1 with
    | some cause => rfl
    | none =>
      have hroom : (earlier ++ [asked]).length ≤ maxQuestions := by
        have hne := (refusal?_eq_none_iff.mp hrefusal).2
        rw [List.length_append, List.length_singleton]
        omega
      have hnext := ih hroom
      rwa [List.length_append, List.append_assoc] at hnext

theorem askAll_empty_eq (id : UInt16) (questions : List (Question × Bool)) :
    (empty id).askAll questions =
      match firstRefusal? 0 questions with
      | some cause => .error cause
      | none => .ok (holding id questions) := by
  rw [empty_eq_holding]
  exact askAll_holding (Nat.zero_le _)

theorem askAll_empty_eq_ok_iff {packet : QueryPacket} :
    (empty id).askAll questions = .ok packet ↔
      firstRefusal? 0 questions = none ∧ holding id questions = packet := by
  rw [askAll_empty_eq]
  cases firstRefusal? 0 questions <;> simp

theorem exists_askAll_empty_iff :
    (∃ packet, (empty id).askAll questions = .ok packet) ↔ firstRefusal? 0 questions = none := by
  simp [askAll_empty_eq_ok_iff]

theorem askAll_empty_eq_error_iff :
    (empty id).askAll questions = .error cause ↔ firstRefusal? 0 questions = some cause := by
  rw [askAll_empty_eq]
  cases firstRefusal? 0 questions <;> simp

theorem firstRefusal?_eq_none_iff {count : Nat} (hcount : count ≤ maxQuestions) :
    firstRefusal? count questions = none ↔
      (∀ asked ∈ questions, asked.1.name.tooLong? = none) ∧
        count + questions.length ≤ maxQuestions := by
  induction questions generalizing count with
  | nil => simp [firstRefusal?, hcount]
  | cons asked rest ih =>
    rw [firstRefusal?, Option.or_eq_none_iff, refusal?_eq_none_iff, List.forall_mem_cons,
      List.length_cons]
    by_cases hfull : count = maxQuestions
    · have hmore : ¬count + (rest.length + 1) ≤ maxQuestions := by omega
      simp [hfull]
    · have hroom : count + 1 ≤ maxQuestions := by omega
      rw [ih hroom, Nat.add_assoc, Nat.add_comm 1]
      simp [hfull, and_assoc]

theorem firstRefusal?_eq_some_iff {count : Nat} :
    firstRefusal? count questions = some cause ↔
      ∃ earlier refused later, questions = earlier ++ refused :: later ∧
        firstRefusal? count earlier = none ∧
        refusal? (count + earlier.length) refused.1 = some cause := by
  induction questions generalizing count with
  | nil => simp [firstRefusal?]
  | cons asked rest ih =>
    rw [firstRefusal?]
    constructor
    · intro h
      cases hfirst : refusal? count asked.1 with
      | some found =>
        rw [hfirst, Option.some_or] at h
        exact ⟨[], asked, rest, rfl, rfl, hfirst.trans h⟩
      | none =>
        rw [hfirst, Option.none_or] at h
        obtain ⟨earlier, refused, later, rfl, hearlier, hrefused⟩ := ih.mp h
        refine ⟨asked :: earlier, refused, later, rfl, ?_, ?_⟩
        · rw [firstRefusal?, hfirst, Option.none_or, hearlier]
        · rwa [List.length_cons, Nat.add_comm earlier.length, ← Nat.add_assoc]
    · rintro ⟨earlier, refused, later, hsplit, hearlier, hrefused⟩
      cases earlier with
      | nil =>
        obtain ⟨rfl, rfl⟩ := List.cons.inj hsplit
        rw [List.length_nil, Nat.add_zero] at hrefused
        rw [hrefused, Option.some_or]
      | cons first earlier =>
        obtain ⟨rfl, rfl⟩ := List.cons.inj hsplit
        rw [firstRefusal?, Option.or_eq_none_iff] at hearlier
        rw [hearlier.1, Option.none_or]
        refine ih.mpr ⟨earlier, refused, later, rfl, hearlier.2, ?_⟩
        rwa [List.length_cons, Nat.add_comm earlier.length, ← Nat.add_assoc] at hrefused

/-! ## Reading the packet -/

theorem hasAt_holding (id : UInt16) (questions : List (Question × Bool)) :
    (holding id questions).message.HasAt 0
      (({ id, questions := questions.length.toUInt16 } : Header).octets ++
        Question.allOctets questions) := by
  rw [Message.HasAt, holding]
  exact List.prefix_rfl

theorem header_read_holding (id : UInt16) (questions : List (Question × Bool)) :
    Header.read (holding id questions).message 0 =
      .ok { id, questions := questions.length.toUInt16 } Header.size :=
  Header.read_of_hasAt (hasAt_holding id questions).left

/-- The questions of a packet are read back in their normal form, and behind them
the packet ends. -/
theorem questions_read_holding (id : UInt16)
    (hnames : ∀ asked ∈ questions, asked.1.name.tooLong? = none) :
    Question.read.replicate questions.length (holding id questions).message Header.size =
      .ok (questions.map fun asked => asked.1.normalize)
        (holding id questions).message.size := by
  have hplaced : (holding id questions).message.HasAt Header.size
      (Question.allOctets questions) := (hasAt_holding id questions).right
  have hsize : Header.size + (Question.allOctets questions).length =
      (holding id questions).message.size := by
    simp [holding, Header.octets, Header.fields, Header.size]
    omega
  have hsequence := Question.sequence_of_allOctets hnames hplaced
  rw [hsize] at hsequence
  have hread := hsequence.replicate_eq fun _ _ _ => Question.LaidOut.read_eq
  rwa [List.length_map] at hread

theorem isEmpty_holding (h : questions.length ≤ maxQuestions) :
    (holding id questions).isEmpty ↔ questions = [] := by
  have hquestions : Header.questionCount (holding id questions).message =
      questions.length.toUInt16 := Header.questionCount_octets
  have hanswers : Header.answerCount (holding id questions).message = 0 := by
    simp [holding, Header.answerCount, Header.fieldAt, Header.octets, Header.fields,
      Octets.ofNat_two, Octets.toNat]
  have hnat : questions.length.toUInt16.toNat = questions.length :=
    UInt16.toNat_ofNat_of_lt' (Nat.lt_succ_of_le h)
  rw [isEmpty, hquestions, hanswers, ← List.length_eq_zero_iff, ← hnat]
  simp [← UInt16.toNat_inj]

/-- Questions can be asked in one packet just if all their labels fit and the
header can count them. Otherwise the first one that can't be added is refused,
for its first label that is too long or else for the count. The header of the
packet counts the questions and says nothing else, the questions are read back in
their normal form up to the end of the packet, and the packet is empty just if
there are none. -/
theorem askAll_empty (id : UInt16) (questions : List (Question × Bool)) :
    ((∃ packet, (empty id).askAll questions = .ok packet) ↔
      (∀ asked ∈ questions, ∀ piece ∈ asked.1.name.pieces,
        piece.utf8ByteSize ≤ Name.maxLabelLength) ∧ questions.length ≤ maxQuestions) ∧
    (∀ cause, (empty id).askAll questions = .error cause ↔
      ∃ earlier refused later, questions = earlier ++ refused :: later ∧
        (∃ packet, (empty id).askAll earlier = .ok packet) ∧
        refusal? earlier.length refused.1 = some cause) ∧
    ∀ packet, (empty id).askAll questions = .ok packet →
      (∃ count : UInt16, count.toNat = questions.length ∧
        Header.read packet.message 0 = .ok { id, questions := count } Header.size) ∧
      Question.read.replicate questions.length packet.message Header.size =
        .ok (questions.map fun asked => asked.1.normalize) packet.message.size ∧
      (packet.isEmpty ↔ questions = []) := by
  have hasked : firstRefusal? 0 questions = none ↔
      (∀ asked ∈ questions, asked.1.name.tooLong? = none) ∧ questions.length ≤ maxQuestions := by
    rw [firstRefusal?_eq_none_iff (Nat.zero_le _), Nat.zero_add]
  refine ⟨?_, ?_, ?_⟩
  · simp only [exists_askAll_empty_iff, hasked, Name.tooLong?_eq_none_iff]
  · intro cause
    simp only [exists_askAll_empty_iff, askAll_empty_eq_error_iff, firstRefusal?_eq_some_iff,
      Nat.zero_add]
  · intro packet hpacket
    obtain ⟨hnone, rfl⟩ := askAll_empty_eq_ok_iff.mp hpacket
    obtain ⟨hnames, hcount⟩ := hasked.mp hnone
    refine ⟨⟨questions.length.toUInt16, ?_, header_read_holding id questions⟩,
      questions_read_holding id hnames, isEmpty_holding hcount⟩
    exact UInt16.toNat_ofNat_of_lt' (Nat.lt_succ_of_le hcount)

/-- Dots to spare are not read back. A label of 64 octets is refused wherever it
stands, and so is the first question beyond the greatest number. -/
theorem askAll_empty_bounds :
    (∃ packet,
      (empty 7).askAll [(.internet "x." .ptr, true), (.internet ".y..x" .any, false)] =
        .ok packet ∧
      Question.read.replicate 2 packet.message Header.size =
        .ok [.internet "x." .ptr, .internet "y.x." .any] packet.message.size ∧
      ¬packet.isEmpty) ∧
    (empty 7).askAll
        [(.internet "x." .ptr, true), (.internet (.ofList (.replicate 64 'a')) .srv, true)] =
      .error (.labelTooLong 64) ∧
    (empty 7).askAll (.replicate 0x10000 (.internet "x." .ptr, true)) =
      .error .tooManyEntries := by
  refine ⟨?_, ?_, ?_⟩
  · obtain ⟨packet, hpacket⟩ := (askAll_empty 7
      [(.internet "x." .ptr, true), (.internet ".y..x" .any, false)]).1.mpr (by decide)
    obtain ⟨-, hread, hempty⟩ := (askAll_empty 7 _).2.2 packet hpacket
    exact ⟨packet, hpacket, hread, fun h => absurd (hempty.mp h) (by decide)⟩
  · refine ((askAll_empty 7 _).2.1 _).mpr ⟨[(.internet "x." .ptr, true)], _, [], rfl, ?_, ?_⟩
    · exact (askAll_empty 7 _).1.mpr (by decide)
    · decide
  · refine ((askAll_empty 7 _).2.1 _).mpr
      ⟨.replicate 0xffff (.internet "x." .ptr, true), (.internet "x." .ptr, true), [], ?_, ?_, ?_⟩
    · exact List.replicate_succ'
    · refine (askAll_empty 7 _).1.mpr ⟨fun asked hmem => ?_, ?_⟩
      · rw [List.eq_of_mem_replicate hmem]
        decide
      · rw [List.length_replicate]
        exact Nat.le_refl _
    · rw [List.length_replicate]
      decide

/-! ## Receiving the packet -/

/-- No packet that asks questions is taken for a response, whether it is received
in full or cut off behind its header. -/
theorem decode_of_askAll {packet : QueryPacket} {length : Nat} (hlength : Header.size ≤ length)
    (h : (empty id).askAll questions = .ok packet) :
    Response.decode (packet.message.take length) = .error .notAResponse := by
  obtain ⟨-, rfl⟩ := askAll_empty_eq_ok_iff.mp h
  have hbegins := (hasAt_holding id questions).left
  refine Response.decode_of_not_isResponse (hbegins.take ?_) (by simp [Header.isResponse])
  simpa [Header.octets, Header.fields, Octets.length_ofNat, Header.size] using hlength

end QueryPacket

end ServiceDiscovery

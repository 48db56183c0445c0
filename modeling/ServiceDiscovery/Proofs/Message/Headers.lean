import Mathlib.Data.List.Forall2
import ServiceDiscovery.Proofs.Message.RoundTrip
import ServiceDiscovery.Proofs.QueryPacket.Encoding

/-!
# Headers that are changed in place

The octets at the beginning of a message against the fields of a header. A message
with room for a header is the octets of a header in front of a body
(`Header.exists_octets`), and reading and replacing the header in it are reading
and replacing those octets. `Header.Change` lists what is done to a header in
place, and `Header.inMessage_octets` says that a change does to the octets of a
header just what it does to its fields, where a count goes up by one or is refused
(`Header.Change.inFields`). From that `Header.changes_track_fields` says what any
sequence of changes does, which goes on behind those that are refused.
-/

namespace ServiceDiscovery

/-- Any two octets are a number. -/
theorem Octets.exists_ofNat_two (high low : UInt8) :
    ∃ field : UInt16, ofNat 2 field.toNat = [high, low] := by
  have hlt : toNat [high, low] < Nat.pow 256 2 := toNat_lt [high, low]
  have hnat : (toNat [high, low]).toUInt16.toNat = toNat [high, low] :=
    UInt16.toNat_ofNat_of_lt' hlt
  refine ⟨(toNat [high, low]).toUInt16, ?_⟩
  rw [hnat]
  exact ofNat_toNat [high, low]

/-- Octets begin with as many numbers of two octets as they have room for. -/
theorem Octets.exists_fields (count : Nat) {octets : List UInt8}
    (h : 2 * count ≤ octets.length) :
    ∃ (fields : List UInt16) (rest : List UInt8), fields.length = count ∧
      octets = (fields.flatMap fun field => ofNat 2 field.toNat) ++ rest := by
  -- each number takes two octets from the front
  induction count generalizing octets with
  | zero => exact ⟨[], octets, rfl, rfl⟩
  | succ count ih =>
    match octets, h with
    | high :: low :: behind, h =>
      rw [List.length_cons, List.length_cons] at h
      obtain ⟨fields, rest, hcount, rfl⟩ := @ih behind (by omega)
      obtain ⟨field, hfield⟩ := exists_ofNat_two high low
      refine ⟨field :: fields, rest, congrArg (· + 1) hcount, ?_⟩
      rw [List.flatMap_cons, hfield]
      rfl

namespace Header

variable {header written : Header} {message : Message} {body : List UInt8}

/-! ## The octets of a header -/

theorem length_octets (header : Header) : header.octets.length = size := rfl

/-- A message that has room for a header is one in front of the rest. -/
theorem exists_octets (h : size ≤ message.size) :
    ∃ (header : Header) (body : List UInt8), message = (header.octets ++ body).toArray := by
  obtain ⟨fields, body, hcount, hoctets⟩ :=
    Octets.exists_fields 6 h
  match fields, hcount with
  | [id, flags, questions, answers, nameservers, additional], _ =>
    refine ⟨{ id, flags, questions, answers, nameservers, additional }, body, ?_⟩
    exact Array.ext' hoctets

theorem read_octets_append : read (header.octets ++ body).toArray 0 = .ok header size :=
  read_of_hasAt (Message.hasAt_between [] header.octets body)

theorem overwrite_octets_append :
    written.overwrite (header.octets ++ body).toArray = (written.octets ++ body).toArray := by
  apply Array.ext'
  rw [overwrite]
  simp [← length_octets header]

theorem size_octets_append : (header.octets ++ body).toArray.size = size + body.length := by
  simp [length_octets]

theorem getElem?_octets_append {position : Nat} (h : size ≤ position) :
    (header.octets ++ body).toArray[position]? = body[position - size]? := by
  rw [List.getElem?_toArray, List.getElem?_append_right h, length_octets]

/-! ## A change and what it does -/

/-- What is done to a header in place. -/
inductive Change where
  | overwrite (header : Header)
  | countQuestion
  deriving DecidableEq, Repr

namespace Change

/-- What a change gives when it is not refused, the new number of questions when one
is counted. -/
abbrev Value : Change → Type
  | overwrite _ => Unit
  | countQuestion => UInt16

/-- A change in the message that the header stands in. -/
def inMessage : (change : Change) → EStateM WireError Message change.Value
  | overwrite header => fun message => .ok () (header.overwrite message)
  | countQuestion => incrementQuestions

/-- Counts one more question in the fields of a header. A count that two octets can't
hold is refused, and the fields stay as they are. -/
def countInFields : EStateM WireError Header UInt16 := fun header =>
  let count := header.questions.toNat + 1
  if count < 65536 then .ok count.toUInt16 { header with questions := count.toUInt16 }
  else .error .tooManyEntries header

/-- A change of the fields of a header. -/
def inFields : (change : Change) → EStateM WireError Header change.Value
  | overwrite header => fun _ => .ok () header
  | countQuestion => countInFields

end Change

/-- What came of the fields of a header, for the message in which they are written in
front of a body. -/
def inFrontOf {α : Type} (body : List UInt8) :
    EStateM.Result WireError Header α → EStateM.Result WireError Message α
  | .ok value header => .ok value (header.octets ++ body).toArray
  | .error cause header => .error cause (header.octets ++ body).toArray

/-- The number of questions is counted in its octets as it is in the fields, with a
carry from the second octet to the first. -/
theorem incrementQuestions_eq_inFrontOf :
    incrementQuestions (header.octets ++ body).toArray =
      inFrontOf body (Change.countInFields header) := by
  -- the fields are counted in natural numbers, which do not wrap around
  by_cases hlt : header.questions.toNat + 1 < 65536
  · have hroom : header.questions ≠ 0xffff := by
      intro hfull
      rw [hfull] at hlt
      exact absurd hlt (by decide)
    have hsum : (header.questions.toNat + 1).toUInt16 = header.questions + 1 := by
      apply UInt16.toNat_inj.mp
      rw [UInt16.toNat_add]
      rfl
    simp only [incrementQuestions_octets hroom, Change.countInFields, if_pos hlt, hsum, inFrontOf]
  · have hfull : header.questions = 0xffff := by
      apply UInt16.toNat_inj.mp
      have := header.questions.toNat_lt
      change _ = 65535
      omega
    simp only [incrementQuestions_octets_of_full hfull, Change.countInFields, if_neg hlt, inFrontOf]

theorem inMessage_octets (change : Change) :
    change.inMessage (header.octets ++ body).toArray = inFrontOf body (change.inFields header) := by
  cases change with
  | overwrite written => exact congrArg (EStateM.Result.ok ()) overwrite_octets_append
  | countQuestion => exact incrementQuestions_eq_inFrontOf

/-! ## Changes one after the other -/

/-- A change, what it was made to and what came of it. -/
structure Step (σ : Type) where
  change : Change
  before : σ
  result : EStateM.Result WireError σ change.Value

variable {σ : Type}

/-- A change made to a state. -/
def step (run : (change : Change) → EStateM WireError σ change.Value) (state : σ)
    (change : Change) : Step σ where
  change
  before := state
  result := run change state

/-- What a change leaves, be it that it was made or that it was refused. -/
def after {α : Type} : EStateM.Result WireError σ α → σ
  | .ok _ state => state
  | .error _ state => state

/-- Changes one after the other. Each is made to what the one before left. -/
def steps (run : (change : Change) → EStateM WireError σ change.Value) (state : σ) :
    List Change → List (Step σ)
  | [] => []
  | change :: rest => step run state change :: steps run (after (run change state)) rest

/-- What a change in a message keeps to, when `first` is the message that the
changes began with. -/
structure Step.Sound (first : Message) (step : Step Message) : Prop where
  /-- What is refused leaves the message as it is. -/
  refused : ∀ cause message, step.result = .error cause message → message = step.before
  /-- To count a question changes the two octets of the count at most. -/
  elsewhere : step.change = .countQuestion → ∀ position, position ≠ 4 → position ≠ 5 →
    (after step.result)[position]? = step.before[position]?
  /-- Nothing behind the header changes, nor does the message grow or shrink. -/
  behind : ∀ position, size ≤ position → (after step.result)[position]? = first[position]?
  size_eq : (after step.result).size = first.size
  /-- To write back the header that was read restores the message. -/
  restored : ∀ header, read step.before 0 = .ok header size →
    header.overwrite step.before = step.before ∧
      header.overwrite (after step.result) = step.before

/-- A message and the fields of a header are the same, the message being `first` with
these fields. -/
structure SameAs (first message : Message) (header : Header) : Prop where
  read_eq : read message 0 = .ok header size
  overwrite_eq : header.overwrite first = message

theorem SameAs.octets (first header : Header) :
    SameAs (first.octets ++ body).toArray (header.octets ++ body).toArray header where
  read_eq := read_octets_append
  overwrite_eq := overwrite_octets_append

/-- A change in a message and one in the fields of a header gave the same value, or
were refused for the same cause, and left the same. -/
inductive Step.Agree (first : Message) : Step Message → Step Header → Prop where
  | made {change : Change} {before message : Message} {old header : Header}
      {value : change.Value} (hbefore : SameAs first before old)
      (hafter : SameAs first message header) :
      Agree first { change, before, result := .ok value message }
        { change, before := old, result := .ok value header }
  | refused {change : Change} {before message : Message} {old header : Header}
      {cause : WireError} (hbefore : SameAs first before old)
      (hafter : SameAs first message header) :
      Agree first { change, before, result := .error cause message }
        { change, before := old, result := .error cause header }

/-! ## What changes keep to -/

theorem after_inFrontOf {α : Type} (result : EStateM.Result WireError Header α) :
    after (inFrontOf body result) = ((after result).octets ++ body).toArray := by
  cases result <;> rfl

theorem eq_of_increment_refused {offset : Nat} {cause : WireError} {left : Message}
    (h : increment offset message = .error cause left) : left = message := by
  simp only [increment] at h
  split at h
  · cases h
    rfl
  · cases h

theorem getElem?_after_increment {offset position : Nat} (hhigh : position ≠ offset)
    (hlow : position ≠ offset + 1) :
    (after (increment offset message))[position]? = message[position]? := by
  simp only [increment]
  split
  · rfl
  · change (setFieldAt offset _ message)[position]? = _
    rw [setFieldAt, Array.getElem?_setIfInBounds_ne hlow.symm,
      Array.getElem?_setIfInBounds_ne hhigh.symm]

theorem sound_step (change : Change) (first header : Header) :
    (step Change.inMessage (header.octets ++ body).toArray change).Sound
      (first.octets ++ body).toArray where
  refused cause message h := by
    cases change with
    | overwrite written => cases h
    | countQuestion => exact eq_of_increment_refused h
  elsewhere := by
    rintro rfl position hhigh hlow
    exact getElem?_after_increment hhigh hlow
  behind position hposition := by
    rw [step, inMessage_octets, after_inFrontOf, getElem?_octets_append hposition,
      getElem?_octets_append hposition]
  size_eq := by rw [step, inMessage_octets, after_inFrontOf, size_octets_append, size_octets_append]
  restored found hread := by
    obtain rfl : header = found := by injection read_octets_append.symm.trans hread
    rw [step, inMessage_octets, after_inFrontOf]
    exact ⟨overwrite_octets_append, overwrite_octets_append⟩

theorem agree_step (change : Change) (first header : Header) :
    Step.Agree (first.octets ++ body).toArray
      (step Change.inMessage (header.octets ++ body).toArray change)
      (step Change.inFields header change) := by
  rw [step, step, inMessage_octets]
  cases change.inFields header with
  | ok value left => exact .made (.octets ..) (.octets ..)
  | error cause left => exact .refused (.octets ..) (.octets ..)

/-- The body is the same all along, so that each step begins with the octets of a
header in front of the body that the first message had. -/
theorem sound_of_mem_steps {changes : List Change} (first header : Header) :
    ∀ step ∈ steps Change.inMessage (header.octets ++ body).toArray changes,
      step.Sound (first.octets ++ body).toArray := by
  induction changes generalizing header with
  | nil => exact fun _ hmem => absurd hmem List.not_mem_nil
  | cons change rest ih =>
    refine List.forall_mem_cons.mpr ⟨sound_step change first header, ?_⟩
    rw [inMessage_octets, after_inFrontOf]
    exact ih _

theorem forall₂_agree_steps (changes : List Change) (first header : Header) :
    List.Forall₂ (Step.Agree (first.octets ++ body).toArray)
      (steps Change.inMessage (header.octets ++ body).toArray changes)
      (steps Change.inFields header changes) := by
  induction changes generalizing header with
  | nil => exact .nil
  | cons change rest ih =>
    refine .cons (agree_step change first header) ?_
    rw [inMessage_octets, after_inFrontOf]
    exact ih _

/-- Whatever is done to the header of a message, and however often it is refused, its
octets are the fields that the same changes make of the fields read from the message
at first, and all else in the message stays as it is. -/
theorem changes_track_fields (message : Message) (h : size ≤ message.size) :
    ∃ header, SameAs message message header ∧ ∀ changes,
      List.Forall₂ (Step.Agree message) (steps Change.inMessage message changes)
        (steps Change.inFields header changes) ∧
      ∀ step ∈ steps Change.inMessage message changes, step.Sound message := by
  obtain ⟨header, body, rfl⟩ := exists_octets h
  exact ⟨header, .octets .., fun changes =>
    ⟨forall₂_agree_steps changes header header, sound_of_mem_steps header header⟩⟩

/-- A header that counts 255 questions, and an octet behind it. -/
def countedMessage : Message :=
  #[0, 7, 132, 0, 0, 255, 0, 1, 0, 2, 0, 3, 9]

/-- A count with a carry, the greatest count written over it, and a count that is
refused. -/
def recount : List Change :=
  [.countQuestion, .overwrite { questions := 65535 }, .countQuestion]

theorem changes_track_fields_recount :
    ∃ header, SameAs countedMessage countedMessage header ∧
      (steps Change.inMessage countedMessage recount).map (fun step => after step.result) =
        [#[0, 7, 132, 0, 1, 0, 0, 1, 0, 2, 0, 3, 9],
          #[0, 0, 0, 0, 255, 255, 0, 0, 0, 0, 0, 0, 9],
          #[0, 0, 0, 0, 255, 255, 0, 0, 0, 0, 0, 0, 9]] ∧
      List.Forall₂ (Step.Agree countedMessage) (steps Change.inMessage countedMessage recount)
        (steps Change.inFields header recount) := by
  obtain ⟨header, hsame, hchanges⟩ := changes_track_fields countedMessage (by decide)
  exact ⟨header, hsame, by decide, (hchanges recount).1⟩

end Header

end ServiceDiscovery

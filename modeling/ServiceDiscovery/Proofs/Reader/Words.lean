import ServiceDiscovery.Proofs.Attributes.FirstEntries
import ServiceDiscovery.Proofs.Message.Reservations
import ServiceDiscovery.Proofs.Reader.Motion

/-!
# Positions as words

Positions and lengths are words, and a sum that is no word breaks reading off. In a
message of less than half as many octets as there are words, readers compute sums
inside the message or a few octets behind it, and all of these are words
(`Word.SufficeFor`). The end of record data is the exception: it is computed from a
length that may be any word, and reading is broken off just if the sum is no word
(`RecordData.read_overflow_iff`). Records announce the length of their data in two
octets, so whole messages are never broken off (`Response.decode_ne_overflow`).
-/

namespace ServiceDiscovery

variable {message : Message} {start : Nat}

/-- Half as many as there are words. -/
def Word.half : Nat := 0x8000000000000000

theorem Word.half_add_half : half + half = limit := by decide

/-- What is inside a message, or a few octets behind it, is a word. -/
theorem Word.lt_limit {n : Nat} (h : n < half + 1024) : n < limit :=
  Nat.lt_trans h (by decide)

/-! ## Texts and attributes -/

/-- Octets that are no text are at most three times as long as a text. -/
theorem Text.utf8ByteSize_ofOctets_le (octets : List UInt8) :
    (ofOctets octets).utf8ByteSize ≤ 3 * octets.length := by
  have hexact {octets : List UInt8} {text : String} (h : ofOctets? octets = some text) :
      text.utf8ByteSize = octets.length :=
    congrArg List.length (Octets.toList_of_fromUTF8? h)
  have hparts : (String.join ((sequences octets).map
      fun octets => (ofOctets? octets).getD "\uFFFD")).utf8ByteSize ≤ 3 * octets.length := by
    induction octets using sequences.induct with
    | case1 => simp [sequences]
    | case2 lead rest length ih =>
      have hpart (octets : List UInt8) (hne : octets ≠ []) :
          ((ofOctets? octets).getD "\uFFFD").utf8ByteSize ≤ 3 * octets.length := by
        have hpositive := List.length_pos_iff.mpr hne
        cases htext : ofOctets? octets with
        | none =>
          change 3 ≤ _
          omega
        | some text =>
          rw [Option.getD_some, hexact htext]
          omega
      have hsequences : sequences (lead :: rest) =
          (lead :: rest.take length) :: sequences (rest.drop length) := by rw [sequences]
      rw [hsequences, List.map_cons, String.join_cons, String.utf8ByteSize_append]
      have hfirst := hpart (lead :: rest.take length) (List.cons_ne_nil _ _)
      simp only [List.length_cons, List.length_take, List.length_drop] at hfirst ih ⊢
      omega
  rw [ofOctets]
  split
  · rename_i text htext
    rw [hexact htext]
    omega
  · exact hparts

theorem Attributes.utf8ByteSize_key_le (text : String) :
    (entryOfText text).1.utf8ByteSize ≤ text.utf8ByteSize := by
  have hkey := Name.utf8ByteSize_le_of_sublist
    (text.toList.takeWhile_sublist fun c => decide (c ≠ '='))
  rwa [String.ofList_toList] at hkey

theorem Attributes.decode_ne_overflow (octets : List UInt8) :
    decode octets ≠ .error .overflow := by
  rw [decode]
  split <;> simp

/-! ## Names -/

namespace Name

theorem Cursor.step_ne_overflow (cursor : Cursor) : cursor.step message ≠ .error .overflow := by
  unfold step
  split
  · simp
  · split
    · split
      · simp
      · simp only
        split <;> simp
    · split
      · simp only
        split
        · simp
        · split
          · simp
          · split <;> simp
      · simp

theorem Cursor.walk_ne_overflow (cursor : Cursor) : cursor.walk message ≠ .error .overflow := by
  induction cursor using walk.induct message with
  | case1 cursor cause hstep =>
    rw [walk_of_error hstep]
    intro h
    cases h
    exact cursor.step_ne_overflow hstep
  | case2 cursor labels stop hstep => simp [walk_of_done hstep]
  | case3 cursor after hstep ih => rwa [walk_of_next hstep]

theorem decode_ne_overflow : decode message start ≠ .error .overflow := by
  rw [decode]
  intro h
  exact Cursor.walk_ne_overflow _ (Except.map_eq_error_iff.mp h)

/-- A name that was read ends behind its beginning and inside the message. -/
theorem inside_of_walk {labels : List String} {stop : Nat}
    (h : (Cursor.atStart start).walk message = .ok (labels, stop)) :
    start < stop ∧ stop ≤ message.size := by
  have hdecode : decode message start =
      .ok { labels := labels.reverse, consumed := stop - start } := by
    rw [decode, h, Except.map]
  obtain ⟨hforward, hinside⟩ := (decode_eq_ok_iff.mp hdecode).lt_stop_and_le_size
  omega

end Name

/-! ## Readers that are not broken off -/

namespace Reader

variable {α β : Type} {reader : Reader α} {next : α → Reader β}

/-- From a position of a message of less than half as many octets as there are words,
the reader computes nothing but words. -/
def InWords (reader : Reader α) : Prop :=
  ∀ ⦃message : Message⦄ ⦃start stop : Nat⦄, message.size < Word.half → start ≤ message.size →
    reader message start ≠ .error .overflow stop

namespace InWords

theorem pure (value : α) : InWords (Pure.pure value) := fun _ _ _ _ _ => nofun

theorem throw {cause : WireError} (h : cause ≠ .overflow) :
    InWords (throw cause : Reader α) := by
  intro message start stop _ _ hread
  cases hread
  exact h rfl

theorem ofExcept {result : Except WireError α} (h : result ≠ .error .overflow) :
    InWords (Reader.ofExcept result) := by
  intro message start stop _ _ hread
  cases result with
  | ok value => cases hread
  | error cause =>
    cases hread
    exact h rfl

theorem bind (h : InWords reader) (hforward : Forward reader)
    (hnext : ∀ value, InWords (next value)) : InWords (reader >>= next) := by
  intro message start stop hsize hstart hread
  obtain hfirst | ⟨value, middle, hfirst, hrest⟩ := bind_eq_error_iff.mp hread
  · exact h hsize hstart hfirst
  · have hmiddle := (hforward hstart).2
    rw [hfirst] at hmiddle
    exact hnext value hsize hmiddle hrest

theorem remaining : InWords Reader.remaining := fun _ _ _ _ _ => nofun

theorem octets (count : Nat) : InWords (Reader.octets count) := by
  intro message start stop _ _ hread
  rw [Reader.octets] at hread
  split at hread <;> cases hread

/-- What becomes of a value when it was read is computed without sums. -/
theorem map (h : InWords reader) (f : α → β) :
    InWords (reader >>= fun value => Pure.pure (f value)) := by
  intro message start stop hsize hstart hread
  obtain hfirst | ⟨value, middle, -, hpure⟩ := bind_eq_error_iff.mp hread
  · exact h hsize hstart hfirst
  · cases hpure

theorem u16 : InWords Reader.u16 := ((octets 2).map _).map _

theorem u32 : InWords Reader.u32 := ((octets 4).map _).map _

theorem name : InWords Reader.name := by
  intro message start stop _ _ hread
  rw [Reader.name] at hread
  split at hread
  · rename_i cause hdecode
    cases hread
    exact Name.decode_ne_overflow hdecode
  · cases hread

theorem replicate (h : InWords reader) (hforward : Forward reader) (count : Nat) :
    InWords (reader.replicate count) := by
  induction count with
  | zero => exact .pure []
  | succ count ih => exact h.bind hforward fun _ => ih.map _

end InWords

end Reader

open Reader (InWords Forward)

/-! ## The end of record data -/

namespace RecordData

variable {type : RecordType} {length : Nat}

theorem inWords_readPayload (type : RecordType) (length : Nat) :
    InWords (readPayload type length) := by
  cases type with
  | a | aaaa =>
    rw [readPayload]
    split
    · exact .map (.octets _) _
    · exact .throw (by decide)
  | ptr =>
    rw [readPayload]
    split
    · exact .pure _
    · exact .map .name _
  | srv =>
    rw [readPayload]
    split
    · exact .throw (by decide)
    · exact .bind .u16 .u16 fun _ => .bind .u16 .u16 fun _ => .bind .u16 .u16 fun _ =>
        .map .name _
  | txt =>
    exact .bind (.octets _) (.octets _) fun values =>
      .map (.ofExcept (Attributes.decode_ne_overflow values.toList)) _

/-- Reading data is broken off just if their end is no word, even when the message is
far too short for them. -/
theorem read_overflow_iff (hsize : message.size < Word.half) (hstart : start ≤ message.size) :
    (∃ stop, read type length message start = .error .overflow stop) ↔
      Word.limit ≤ start + length := by
  by_cases hroom : length ≤ message.size - start
  · have hword : ¬Word.limit ≤ start + length := Nat.not_le_of_lt (Word.lt_limit (by omega))
    simp only [hword, iff_false, not_exists]
    intro stop hread
    rw [read_of_room hstart hroom] at hread
    split at hread
    · cases hread
    · rename_i cause middle hpayload
      cases hread
      exact inWords_readPayload type length hsize hstart hpayload
  · rw [read_of_no_room (Nat.lt_of_not_le hroom)]
    split
    · rename_i hword
      exact ⟨fun _ => hword, fun _ => ⟨start, rfl⟩⟩
    · rename_i hword
      simp [hword]

theorem inWords_read (type : RecordType) (h : length < Word.half) : InWords (read type length) := by
  intro message start stop hsize hstart hread
  have hword := (read_overflow_iff hsize hstart).mp ⟨stop, hread⟩
  have hhalves := Word.half_add_half
  omega

end RecordData

/-! ## Whole messages -/

theorem RecordType.ofCode_ne_overflow (code : UInt16) : ofCode code ≠ .error .overflow := by
  unfold ofCode
  split <;> simp

theorem RecordClass.ofCode_ne_overflow (code : UInt16) : ofCode code ≠ .error .overflow := by
  unfold ofCode
  split <;> simp

theorem QueryType.ofCode_ne_overflow (code : UInt16) : ofCode code ≠ .error .overflow := by
  unfold ofCode
  split <;> simp

theorem QueryClass.ofCode_ne_overflow (code : UInt16) : ofCode code ≠ .error .overflow := by
  unfold ofCode
  split <;> simp

theorem Header.inWords_read : InWords read := by
  refine .bind .remaining .remaining fun room => ?_
  split
  · exact .throw (by decide)
  · exact .bind .u16 .u16 fun _ => .bind .u16 .u16 fun _ => .bind .u16 .u16 fun _ =>
      .bind .u16 .u16 fun _ => .bind .u16 .u16 fun _ => .map .u16 _

theorem Question.inWords_read : InWords read :=
  .bind .name .name fun _ => .bind .u16 .u16 fun _ =>
    .bind (.ofExcept (QueryType.ofCode_ne_overflow _)) (.ofExcept _) fun _ =>
      .bind .u16 .u16 fun _ => .map (.ofExcept (QueryClass.ofCode_ne_overflow _)) _

/-- A record announces no more octets of data than two octets can count. -/
theorem Record.inWords_read : InWords read :=
  .bind .name .name fun _ => .bind .u16 .u16 fun _ =>
    .bind (.ofExcept (RecordType.ofCode_ne_overflow _)) (.ofExcept _) fun type =>
      .bind .u16 .u16 fun _ =>
        .bind (.ofExcept (RecordClass.ofCode_ne_overflow _)) (.ofExcept _) fun _ =>
          .bind .u32 .u32 fun _ => .bind .u16 .u16 fun length =>
            .map (RecordData.inWords_read type
              (Nat.lt_of_lt_of_le length.toNat_lt (by decide))) _

theorem Response.inWords_read : InWords read := by
  rw [read_eq]
  refine .bind Header.inWords_read Header.forward_read fun header => ?_
  split
  · exact .throw (by decide)
  · split
    · exact .throw (by decide)
    · exact .bind (Question.inWords_read.replicate Question.forward_read _)
        (Question.forward_read.replicate _) fun _ =>
          .map (Record.inWords_read.replicate Record.forward_read _) _

/-- Whatever a message announces, decoding it is not broken off. -/
theorem Response.decode_ne_overflow (h : message.size < Word.half) :
    decode message ≠ .error .overflow := by
  rw [decode, Reader.value]
  intro hdecode
  split at hdecode
  · cases hdecode
  · rename_i cause stop hread
    cases hdecode
    exact inWords_read h (Nat.zero_le _) hread

/-! ## Sums and differences -/

/-- What readers compute on a message are words, but for the end of record data. What
is out of range is refused. -/
structure Word.SufficeFor (message : Message) : Prop where
  /-- Behind the first octet of a reference or of a label, and behind all of it. -/
  element : ∀ (cursor : Name.Cursor) octet, message[cursor.position]? = some octet →
    cursor.position + 2 < limit ∧ cursor.position + 1 + octet.toNat < limit
  /-- How many octets a name takes, and the position behind them. -/
  consumed : ∀ start labels stop, (Name.Cursor.atStart start).walk message = .ok (labels, stop) →
    start ≤ stop ∧ start + (stop - start) < limit
  remaining : ∀ start ≤ message.size, ∃ room,
    Reader.remaining message start = .ok room start ∧ start + room = message.size
  /-- Behind the length octet of a string of attributes, and behind the string. -/
  string : ∀ octets : List UInt8, octets.length ≤ message.size →
    ∀ front length rest, octets = front ++ length :: rest →
      front.length + 1 + length.toNat < limit
  /-- Behind the first equals sign in the text of a string. -/
  value : ∀ string : List UInt8, string.length ≤ Attributes.maxStringLength →
    (Attributes.entryOfText (Text.ofOctets string)).1.utf8ByteSize + 1 < limit
  decode_beyond : ∀ start, message.size ≤ start →
    Name.decode message start = .error .malformedName
  octets_beyond : ∀ start count, message.size < start + count →
    Reader.octets count message start = .error .unexpectedEnd start
  seek_beyond : ∀ start target, message.size < target →
    Reader.seek target message start = .error .unexpectedEnd start
  /-- The end of record data need not be a word, and nothing is refused before. -/
  data : ∀ start ≤ message.size, ∀ type length,
    (∃ stop, RecordData.read type length message start = .error .overflow stop) ↔
      limit ≤ start + length
  data_beyond : ∀ start ≤ message.size, ∀ type length, message.size < start + length →
    start + length < limit →
      RecordData.read type length message start = .error .unexpectedEnd start
  response : Response.decode message ≠ .error .overflow

/-- In a message of less than half as many octets as there are words, the only sum
that may be no word is the one for the end of record data. -/
theorem Word.sufficeFor_of_size_lt_half (h : message.size < half) : SufficeFor message where
  element cursor octet hoctet := by
    have hinside := (Array.getElem?_eq_some_iff.mp hoctet).1
    have hcount := octet.toNat_lt
    exact ⟨lt_limit (by omega), lt_limit (by omega)⟩
  consumed start labels stop hwalk := by
    obtain ⟨hforward, hinside⟩ := Name.inside_of_walk hwalk
    exact ⟨Nat.le_of_lt hforward, lt_limit (by omega)⟩
  remaining start hstart := ⟨_, rfl, Nat.add_sub_cancel' hstart⟩
  string octets hoctets front length rest hparts := by
    have hcount := length.toNat_lt
    have hlength := congrArg List.length hparts
    rw [List.length_append, List.length_cons] at hlength
    exact lt_limit (by omega)
  value string hstring := by
    have htext := Text.utf8ByteSize_ofOctets_le string
    have hkey := Attributes.utf8ByteSize_key_le (Text.ofOctets string)
    rw [Attributes.maxStringLength] at hstring
    exact lt_limit (by omega)
  decode_beyond start hstart := by
    have hstep : (Name.Cursor.atStart start).step message = .error .malformedName := by
      rw [Name.Cursor.step, Name.Cursor.atStart, Array.getElem?_eq_none hstart]
    rw [Name.decode, Name.walk_of_error hstep, Except.map]
  octets_beyond _ _ := Reader.octets_of_no_room
  seek_beyond _ _ htarget := if_pos htarget
  data _ hstart _ _ := RecordData.read_overflow_iff h hstart
  data_beyond start hstart type length hbeyond hword := by
    rw [RecordData.read_of_no_room (by omega), if_neg (Nat.not_le_of_lt hword)]
  response := Response.decode_ne_overflow h

/-- In a message of one octet the data of a record may end with it, or behind the
message, or at no word. -/
theorem Word.sufficeFor_root : (#[0] : Message).size < half ∧
    RecordData.read .txt (limit - 1) #[0] 0 = .error .unexpectedEnd 0 ∧
    ∃ stop, RecordData.read .txt (limit - 1) #[0] 1 = .error .overflow stop := by
  have hsize : (#[0] : Message).size < half := by decide
  have hsuffice := sufficeFor_of_size_lt_half hsize
  exact ⟨hsize, hsuffice.data_beyond 0 (by decide) .txt (limit - 1) (by decide) (by decide),
    (hsuffice.data 1 (by decide) .txt (limit - 1)).mpr (by decide)⟩

/-- The end of record data may be no word although the position and the length are
words, and the message is far too short for the data. -/
theorem RecordData.read_beyond_words :
    (#[0] : Message).size < Word.half ∧ 1 ≤ (#[0] : Message).size ∧
      Word.limit - 1 < Word.limit ∧
      read .a (Word.limit - 1) #[0] 1 = .error .overflow 1 := by
  refine ⟨by decide, by decide, by decide, ?_⟩
  rw [read_of_no_room (by decide)]
  exact congrArg (EStateM.Result.error · 1) (if_pos (by decide))

end ServiceDiscovery

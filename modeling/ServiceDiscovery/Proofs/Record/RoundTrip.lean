import ServiceDiscovery.Proofs.Attributes.FirstEntries
import ServiceDiscovery.Proofs.Message.Origin
import ServiceDiscovery.Proofs.Message.RoundTrip
import ServiceDiscovery.Proofs.Name.RoundTrip
import ServiceDiscovery.Proofs.Reader.Motion

/-!
# Record data written and read back

Data are refused for the first name piece or attribute that is too long and for
nothing else (`RecordData.octets_eq_error_iff`). What is written of them can stand
anywhere in a message: data in normal form are read there as what they were, and the
reader goes on right behind them (`RecordData.read_octets`), whereas other data come
back changed (`RecordData.read_eq_ok_iff_canonical`). Attributes that were read are in
normal form, because no key that is read has an equals sign, so they are read back from
what is written of them (`RecordData.octets_of_read_txt`). Not all of them can be
written (`Attributes.octets_of_longest_flag`).
-/

namespace ServiceDiscovery

namespace Attributes

variable {entries : List (String × String)} {attributes : Attributes} {cause : WireError}

/-! ## Refusals -/

/-- The length of the string that an entry is written as. -/
def entryLength (entry : String × String) : Nat :=
  entry.1.utf8ByteSize + 1 + entry.2.utf8ByteSize

theorem utf8ByteSize_entryText (entry : String × String) :
    (entryText entry).utf8ByteSize = entryLength entry := by
  rw [entryText, String.utf8ByteSize_append, String.utf8ByteSize_append]
  rfl

theorem entryOctets_eq_error_iff :
    entryOctets entries = .error cause ↔
      ∃ length, FirstAbove maxStringLength (entries.map entryLength) length ∧
        cause = .labelTooLong length := by
  induction entries with
  | nil => simp [entryOctets, ← FirstAbove.find?_eq_some_iff]
  | cons entry rest ih =>
    rw [entryOctets, List.map_cons, utf8ByteSize_entryText]
    by_cases hlong : maxStringLength < entryLength entry
    · simp only [if_pos hlong, FirstAbove.cons_iff_of_lt hlong, Except.error.injEq,
        exists_eq_left, eq_comm]
    · simp only [if_neg hlong, FirstAbove.cons_iff_of_le (Nat.le_of_not_lt hlong), ← ih,
        Except.map_eq_error_iff]

/-- Attributes are refused for the first of their entries that is too long, and for
nothing else. -/
theorem octets_eq_error_iff :
    attributes.octets = .error cause ↔
      ∃ length, FirstAbove maxStringLength (attributes.toList.map entryLength) length ∧
        cause = .labelTooLong length := by
  rw [← entryOctets_eq_error_iff, octets]
  by_cases hempty : attributes.toList = []
  · simp [hempty, entryOctets]
  · rw [if_neg hempty]

/-- The longest string without an equals sign can be read but not be written, because it
is written with one. -/
theorem octets_of_longest_flag {text : String} (hlength : text.utf8ByteSize = maxStringLength)
    (hflag : '=' ∉ text.toList) :
    ∃ attributes, decode (stringOctets text.toUTF8.data.toList) = .ok attributes ∧
      attributes.octets = .error (.labelTooLong (maxStringLength + 1)) := by
  have hne : text ≠ "" := by
    rintro rfl
    cases hlength
  refine ⟨_, decode_flag hne (Nat.le_of_eq hlength) hflag, octets_eq_error_iff.mpr ⟨_, ?_, rfl⟩⟩
  have hentry : entryLength (text, "") = maxStringLength + 1 := congrArg (· + 1) hlength
  refine ⟨[], [], congrArg (fun length => [length]) hentry, ?_, Nat.lt_succ_self _⟩
  exact fun _ hmem => absurd hmem List.not_mem_nil

end Attributes

namespace RecordData

variable {data : RecordData} {octets : List UInt8} {cause : WireError} {message : Message}
  {start stop length : Nat}

/-! ## Data that are written -/

/-- Data cannot be written: `length` is that of the first piece of the name they point
to, or of the first attribute, that is too long. -/
def TooLong : RecordData → (length : Nat) → Prop
  | .a _, _ | .aaaa _, _ => False
  | .ptr target, length | .srv _ _ _ target, length =>
    FirstAbove Name.maxLabelLength (target.pieces.map String.utf8ByteSize) length
  | .txt attributes, length =>
    FirstAbove Attributes.maxStringLength (attributes.toList.map Attributes.entryLength) length

theorem octets_eq_error_iff :
    data.octets = .error cause ↔ ∃ length, data.TooLong length ∧ cause = .labelTooLong length := by
  cases data with
  | a address | aaaa address => simp [RecordData.octets, TooLong]
  | ptr target => exact Name.write_eq_error_iff
  | srv priority weight port target =>
    rw [RecordData.octets, Except.map_eq_error_iff]
    exact Name.write_eq_error_iff
  | txt attributes => exact Attributes.octets_eq_error_iff

/-- Data in normal form are read back from between any other octets, and the reader
goes on right behind them. -/
theorem read_between (hdata : data.Canonical) (hoctets : data.octets = .ok octets)
    (front back : List UInt8) :
    read data.type octets.length (front ++ octets ++ back).toArray front.length =
      .ok data (front.length + octets.length) := by
  have hlaid : data.LaidOut (front ++ octets ++ back).toArray front.length
      (front.length + octets.length) :=
    .of_octets hdata hoctets (Message.hasAt_between front octets back)
  have hread := hlaid.read_eq
  rwa [Nat.add_sub_cancel_left] at hread

/-- Data are refused for the first part that is too long. Otherwise they are written as
octets from which data in normal form are read back, whatever stands around them. -/
theorem read_octets (data : RecordData) :
    (∀ cause, data.octets = .error cause ↔
      ∃ length, data.TooLong length ∧ cause = .labelTooLong length) ∧
    ∀ octets, data.octets = .ok octets → data.Canonical → ∀ front back : List UInt8,
      read data.type octets.length (front ++ octets ++ back).toArray front.length =
        .ok data (front.length + octets.length) := by
  constructor
  · intro cause
    exact octets_eq_error_iff
  · intro octets hoctets hdata
    exact read_between hdata hoctets

/-- A key without text and a value with an equals sign are read back, and a name is
refused for a piece of 64 octets. -/
theorem read_octets_entries :
    read .txt 8 #[0xc0, 4, 61, 97, 61, 98, 2, 107, 61, 0xff] 1 =
      .ok (.txt (.ofList [("k", ""), ("", "a=b")])) 9 ∧
    RecordData.octets (.ptr ("x." ++ String.ofList (List.replicate 64 'a'))) =
      .error (.labelTooLong 64) := by
  constructor
  · exact (read_octets (.txt (.ofList [("k", ""), ("", "a=b")]))).2
      [4, 61, 97, 61, 98, 2, 107, 61] rfl (by unfold Canonical; decide) [0xc0] [0xff]
  · refine ((read_octets _).1 _).mpr ⟨64, ?_, rfl⟩
    exact ⟨[1], [], by decide +kernel, by decide, by decide⟩

/-! ## Attributes that are read -/

/-- Attributes are read just if the message has room for their octets and these are
decoded to them. -/
theorem read_txt_eq_ok_iff :
    read .txt length message start = .ok data stop ↔
      start + length ≤ message.size ∧ stop = start + length ∧ ∃ attributes,
        data = .txt attributes ∧
          Attributes.decode (message.extract start (start + length)).toList = .ok attributes := by
  by_cases hroom : start + length ≤ message.size
  · have hoctets : Reader.octets length message start =
        .ok ⟨message.extract start (start + length), by simp; omega⟩ (start + length) := by
      rw [Reader.octets, dif_pos hroom]
    rw [read_of_room (by omega) (by omega), readPayload, Reader.bind_apply, hoctets]
    simp only [Reader.bind_apply, Vector.toList_mk, hroom, true_and]
    cases Attributes.decode (message.extract start (start + length)).toList with
    | ok attributes => simp [Reader.ofExcept_ok, Reader.pure_apply, eq_comm, and_comm]
    | error cause => simp [Reader.ofExcept]
  · simp only [hroom, false_and, iff_false]
    intro h
    obtain ⟨middle, hpayload⟩ := readPayload_of_read h
    rw [readPayload, Reader.bind_apply, Reader.octets_of_no_room (by omega)] at hpayload
    cases hpayload

theorem exists_tooLong_txt_iff {attributes : Attributes} :
    (∃ length, TooLong (.txt attributes) length) ↔
      ∃ entry ∈ attributes.toList, Attributes.maxStringLength < Attributes.entryLength entry := by
  refine FirstAbove.exists_iff.trans ?_
  constructor
  · rintro ⟨_, hmem, hlong⟩
    obtain ⟨entry, hentry, rfl⟩ := List.mem_map.mp hmem
    exact ⟨entry, hentry, hlong⟩
  · rintro ⟨entry, hentry, hlong⟩
    exact ⟨_, List.mem_map_of_mem hentry, hlong⟩

/-- Attributes that were read have no key with an equals sign. They are refused just if
one of their entries is too long, and otherwise they are read back from what is written
of them. -/
theorem octets_of_read_txt (h : read .txt length message start = .ok data stop) :
    ∃ attributes, data = .txt attributes ∧
      (∀ entry ∈ attributes.toList, '=' ∉ entry.1.toList) ∧
      ((∃ entry ∈ attributes.toList, Attributes.maxStringLength < Attributes.entryLength entry) →
        ∃ long, data.TooLong long ∧ data.octets = .error (.labelTooLong long)) ∧
      ((∀ entry ∈ attributes.toList, Attributes.entryLength entry ≤ Attributes.maxStringLength) →
        ∃ octets, data.octets = .ok octets ∧ ∀ front back : List UInt8,
          read .txt octets.length (front ++ octets ++ back).toArray front.length =
            .ok data (front.length + octets.length)) := by
  obtain ⟨-, -, attributes, rfl, hdecode⟩ := read_txt_eq_ok_iff.mp h
  have hkeys : ∀ entry ∈ attributes.toList, '=' ∉ entry.1.toList :=
    fun entry hmem => Attributes.key_of_decode hdecode hmem
  refine ⟨attributes, rfl, hkeys, ?_, ?_⟩
  · intro hsome
    obtain ⟨long, hlong⟩ := exists_tooLong_txt_iff.mpr hsome
    exact ⟨long, hlong, octets_eq_error_iff.mpr ⟨long, hlong, rfl⟩⟩
  · intro hshort
    cases hoctets : (RecordData.txt attributes).octets with
    | ok octets => exact ⟨octets, rfl, @read_between (.txt attributes) octets hkeys hoctets⟩
    | error cause =>
      obtain ⟨long, hlong, -⟩ := octets_eq_error_iff.mp hoctets
      obtain ⟨entry, hmem, habove⟩ := exists_tooLong_txt_iff.mp ⟨long, hlong⟩
      exact absurd (hshort entry hmem) (Nat.not_le_of_lt habove)

/-- A string without an equals sign is read back from the longer one that is written. -/
theorem octets_of_read_txt_flag :
    read .txt 2 #[1, 97] 0 = .ok (.txt (.ofList [("a", "")])) 2 ∧
      read .txt 3 #[2, 97, 61] 0 = .ok (.txt (.ofList [("a", "")])) 3 := by
  have hdecode : Attributes.decode [1, 97] = .ok (.ofList [("a", "")]) :=
    @Attributes.decode_flag "a" (by decide) (by decide) (by decide)
  have hread : read .txt 2 #[1, 97] 0 = .ok (.txt (.ofList [("a", "")])) 2 :=
    read_txt_eq_ok_iff.mpr ⟨by decide, rfl, _, rfl, hdecode⟩
  refine ⟨hread, ?_⟩
  obtain ⟨attributes, hdata, -, -, hback⟩ := octets_of_read_txt hread
  cases hdata
  obtain ⟨octets, hoctets, hbetween⟩ := hback (by decide)
  obtain rfl : [2, 97, 61] = octets := Except.ok.inj hoctets
  exact hbetween [] []

/-! ## Data that come back -/

/-- Of what can be written, only data in normal form come back as they were. -/
theorem read_eq_ok_iff_canonical (hoctets : data.octets = .ok octets) (front back : List UInt8) :
    read data.type octets.length (front ++ octets ++ back).toArray front.length =
      .ok data (front.length + octets.length) ↔ data.Canonical := by
  refine ⟨fun h => ?_, fun hdata => read_between hdata hoctets front back⟩
  cases data with
  | a address | aaaa address => trivial
  | ptr target =>
    -- the normal form is written alike, and it comes back
    have hnormal : (RecordData.ptr target.normalize).octets = .ok octets :=
      (Name.write_normalize target).trans hoctets
    have hread := @read_between (.ptr target.normalize) octets (Name.normalize_normalize target)
      hnormal front back
    rw [type] at h hread
    rw [h, EStateM.Result.ok.injEq] at hread
    exact (RecordData.ptr.inj hread.1).symm
  | srv priority weight port target =>
    have hnormal : (RecordData.srv priority weight port target.normalize).octets = .ok octets := by
      rw [RecordData.octets, Name.write_normalize]
      exact hoctets
    have hread := @read_between (.srv priority weight port target.normalize) octets
      (Name.normalize_normalize target) hnormal front back
    rw [type] at h hread
    rw [h, EStateM.Result.ok.injEq] at hread
    exact (RecordData.srv.inj hread.1).2.2.2.symm
  | txt attributes =>
    obtain ⟨-, -, found, heq, hdecode⟩ := read_txt_eq_ok_iff.mp h
    cases heq
    exact fun entry hmem => Attributes.key_of_decode hdecode hmem

end RecordData

end ServiceDiscovery

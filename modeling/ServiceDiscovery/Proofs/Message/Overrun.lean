import ServiceDiscovery.Proofs.Message.Extent
import ServiceDiscovery.Proofs.Message.Origin
import ServiceDiscovery.Proofs.Reader.Motion

/-!
# Names that run past their data

PTR and SRV data hold a name behind `RecordData.targetOffset` octets, and a record
announces how long they are. Reading the name takes no account of the length: data
are accepted just if their first octet of a name is announced, the message has room
for what is announced, and a name is laid out there, wherever it ends
(`RecordData.read_eq_ok_iff`). So the name stays inside its data unless it is laid
out beyond them (`RecordData.target_inside_iff`).
-/

namespace ServiceDiscovery

namespace RecordData

variable {message : Message} {start length stop last : Nat} {type : RecordType}
  {data : RecordData}

/-- The number of octets in front of the name in data that hold one. -/
def targetOffset : RecordType → Nat
  | .srv => 6
  | _ => 0

/-! ## Acceptance -/

theorem readPayload_ptr_eq_ok_iff (hlength : length ≠ 0) :
    readPayload .ptr length message start = .ok data last ↔
      data.type = .ptr ∧ data.LaidOut message start last := by
  refine ⟨laidOut_of_readPayload_ptr hlength, ?_⟩
  rintro ⟨htype, hlaid⟩
  rw [readPayload, if_neg hlength, Reader.bind_eq_ok_iff]
  cases hlaid with
  | ptr htarget => exact ⟨_, _, htarget.read_eq, rfl⟩
  | a | aaaa | srv | txt => cases htype

theorem readPayload_srv_eq_ok_iff (hlength : ¬length < 7) :
    readPayload .srv length message start = .ok data last ↔
      data.type = .srv ∧ data.LaidOut message start last := by
  refine ⟨laidOut_of_readPayload_srv, ?_⟩
  rintro ⟨htype, hlaid⟩
  rw [readPayload, if_neg hlength]
  cases hlaid with
  | srv hfixed htarget =>
    simp only [Message.hasAt_append, List.length_append, Octets.length_ofNat] at hfixed
    obtain ⟨⟨hpriority, hweight⟩, hport⟩ := hfixed
    have hread : Reader.name message (start + 2 + 2 + 2) = _ := htarget.read_eq
    simp only [Reader.bind_apply, Reader.u16_of_hasAt hpriority, Reader.u16_of_hasAt hweight,
      Reader.u16_of_hasAt (Nat.add_assoc start 2 2 ▸ hport), hread, Reader.pure_apply]
  | a | aaaa | ptr | txt => cases htype

/-- The payload of a type that holds a name is read just if its first octet of the
name is announced and the payload is laid out. Where it ends is not limited. -/
theorem readPayload_eq_ok_iff (htype : type = .ptr ∨ type = .srv) (hlength : length ≠ 0) :
    readPayload type length message start = .ok data last ↔
      data.type = type ∧ targetOffset type < length ∧ data.LaidOut message start last := by
  rcases htype with rfl | rfl
  · rw [readPayload_ptr_eq_ok_iff hlength]
    have hannounced : targetOffset .ptr < length := Nat.pos_of_ne_zero hlength
    simp [hannounced]
  · by_cases hshort : length < 7
    · have hannounced : ¬targetOffset .srv < length := Nat.not_lt_of_le (Nat.le_of_lt_succ hshort)
      rw [readPayload, if_pos hshort]
      simp only [hannounced, false_and, and_false, iff_false]
      intro h
      cases h
    · have hannounced : targetOffset .srv < length := Nat.lt_of_succ_le (Nat.le_of_not_lt hshort)
      rw [readPayload_srv_eq_ok_iff hshort]
      simp [hannounced]

/-- Data of a type that holds a name are accepted if the message has room for what
is announced, whatever room the name itself takes. -/
theorem read_eq_ok_iff (htype : type = .ptr ∨ type = .srv) (hlength : length ≠ 0) :
    read type length message start = .ok data stop ↔
      data.type = type ∧ targetOffset type < length ∧ start + length ≤ message.size ∧
        stop = start + length ∧ ∃ last, data.LaidOut message start last := by
  by_cases hroom : start + length ≤ message.size
  · rw [read_of_room (by omega) (by omega)]
    constructor
    · intro h
      cases hpayload : readPayload type length message start with
      | ok payload last =>
        rw [hpayload] at h
        cases h
        obtain ⟨hdata, hannounced, hlaid⟩ := (readPayload_eq_ok_iff htype hlength).mp hpayload
        exact ⟨hdata, hannounced, hroom, rfl, last, hlaid⟩
      | error cause middle =>
        rw [hpayload] at h
        cases h
    · rintro ⟨hdata, hannounced, -, rfl, last, hlaid⟩
      rw [(readPayload_eq_ok_iff htype hlength).mpr ⟨hdata, hannounced, hlaid⟩]
  · rw [read_of_no_room (by omega)]
    simp [hroom]

/-! ## Names beyond their data -/

/-- The message has room for `length` octets of data, and the name that is laid out
in them ends behind them. -/
def Overruns (message : Message) (start length : Nat) (type : RecordType) : Prop :=
  targetOffset type < length ∧ start + length ≤ message.size ∧
    ∃ labels last, Name.LaidOut message (start + targetOffset type) (start + targetOffset type)
      labels last ∧ start + length < last

/-- Data that are laid out hold a name behind their other octets, and end with it. -/
theorem LaidOut.exists_name (htype : type = .ptr ∨ type = .srv) (hdata : data.type = type)
    (h : data.LaidOut message start last) :
    ∃ labels, Name.LaidOut message (start + targetOffset type) (start + targetOffset type)
      labels last := by
  subst hdata
  cases h with
  | ptr htarget | srv _ htarget =>
    obtain ⟨labels, -, hlaid⟩ := htarget
    exact ⟨labels, hlaid⟩
  | a | aaaa | txt => simp [RecordData.type] at htype

/-- Where a name is laid out behind the octets that precede it, there are data that
hold it. -/
theorem exists_laidOut (htype : type = .ptr ∨ type = .srv) {labels : List String}
    (h : Name.LaidOut message (start + targetOffset type) (start + targetOffset type)
      labels last) : ∃ data : RecordData, data.type = type ∧ data.LaidOut message start last := by
  rcases htype with rfl | rfl
  · exact ⟨.ptr (Name.ofLabels labels), rfl, .ptr ⟨labels, rfl, h⟩⟩
  · have hsize := h.lt_stop_and_le_size
    rw [targetOffset] at hsize
    obtain ⟨priority, hpriority⟩ := @Reader.u16_of_room message start (by omega)
    obtain ⟨weight, hweight⟩ := @Reader.u16_of_room message (start + 2) (by omega)
    obtain ⟨port, hport⟩ := @Reader.u16_of_room message (start + 2 + 2) (by omega)
    refine ⟨.srv priority weight port (Name.ofLabels labels), rfl, .srv ?_ ⟨labels, rfl, h⟩⟩
    simp only [Message.hasAt_append, List.length_append, Octets.length_ofNat]
    exact ⟨⟨(Reader.hasAt_of_u16 hpriority).1, (Reader.hasAt_of_u16 hweight).1⟩,
      (Reader.hasAt_of_u16 hport).1⟩

/-- Data that hold a name are accepted just if the first octet of the name is
announced, the message has room for what is announced, and the name is laid out in
the message. How far it reaches is of no account, so accepted data may hold a name
that runs past them, and they do just if there is one. -/
theorem target_inside_iff (message : Message) (start : Nat)
    (htype : type = .ptr ∨ type = .srv) (hlength : length ≠ 0) :
    (∀ data stop, read type length message start = .ok data stop ↔
      data.type = type ∧ targetOffset type < length ∧ start + length ≤ message.size ∧
        stop = start + length ∧ ∃ last, data.LaidOut message start last) ∧
    ((∀ data stop last, read type length message start = .ok data stop →
        data.LaidOut message start last → last ≤ start + length) ↔
      ¬Overruns message start length type) := by
  refine ⟨fun data stop => read_eq_ok_iff htype hlength, ?_, ?_⟩
  · rintro hinside ⟨hannounced, hroom, labels, last, hname, hbehind⟩
    obtain ⟨data, hdata, hlaid⟩ := exists_laidOut htype hname
    have hread : read type length message start = .ok data (start + length) :=
      (read_eq_ok_iff htype hlength).mpr ⟨hdata, hannounced, hroom, rfl, last, hlaid⟩
    exact absurd (hinside data _ last hread hlaid) (Nat.not_le_of_lt hbehind)
  · intro hinside data stop last hread hlaid
    obtain ⟨hdata, hannounced, hroom, -⟩ := (read_eq_ok_iff htype hlength).mp hread
    obtain ⟨labels, hname⟩ := hlaid.exists_name htype hdata
    refine Nat.le_of_not_lt fun hbehind => hinside ?_
    exact ⟨hannounced, hroom, labels, last, hname, hbehind⟩

/-- The announcement gives the two data that hold names the length they have. -/
theorem target_inside_announcement :
    (read .ptr 4 announcement 31 = .ok (.ptr "y.x.") 35 ∧
      ∀ last, LaidOut announcement 31 (.ptr "y.x.") last → last ≤ 35) ∧
    read .srv 8 announcement 47 = .ok (.srv 0 0 9 "x.") 55 ∧
      ∀ last, LaidOut announcement 47 (.srv 0 0 9 "x.") last → last ≤ 55 := by
  obtain ⟨haccepted, hinside⟩ :=
    @target_inside_iff 4 .ptr announcement 31 (Or.inl rfl) (by decide)
  obtain ⟨haccepted', hinside'⟩ :=
    @target_inside_iff 8 .srv announcement 47 (Or.inr rfl) (by decide)
  have hinstance : Name.FieldAt announcement 31 "y.x." 35 := ⟨["y", "x"], rfl, announcement_instance⟩
  have hservice : Name.FieldAt announcement 53 "x." 55 :=
    announcement_toService (by decide) (by decide)
  have hptr : read .ptr 4 announcement 31 = .ok (.ptr "y.x.") 35 :=
    (haccepted _ _).mpr ⟨rfl, by decide, by decide, rfl, 35, .ptr hinstance⟩
  have hsrv : read .srv 8 announcement 47 = .ok (.srv 0 0 9 "x.") 55 :=
    (haccepted' _ _).mpr ⟨rfl, by decide, by decide, rfl, 55,
      @LaidOut.srv _ 47 _ _ _ _ _ (by decide) hservice⟩
  refine ⟨⟨hptr, fun last => hinside.mpr ?_ _ _ last hptr⟩, hsrv,
    fun last => hinside'.mpr ?_ _ _ last hsrv⟩
  · rintro ⟨-, -, labels, last, hname, hbehind⟩
    obtain ⟨-, rfl⟩ := Reader.fieldAt_unique ⟨labels, rfl, hname⟩ hinstance
    exact absurd hbehind (by decide)
  · rintro ⟨-, -, labels, last, hname, hbehind⟩
    obtain ⟨-, rfl⟩ := Reader.fieldAt_unique ⟨labels, rfl, hname⟩ hservice
    exact absurd hbehind (by decide)

/-- A response with one PTR record. Its data are announced with one octet and hold a
name of three, up to the end of the message. -/
def overrunning : Message :=
  #[0, 0, 0x84, 0, 0, 0, 0, 1, 0, 0, 0, 0,
    0, 0, 12, 0, 1, 0, 0, 0, 10, 0, 1, 1, 0x61, 0]

/-- SRV data that are to be read with seven octets and hold nine. -/
def overrunningSrv : Message :=
  #[0, 0, 0, 0, 0, 9, 1, 0x61, 0]

/-- A name that runs past its data is not refused, neither in a message that ends
with it nor in data of the other type. -/
theorem read_of_overrunning :
    (Response.decode overrunning =
        .ok { header := { flags := 0x8400, answers := 1 }
              records := [{ name := "", ttl := 10, data := .ptr "a." }] } ∧
      read .ptr 1 overrunning 23 = .ok (.ptr "a.") 24 ∧
      LaidOut overrunning 23 (.ptr "a.") 26 ∧ ¬26 ≤ 23 + 1) ∧
    read .srv 7 overrunningSrv 0 = .ok (.srv 0 0 9 "a.") 7 ∧
      LaidOut overrunningSrv 0 (.srv 0 0 9 "a.") 9 ∧ ¬9 ≤ 0 + 7 := by
  have hptr : Name.LaidOut overrunning 23 23 ["a"] 26 :=
    .label (by decide) (by decide) (by decide) (.root (by decide))
  have hsrv : Name.LaidOut overrunningSrv 6 6 ["a"] 9 :=
    .label (by decide) (by decide) (by decide) (.root (by decide))
  refine ⟨⟨Response.decode_eq_ok_iff.mpr ⟨24, by decide +kernel⟩, by decide +kernel,
    .ptr ⟨["a"], rfl, hptr⟩, by decide⟩, by decide +kernel, ?_, by decide⟩
  exact @LaidOut.srv _ 0 0 0 9 _ _ (by decide) ⟨["a"], rfl, hsrv⟩

end RecordData

end ServiceDiscovery

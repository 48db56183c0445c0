import ServiceDiscovery.Proofs.Message.Layout
import ServiceDiscovery.Proofs.Name.Runs
import ServiceDiscovery.Proofs.Reader.Placed

/-!
# Where values that were read stand

What the success of a reader says about the message. A reader made of several
has gone from one to the next (`Reader.bind_eq_ok_iff`), numbers stand where they
were read, and names are laid out there (`Reader.name_eq_ok_iff`). Values of one
kind that were read together stand in sequence (`Reader.sequence_of_replicate`).
-/

namespace ServiceDiscovery

namespace Reader

variable {α β : Type} {message : Message} {start stop position : Nat}

theorem bind_eq_ok_iff {reader : Reader α} {next : α → Reader β} {value : β} :
    (reader >>= next) message position = .ok value stop ↔
      ∃ first middle, reader message position = .ok first middle ∧
        next first message middle = .ok value stop := by
  rw [bind_apply]
  cases reader message position with
  | ok first middle => simp [and_assoc]
  | error cause middle => simp

theorem pure_eq_ok_iff {result value : α} :
    (pure result : Reader α) message position = .ok value stop ↔
      result = value ∧ position = stop := by
  rw [pure_apply, EStateM.Result.ok.injEq]

theorem ofExcept_eq_ok_iff {result : Except WireError α} {value : α} :
    ofExcept result message position = .ok value stop ↔ result = .ok value ∧ position = stop := by
  cases result <;> simp [ofExcept]

theorem hasAt_of_octets {count : Nat} {values : Vector UInt8 count}
    (h : octets count message start = .ok values stop) :
    message.HasAt start values.toList ∧ stop = start + count := by
  rw [octets] at h
  split at h
  · cases h
    refine ⟨?_, rfl⟩
    rw [Message.HasAt, Vector.toList_mk, Array.toList_extract, List.extract_eq_take_drop]
    exact List.take_prefix _ _
  · cases h

theorem hasAt_of_number {width n : Nat} (h : number width message start = .ok n stop) :
    message.HasAt start (Octets.ofNat width n) ∧ n < Nat.pow 256 width ∧ stop = start + width := by
  obtain ⟨values, middle, hvalues, hnumber⟩ := bind_eq_ok_iff.mp h
  obtain ⟨rfl, rfl⟩ := pure_eq_ok_iff.mp hnumber
  obtain ⟨hplaced, hstop⟩ := hasAt_of_octets hvalues
  have hlength : values.toList.length = width := Vector.length_toList
  have hdigits := Octets.ofNat_toNat values.toList
  have hlt := Octets.toNat_lt values.toList
  rw [hlength] at hdigits hlt
  exact ⟨hdigits.symm ▸ hplaced, hlt, hstop⟩

theorem hasAt_of_u16 {field : UInt16} (h : u16 message start = .ok field stop) :
    message.HasAt start (Octets.ofNat 2 field.toNat) ∧ stop = start + 2 := by
  obtain ⟨n, middle, hn, hfield⟩ := bind_eq_ok_iff.mp h
  obtain ⟨rfl, rfl⟩ := pure_eq_ok_iff.mp hfield
  obtain ⟨hplaced, hlt, hstop⟩ := hasAt_of_number hn
  have hnat : n.toUInt16.toNat = n := UInt16.toNat_ofNat_of_lt' hlt
  exact ⟨hnat.symm ▸ hplaced, hstop⟩

theorem stop_of_u32 {field : UInt32} (h : u32 message start = .ok field stop) :
    stop = start + 4 := by
  obtain ⟨n, middle, hn, hfield⟩ := bind_eq_ok_iff.mp h
  obtain ⟨_, rfl⟩ := pure_eq_ok_iff.mp hfield
  exact (hasAt_of_number hn).2.2

/-- A name is read where it is laid out, and nowhere else. -/
theorem name_eq_ok_iff {value : Name} :
    name message start = .ok value stop ↔ Name.FieldAt message start value stop := by
  constructor
  · intro h
    rw [name] at h
    split at h
    · cases h
    · rename_i reading hdecode
      cases h
      exact ⟨reading.labels, rfl, Name.decode_eq_ok_iff.mp hdecode⟩
  · rintro ⟨labels, rfl, hlaid⟩
    exact name_of_laidOut hlaid

/-- A position tells the name that is laid out there and where it ends. -/
theorem fieldAt_unique {value other : Name} {last : Nat}
    (h : Name.FieldAt message start value stop) (hother : Name.FieldAt message start other last) :
    value = other ∧ stop = last := by
  have hread := name_eq_ok_iff.mpr h
  rw [name_eq_ok_iff.mpr hother, EStateM.Result.ok.injEq] at hread
  exact ⟨hread.1.symm, hread.2.symm⟩

theorem sequence_of_replicate {reader : Reader α} {count : Nat} {values : List α}
    (h : reader.replicate count message start = .ok values stop) :
    Sequence (fun start value stop => reader message start = .ok value stop) start values stop ∧
      values.length = count := by
  induction count generalizing start values with
  | zero =>
    obtain ⟨rfl, rfl⟩ := pure_eq_ok_iff.mp h
    exact ⟨.nil, rfl⟩
  | succ count ih =>
    obtain ⟨first, middle, hfirst, hbehind⟩ := bind_eq_ok_iff.mp h
    obtain ⟨rest, last, hrest, hvalues⟩ := bind_eq_ok_iff.mp hbehind
    obtain ⟨rfl, rfl⟩ := pure_eq_ok_iff.mp hvalues
    obtain ⟨hsequence, rfl⟩ := ih hrest
    exact ⟨.cons hfirst hsequence, rfl⟩

end Reader

end ServiceDiscovery

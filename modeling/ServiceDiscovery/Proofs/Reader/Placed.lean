import ServiceDiscovery.Proofs.Name.Layout
import ServiceDiscovery.Wire.Reader

/-!
# Readers where something stands

What a reader gives where the octets of a value stand in the message. A reader
made of several is run part by part (`Reader.bind_apply`); numbers, vectors of
octets and names are read as what stands there, and the reader ends behind it.
-/

namespace ServiceDiscovery

namespace Reader

variable {α β : Type} {message : Message} {start position : Nat}

/-! ## Running a reader -/

theorem bind_apply (reader : Reader α) (next : α → Reader β) :
    (reader >>= next) message position =
      match reader message position with
      | .ok value stop => next value message stop
      | .error cause stop => .error cause stop := by
  change EStateM.bind (reader message) (fun value => next value message) position = _
  rw [EStateM.bind]
  cases reader message position <;> rfl

theorem pure_apply (value : α) : (pure value : Reader α) message position = .ok value position :=
  rfl

theorem ofExcept_ok (value : α) : ofExcept (.ok value) message position = .ok value position :=
  rfl

theorem position_apply : Reader.position message position = .ok position position := rfl

theorem remaining_apply :
    remaining message position = .ok (message.size - position) position := rfl

theorem seek_apply {target : Nat} (h : target ≤ message.size) :
    seek target message position = .ok () target :=
  if_neg (Nat.not_lt_of_le h)

/-! What a reader ends with can be compared, so a closed reading is decided. -/

deriving instance DecidableEq for EStateM.Result

/-! ## Octets and numbers -/

theorem octets_of_hasAt {count : Nat} {values : Vector UInt8 count} (hcount : count ≠ 0)
    (h : message.HasAt start values.toList) :
    octets count message start = .ok values (start + count) := by
  have hlength : values.toList.length = count := Vector.length_toList
  have hne : values.toList ≠ [] := by
    intro hnil
    rw [hnil] at hlength
    exact hcount hlength.symm
  have hsize := h.le_size hne
  have hextract := h.toList_extract
  rw [hlength] at hsize hextract
  have hvalues : message.extract start (start + count) = values.toArray :=
    Array.ext' hextract
  simp only [octets, dif_pos hsize, hvalues]

theorem number_of_hasAt {width n : Nat} (hwidth : width ≠ 0) (hn : n < Nat.pow 256 width)
    (h : message.HasAt start (Octets.ofNat width n)) :
    number width message start = .ok n (start + width) := by
  have hlength : (Octets.ofNat width n).toArray.size = width := by simp
  have hread : octets width message start =
      .ok ⟨(Octets.ofNat width n).toArray, hlength⟩ (start + width) :=
    octets_of_hasAt hwidth (by simpa [Vector.toList] using h)
  rw [number, bind_apply, hread]
  simp only [pure_apply, Vector.toList_mk, Octets.toNat_ofNat hn]

theorem u16_of_hasAt {field : UInt16} (h : message.HasAt start (Octets.ofNat 2 field.toNat)) :
    u16 message start = .ok field (start + 2) := by
  have hread := number_of_hasAt (by decide) field.toNat_lt h
  rw [u16, bind_apply, hread]
  simp [pure_apply]

theorem u32_of_hasAt {field : UInt32} (h : message.HasAt start (Octets.ofNat 4 field.toNat)) :
    u32 message start = .ok field (start + 4) := by
  have hread := number_of_hasAt (by decide) field.toNat_lt h
  rw [u32, bind_apply, hread]
  simp [pure_apply]

/-! ## Names -/

theorem name_of_laidOut {labels : List String} {stop : Nat}
    (h : Name.LaidOut message start start labels stop) :
    name message start = .ok (Name.ofLabels labels) stop := by
  have hstart : start ≤ stop := Nat.le_of_lt h.lt_stop_and_le_size.1
  have hstop : start + (stop - start) = stop := Nat.add_sub_cancel' hstart
  simp only [name, h.decode_eq, hstop]
  rfl

end Reader

end ServiceDiscovery

import ServiceDiscovery.Octets.BigEndian

/-!
# Octets in a message

`Message.HasAt` says that octets stand in a message from a position on, whatever
is in front of them and behind them. A sequence of octets stands there if its
parts stand one behind the other (`Message.hasAt_append`). What `List.drop`
leaves of a message stands at its position up to the end of the message. The
octets of a text are read as that text (`Octets.fromUTF8?_of_toList`).

A writer of octets that is made of others carries their results on, so that it
succeeds just if they do (`Except.map_eq_ok_iff`, `Except.bind_eq_ok_iff`).
-/

namespace ServiceDiscovery

namespace Message

/-- `octets` stand in a message from `start` on. -/
def HasAt (message : Message) (start : Nat) (octets : List UInt8) : Prop :=
  octets <+: message.toList.drop start

instance (message : Message) (start : Nat) (octets : List UInt8) :
    Decidable (message.HasAt start octets) :=
  inferInstanceAs (Decidable (_ <+: _))

variable {message : Message} {start : Nat} {octets front back : List UInt8}

theorem HasAt.left (h : message.HasAt start (front ++ back)) : message.HasAt start front :=
  (List.prefix_append front back).trans h

theorem HasAt.right (h : message.HasAt start (front ++ back)) :
    message.HasAt (start + front.length) back := by
  obtain ⟨rest, hrest⟩ := h
  refine ⟨rest, ?_⟩
  rw [← List.drop_drop, ← hrest, List.append_assoc, List.drop_left]

theorem HasAt.tail {octet : UInt8} (h : message.HasAt start (octet :: back)) :
    message.HasAt (start + 1) back :=
  @HasAt.right message start [octet] back h

theorem hasAt_append :
    message.HasAt start (front ++ back) ↔
      message.HasAt start front ∧ message.HasAt (start + front.length) back := by
  refine ⟨fun h => ⟨h.left, h.right⟩, ?_⟩
  rintro ⟨⟨rest, hrest⟩, hback⟩
  rw [HasAt, ← List.drop_drop, ← hrest, List.drop_left] at hback
  rw [HasAt, ← hrest]
  exact (List.prefix_append_right_inj front).mpr hback

theorem HasAt.getElem? {octet : UInt8} (h : message.HasAt start (octet :: back)) :
    message[start]? = some octet := by
  obtain ⟨rest, hrest⟩ := h
  have hhead : (message.toList.drop start).head? = some octet := by rw [← hrest]; rfl
  rwa [List.head?_drop, Array.getElem?_toList] at hhead

theorem HasAt.le_size (h : message.HasAt start octets) (hne : octets ≠ []) :
    start + octets.length ≤ message.size := by
  have hlength := List.IsPrefix.length_le h
  have hpos := List.length_pos_iff.mpr hne
  rw [List.length_drop, show message.toList.length = message.size from rfl] at hlength
  omega

/-- A message that is cut off further behind begins as it did. -/
theorem HasAt.take {length : Nat} (h : message.HasAt 0 octets) (hlength : octets.length ≤ length) :
    HasAt (message.take length) 0 octets := by
  have htake : (message.take length).toList = message.toList.take length := by simp
  rw [HasAt, List.drop_zero] at h ⊢
  rw [htake]
  exact List.prefix_take_iff.mpr ⟨h, hlength⟩

theorem HasAt.toList_extract (h : message.HasAt start octets) :
    (message.extract start (start + octets.length)).toList = octets := by
  obtain ⟨rest, hrest⟩ := h
  rw [Array.toList_extract, List.extract_eq_take_drop, Nat.add_sub_cancel_left, ← hrest,
    List.take_left]

/-- Octets stand behind those in front of them, whatever follows. -/
theorem hasAt_between (front octets back : List UInt8) :
    HasAt (front ++ octets ++ back).toArray front.length octets := by
  rw [HasAt, List.append_assoc, List.toList_toArray, List.drop_left]
  exact List.prefix_append octets back

/-! ## Octets up to the end -/

theorem hasAt_of_drop (h : message.toList.drop start = octets) : message.HasAt start octets :=
  h ▸ List.prefix_refl _

theorem getElem?_of_drop_nil (h : message.toList.drop start = []) : message[start]? = none := by
  rw [← Array.getElem?_toList, ← List.head?_drop, h]
  rfl

theorem drop_succ_of_drop_cons {octet : UInt8} (h : message.toList.drop start = octet :: back) :
    message.toList.drop (start + 1) = back := by
  rw [← List.drop_drop, h]
  rfl

theorem size_of_drop_cons {octet : UInt8} (h : message.toList.drop start = octet :: back) :
    message.size = start + 1 + back.length := by
  have hlength := congrArg List.length h
  rw [List.length_drop, List.length_cons, show message.toList.length = message.size from rfl]
    at hlength
  omega

end Message

/-- The octets of a text are that text. -/
theorem Octets.fromUTF8?_of_toList {octets : Array UInt8} {text : String}
    (h : octets.toList = text.toUTF8.data.toList) : String.fromUTF8? ⟨octets⟩ = some text := by
  have hbytes : (⟨octets⟩ : ByteArray) = text.toUTF8 := ByteArray.ext (Array.ext' h)
  rw [hbytes, String.toUTF8_eq_toByteArray, String.fromUTF8?, dif_pos text.isValidUTF8]
  rfl

/-- What is read as a text are the octets of that text. -/
theorem Octets.toList_of_fromUTF8? {octets : Array UInt8} {text : String}
    (h : String.fromUTF8? ⟨octets⟩ = some text) : text.toUTF8.data.toList = octets.toList := by
  rw [String.fromUTF8?] at h
  split at h
  · cases h
    rfl
  · cases h

end ServiceDiscovery

namespace Except

variable {ε α β : Type} {result : Except ε α} {f : α → β}

theorem map_eq_ok_iff {b : β} : result.map f = .ok b ↔ ∃ a, result = .ok a ∧ f a = b := by
  cases result <;> simp [Except.map]

theorem map_eq_error_iff {cause : ε} : result.map f = .error cause ↔ result = .error cause := by
  cases result <;> simp [Except.map]

theorem bind_eq_ok_iff {next : α → Except ε β} {b : β} :
    result >>= next = .ok b ↔ ∃ a, result = .ok a ∧ next a = .ok b := by
  cases result <;> simp [bind, Except.bind]

end Except

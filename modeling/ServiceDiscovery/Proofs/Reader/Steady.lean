import ServiceDiscovery.Proofs.Reader.Origin

/-!
# Readers of longer messages

What readers make of a message when more octets follow it. A reader is steady
(`Reader.Steady`) if, where it succeeds, it ends inside the message and does the
same in every longer one. The readers of octets, numbers and names are steady,
and so are those made of steady readers. The number of octets that remain is not
read steadily, but it may be asked for in order to refuse (`Steady.ifRoom`).
-/

namespace ServiceDiscovery

variable {message suffix : Message} {start stop : Nat}

/-! ## Layouts in longer messages -/

theorem Message.HasAt.extend {octets : List UInt8} (h : message.HasAt start octets) :
    Message.HasAt (message ++ suffix) start octets := by
  have hdrop : (message ++ suffix).toList.drop start =
      message.toList.drop start ++ suffix.toList.drop (start - message.toList.length) := by
    rw [Array.toList_append, List.drop_append]
  rw [HasAt, hdrop]
  exact h.trans (List.prefix_append _ _)

theorem Name.LaidOut.extend {floor : Nat} {labels : List String}
    (h : LaidOut message floor start labels stop) :
    LaidOut (message ++ suffix) floor start labels stop := by
  induction h with
  | root hroot => exact .root hroot.extend
  | label hne hlength hlabel hrest ih => exact .label hne hlength hlabel.extend ih
  | reference hfloor hlimit hreference htarget ih =>
    exact .reference hfloor hlimit hreference.extend ih

namespace Reader

/-- Where the reader succeeds it ends inside the message, and it reads the same
and ends at the same position if more octets follow. -/
structure Steady {α : Type} (reader : Reader α) : Prop where
  extend {message : Message} {start stop : Nat} {value : α} (suffix : Message)
    (h : reader message start = .ok value stop) :
    reader (message ++ suffix) start = .ok value stop
  inside {message : Message} {start stop : Nat} {value : α} (hstart : start ≤ message.size)
    (h : reader message start = .ok value stop) : stop ≤ message.size

namespace Steady

variable {α β : Type} {reader : Reader α} {next : α → Reader β}

/-! ## How readers are put together -/

theorem pure (value : α) : Steady (Pure.pure value) where
  extend _ h := by
    obtain ⟨rfl, rfl⟩ := pure_eq_ok_iff.mp h
    rfl
  inside hstart h := (pure_eq_ok_iff.mp h).2 ▸ hstart

theorem throw (cause : WireError) : Steady (throw cause : Reader α) where
  extend _ h := nomatch h
  inside _ h := nomatch h

theorem bind (h : Steady reader) (hnext : ∀ value, Steady (next value)) :
    Steady (reader >>= next) where
  extend suffix hread := by
    obtain ⟨first, middle, hfirst, hrest⟩ := bind_eq_ok_iff.mp hread
    exact bind_eq_ok_iff.mpr
      ⟨first, middle, h.extend suffix hfirst, (hnext first).extend suffix hrest⟩
  inside hstart hread := by
    obtain ⟨first, middle, hfirst, hrest⟩ := bind_eq_ok_iff.mp hread
    exact (hnext first).inside (h.inside hstart hfirst) hrest

theorem ofExcept (result : Except WireError α) : Steady (Reader.ofExcept result) where
  extend _ h := by
    obtain ⟨rfl, rfl⟩ := ofExcept_eq_ok_iff.mp h
    rfl
  inside hstart h := (ofExcept_eq_ok_iff.mp h).2 ▸ hstart

theorem replicate (h : Steady reader) (count : Nat) : Steady (reader.replicate count) := by
  induction count with
  | zero => exact .pure []
  | succ count ih => exact h.bind fun _ => ih.bind fun _ => .pure _

/-- A longer message has more room, so a reader that refuses for the lack of it
does not refuse later. -/
theorem ifRoom (h : Steady reader) (count : Nat) (cause : WireError) :
    Steady (remaining >>= fun room =>
      if room < count then MonadExcept.throw cause else reader) where
  extend {message start stop value} suffix hread := by
    rw [bind_apply, remaining_apply] at hread ⊢
    simp only at hread ⊢
    split at hread
    · cases hread
    · rename_i hroom
      have hmore : ¬(message ++ suffix).size - start < count := by
        rw [Array.size_append]
        omega
      rw [if_neg hmore]
      exact h.extend suffix hread
  inside hstart hread := by
    rw [bind_apply, remaining_apply] at hread
    simp only at hread
    split at hread
    · cases hread
    · exact h.inside hstart hread

/-! ## Readers of single values -/

theorem position : Steady Reader.position where
  extend _ h := by
    cases h
    rfl
  inside hstart h := by
    cases h
    exact hstart

theorem seek (target : Nat) : Steady (Reader.seek target) where
  extend {message start stop value} suffix h := by
    rw [Reader.seek] at h
    split at h
    · cases h
    · rename_i hsize
      cases h
      refine seek_apply ?_
      rw [Array.size_append]
      omega
  inside _ h := by
    rw [Reader.seek] at h
    split at h
    · cases h
    · rename_i hsize
      cases h
      exact Nat.le_of_not_lt hsize

theorem octets (count : Nat) : Steady (Reader.octets count) where
  extend {message start stop value} suffix h := by
    rw [Reader.octets] at h
    split at h
    · rename_i hroom
      cases h
      have hmore : start + count ≤ (message ++ suffix).size := by
        rw [Array.size_append]
        omega
      have hsame : (message ++ suffix).extract start (start + count) =
          message.extract start (start + count) := by
        rw [Array.extract_append, Nat.sub_eq_zero_of_le hroom, Array.extract_zero,
          Array.append_empty]
      simp only [Reader.octets, dif_pos hmore, hsame]
    · cases h
  inside _ h := by
    rw [Reader.octets] at h
    split at h
    · rename_i hroom
      cases h
      exact hroom
    · cases h

theorem u16 : Steady Reader.u16 :=
  ((octets 2).bind fun _ => .pure _).bind fun _ => .pure _

theorem u32 : Steady Reader.u32 :=
  ((octets 4).bind fun _ => .pure _).bind fun _ => .pure _

theorem name : Steady Reader.name where
  extend suffix h := by
    obtain ⟨labels, rfl, hlaid⟩ := name_eq_ok_iff.mp h
    exact name_of_laidOut hlaid.extend
  inside _ h := by
    obtain ⟨labels, rfl, hlaid⟩ := name_eq_ok_iff.mp h
    exact hlaid.lt_stop_and_le_size.2

end Steady

end Reader

end ServiceDiscovery

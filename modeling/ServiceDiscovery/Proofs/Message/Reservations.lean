import ServiceDiscovery.Proofs.Reader.Placed
import ServiceDiscovery.Response

/-!
# Room that is made in advance

Readers that make room for what they are about to read. The room has no bearing on
what is read: a reserving reader reads what the reader without reservations does
(`ReservingReader.Reads`), and so do responses (`Response.read_eq`). Whatever a
message announces, and also if it is refused in the end, room is made for no more
entries than there could be (`Reservation.Capped`): each step of a reserving reader
keeps to that (`ReservingReader.Caps`), so a whole response does.
-/

namespace ServiceDiscovery

/-- Room for no more entries than are announced, and for no more than what remains of
the message could hold. -/
structure Reservation.Capped (message : Message) (reservation : Reservation) : Prop where
  count : reservation.capacity ≤ reservation.count
  remaining : reservation.capacity * reservation.minLength ≤ reservation.remaining
  inside : reservation.remaining ≤ message.size

/-- Where a reader is left, whether it succeeds or refuses, and the room it made. -/
def Progress.left {α : Type} : EStateM.Result WireError Progress α → Progress
  | .ok _ progress => progress
  | .error _ progress => progress

namespace ReservingReader

variable {α β : Type} {message : Message} {progress : Progress} {reserving : ReservingReader α}
  {nextReserving : α → ReservingReader β} {reader : Reader α} {next : α → Reader β}

theorem bind_apply (reserving : ReservingReader α) (next : α → ReservingReader β) :
    (reserving >>= next) message progress =
      match reserving message progress with
      | .ok value last => next value message last
      | .error cause last => .error cause last := by
  change EStateM.bind (reserving message) (fun value => next value message) progress = _
  rw [EStateM.bind]
  cases reserving message progress <;> rfl

theorem lift_apply (reader : Reader α) :
    (liftM reader : ReservingReader α) message progress =
      match reader message progress.position with
      | .ok value position => .ok value { progress with position }
      | .error cause position => .error cause { progress with position } := rfl

/-! ## What is read -/

/-- The reserving reader reads what the reader reads, whatever room was made
before. -/
def Reads (reserving : ReservingReader α) (reader : Reader α) : Prop :=
  ∀ ⦃message : Message⦄ ⦃progress : Progress⦄,
    Progress.forget (reserving message progress) = reader message progress.position

namespace Reads

theorem lift (reader : Reader α) : Reads (liftM reader) reader := by
  intro message progress
  rw [lift_apply]
  cases reader message progress.position <;> rfl

theorem pure (value : α) : Reads (Pure.pure value) (Pure.pure value) := fun _ _ => rfl

theorem throw (cause : WireError) : Reads (throw cause : ReservingReader α) (throw cause) :=
  fun _ _ => rfl

theorem bind (h : Reads reserving reader) (hnext : ∀ value, Reads (nextReserving value) (next value)) :
    Reads (reserving >>= nextReserving) (reader >>= next) := by
  intro message progress
  have hread := @h message progress
  rw [bind_apply, Reader.bind_apply, ← hread]
  cases reserving message progress with
  | ok value last => exact @hnext value message last
  | error cause last => rfl

/-- Making room is not reading. -/
theorem reserve (count minLength : Nat) (h : Reads reserving reader) :
    Reads (do Response.reserve count minLength; reserving) reader :=
  fun _ _ => @h _ _

theorem toReader_eq (h : Reads reserving reader) : reserving.toReader = reader := by
  funext message position
  exact @h message { position }

end Reads

/-! ## How much room is made -/

/-- All room that the reader makes is capped. -/
def Caps (reserving : ReservingReader α) : Prop :=
  ∀ ⦃message : Message⦄ ⦃progress : Progress⦄,
    (∀ reservation ∈ progress.reservations, reservation.Capped message) →
      ∀ reservation ∈ (Progress.left (reserving message progress)).reservations,
        reservation.Capped message

namespace Caps

theorem lift (reader : Reader α) : Caps (liftM reader) := by
  intro message progress hprogress
  rw [lift_apply]
  cases reader message progress.position <;> exact hprogress

theorem pure (value : α) : Caps (Pure.pure value : ReservingReader α) := fun _ _ h => h

theorem throw (cause : WireError) : Caps (throw cause : ReservingReader α) := fun _ _ h => h

theorem bind (h : Caps reserving) (hnext : ∀ value, Caps (nextReserving value)) :
    Caps (reserving >>= nextReserving) := by
  intro message progress hprogress
  have hfirst := h hprogress
  rw [bind_apply]
  cases hread : reserving message progress with
  | ok value last =>
    rw [hread] at hfirst
    exact hnext value hfirst
  | error cause last => rwa [hread] at hfirst

theorem reserve (count minLength : Nat) : Caps (Response.reserve count minLength) := by
  intro message progress hprogress
  refine List.forall_mem_append.mpr ⟨hprogress, List.forall_mem_singleton.mpr ?_⟩
  have hcapacity := Nat.mul_le_mul_right minLength
    (Nat.min_le_right count ((message.size - progress.position) / minLength))
  exact ⟨Nat.min_le_left _ _, Nat.le_trans hcapacity (Nat.div_mul_le_self _ _), Nat.sub_le _ _⟩

end Caps

end ReservingReader

namespace Response

open ReservingReader (Reads Caps)

/-- A response is read as if no room were made for its entries. -/
theorem read_eq :
    read = (do
      let header ← Header.read
      if ¬header.isResponse then
        throw .notAResponse
      else if header.opcode ≠ 0 ∨ header.responseCode ≠ 0 then
        throw .unsupportedOperation
      else
        let questions ← Question.read.replicate header.questions.toNat
        let records ← Record.read.replicate header.records
        return { header, questions, records }) := by
  refine Reads.toReader_eq (.bind (.lift _) fun header => ?_)
  split
  · exact .throw _
  · split
    · exact .throw _
    · exact .reserve _ _ (.bind (.lift _) fun _ => .reserve _ _ (.bind (.lift _) fun _ => .pure _))

/-- The room that is made for the entries of a message, which may be refused in the
end. -/
def reservations (message : Message) : List Reservation :=
  (Progress.left (readReserving message { position := 0 })).reservations

theorem caps_readReserving : Caps readReserving := by
  refine .bind (.lift _) fun header => ?_
  split
  · exact .throw _
  · split
    · exact .throw _
    · exact .bind (.reserve _ _) fun _ => .bind (.lift _) fun _ => .bind (.reserve _ _) fun _ =>
        .bind (.lift _) fun _ => .pure _

theorem capped_of_mem_reservations {message : Message} {reservation : Reservation}
    (h : reservation ∈ reservations message) : reservation.Capped message :=
  caps_readReserving (fun _ hmem => absurd hmem List.not_mem_nil) reservation h

end Response

end ServiceDiscovery

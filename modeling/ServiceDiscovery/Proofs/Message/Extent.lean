import ServiceDiscovery.Proofs.Message.Origin
import ServiceDiscovery.Proofs.Message.RoundTrip
import ServiceDiscovery.Proofs.Reader.Steady

/-!
# The extent of a response

How far a response reaches in its message. All its parts are read steadily, even
the names that lead to other places, so a response is decoded whatever follows
it. Where reading it ends is where it ends, for no shorter message can be
decoded (`Response.decode_of_longer_or_cut`).
-/

namespace ServiceDiscovery

open Reader (Steady)

theorem Header.steady_read : Steady Header.read :=
  .ifRoom (.bind .u16 fun _ => .bind .u16 fun _ => .bind .u16 fun _ => .bind .u16 fun _ =>
    .bind .u16 fun _ => .bind .u16 fun _ => .pure _) size .headerTooShort

theorem Question.steady_read : Steady Question.read :=
  .bind .name fun _ => .bind .u16 fun _ => .bind (.ofExcept _) fun _ =>
    .bind .u16 fun _ => .bind (.ofExcept _) fun _ => .pure _

namespace RecordData

theorem steady_readPayload (type : RecordType) (length : Nat) :
    Steady (readPayload type length) := by
  cases type with
  | a | aaaa =>
    rw [readPayload]
    split
    · exact .bind (.octets _) fun _ => .pure _
    · exact .throw _
  | ptr =>
    rw [readPayload]
    split
    · exact .pure _
    · exact .bind .name fun _ => .pure _
  | srv =>
    rw [readPayload]
    split
    · exact .throw _
    · exact .bind .u16 fun _ => .bind .u16 fun _ => .bind .u16 fun _ => .bind .name fun _ => .pure _
  | txt => exact .bind (.octets _) fun _ => .bind (.ofExcept _) fun _ => .pure _

/-- A sum is a word whatever message it is for, or it is inside the message. -/
theorem steady_computeEnd (start length : Nat) : Steady (computeEnd start length) where
  extend suffix h := by
    obtain ⟨hword, hstop, hlast⟩ := computeEnd_eq_ok_iff.mp h
    refine computeEnd_eq_ok_iff.mpr ⟨hword.imp_right fun hinside => ?_, hstop, hlast⟩
    rw [Array.size_append]
    omega
  inside hstart h := (computeEnd_eq_ok_iff.mp h).2.2 ▸ hstart

theorem steady_read (type : RecordType) (length : Nat) : Steady (read type length) :=
  .bind .position fun _ => .bind (steady_computeEnd _ length) fun _ => .ifRoom
    (.bind (steady_readPayload type length) fun _ => .bind (.seek _) fun _ => .pure _) length
    .unexpectedEnd

end RecordData

theorem Record.steady_read : Steady Record.read :=
  .bind .name fun _ => .bind .u16 fun _ => .bind (.ofExcept _) fun _ =>
    .bind .u16 fun _ => .bind (.ofExcept _) fun _ => .bind .u32 fun _ => .bind .u16 fun _ =>
      .bind (RecordData.steady_read _ _) fun _ => .pure _

namespace Response

variable {message : Message} {response : Response}

theorem steady_read : Steady read := by
  rw [read_eq]
  refine .bind Header.steady_read fun header => ?_
  split
  · exact .throw _
  · split
    · exact .throw _
    · exact .bind (Question.steady_read.replicate _) fun _ =>
        .bind (Record.steady_read.replicate _) fun _ => .pure _

/-- What follows a response is passed over, whatever it is. A message that is cut
off in front of where reading its response ends is refused. -/
theorem decode_of_longer_or_cut :
    (∀ message suffix response, decode message = .ok response →
      decode (message ++ suffix) = .ok response) ∧
    ∀ message response stop, read message 0 = .ok response stop →
      ∀ length < stop, ∃ cause, decode (message.take length) = .error cause := by
  constructor
  · intro message suffix response hdecode
    obtain ⟨stop, hread⟩ := decode_eq_ok_iff.mp hdecode
    exact decode_eq_ok_iff.mpr ⟨stop, steady_read.extend suffix hread⟩
  · intro message response stop hread length hlength
    cases hdecode : decode (message.take length) with
    | error cause => exact ⟨cause, rfl⟩
    | ok other =>
      obtain ⟨last, hcut⟩ := decode_eq_ok_iff.mp hdecode
      have hinside : last ≤ (message.take length).size :=
        steady_read.inside (Nat.zero_le _) hcut
      -- the rest of the message changes nothing, so reading ends there in the whole as well
      have hwhole : read message 0 = .ok other last := by
        have hparts : message.take length ++ message.drop length = message := by
          rw [Array.take, Array.drop, Array.extract_append_extract]
          exact Array.extract_eq_self_of_le (Nat.le_max_right _ _)
        have hextend := steady_read.extend (message.drop length) hcut
        rwa [hparts] at hextend
      rw [hread] at hwhole
      cases hwhole
      have hsize : (message.take length).size ≤ length := by
        rw [Array.take, Array.size_extract]
        omega
      omega

/-- The announcement has an octet to spare, and not one more. -/
theorem decode_announcement_longer_or_cut :
    (decode announcement = .ok announced ∧
      decode (announcement ++ #[0, 1]) = .ok announced) ∧
    read announcement 0 = .ok announced 71 ∧
      ∃ cause, decode (announcement.take 70) = .error cause := by
  have hdecode : decode announcement = .ok announced :=
    announcement_laidOut.decode_eq rfl rfl rfl rfl rfl
  have hread : read announcement 0 = .ok announced 71 := by decide +kernel
  exact ⟨⟨hdecode, decode_of_longer_or_cut.1 _ _ _ hdecode⟩, hread,
    decode_of_longer_or_cut.2 _ _ _ hread 70 (by decide)⟩

end Response

end ServiceDiscovery

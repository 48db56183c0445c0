import ServiceDiscovery.Proofs.Discovery.Transcript
import ServiceDiscovery.Proofs.QueryPacket.Contents
import ServiceDiscovery.Proofs.Session.FollowUps
import ServiceDiscovery.Proofs.Session.Store

/-!
# Noise

Messages that a session has no use for (`Session.Noise`) leave no trace in a
discovery but the time they took. What is no response is refused, among it all
queries and thus the session's own, which come back to who sends to a group. A
response that answers nothing asked is passed over. A session is the same behind
either, so a run that receives one more of them finds the same instances and
sends the same questions (`Discovery.run_of_noise`).
-/

namespace ServiceDiscovery

namespace Session

variable {session : Session} {message : Message} {front rest : List Message}

/-- The session has no use for a message that arrives and is cut off at the
greatest length. -/
inductive Noise (session : Session) (message : Message) : Prop where
  | refused {cause : WireError}
      (hdecode : Response.decode (message.take Multicast.maxMessageLength) = .error cause)
  | query {id : UInt16} {questions : List (Question × Bool)} {packet : QueryPacket}
      (hpacket : (QueryPacket.empty id).askAll questions = .ok packet)
      (hmessage : packet.message = message)
  | unasked {response : Response}
      (hdecode : Response.decode (message.take Multicast.maxMessageLength) = .ok response)
      (hnames : ∀ question ∈ session.asked, ∀ record ∈ response.records,
        record.name ≠ question.name)

/-- The questions of the session itself are noise. -/
theorem Noise.of_encode {question : Question} (h : question.encode = .ok message) :
    session.Noise message := by
  obtain ⟨packet, hask, hmessage⟩ := Except.map_eq_ok_iff.mp h
  have hpacket : (QueryPacket.empty 0).askAll [(question, true)] = .ok packet :=
    Except.bind_eq_ok_iff.mpr ⟨packet, hask, rfl⟩
  exact .query hpacket hmessage

theorem Noise.handle_eq (h : session.Noise message) :
    session.handle (message.take Multicast.maxMessageLength) = ([], session) := by
  refine handle_of_irrelevant ?_
  rintro response ⟨hresponse, question, hasked, record, hmem, hname⟩
  cases h with
  | refused hdecode => exact nomatch hdecode.symm.trans hresponse
  | query hpacket hmessage =>
    have hroom : Header.size ≤ Multicast.maxMessageLength := by decide
    have hrefused := QueryPacket.decode_of_askAll hroom hpacket
    rw [hmessage] at hrefused
    exact nomatch hrefused.symm.trans hresponse
  | unasked hdecode hnames =>
    cases hdecode.symm.trans hresponse
    exact hnames question hasked record hmem hname

/-- A message that changes nothing is one more step and has no part in the
others. -/
theorem run_insert (h : (session.after front).handle message = ([], session.after front)) :
    session.run (front ++ message :: rest) =
      (session.run (front ++ rest)).insertIdx front.length ([], session.after front) := by
  induction front generalizing session with
  | nil =>
    rw [after_nil] at h
    simp [run, h]
  | cons first front ih => simp [run, ih h]

end Session

namespace Discovery

/-! ## Receives in front of others -/

/-- Each of the receives brings a message in time, so none of them ends a run. -/
def InTime (window : Nat) (arrivals : List Arrival) : Prop :=
  ∀ arrival ∈ arrivals, arrival.delay ≤ window ∧ arrival.message?.isSome

variable {window : Nat} {before later : List Arrival}

theorem InTime.timely_append (h : InTime window before) :
    timely window (before ++ later) = before ++ timely window later :=
  List.takeWhile_append_of_pos fun arrival hmem => decide_eq_true (h arrival hmem)

theorem InTime.timely_eq (h : InTime window before) : timely window before = before := by
  have hnone : timely window (before ++ []) = before ++ timely window [] := h.timely_append
  simpa [timely] using hnone

theorem InTime.failure?_append (h : InTime window before) :
    failure? window (before ++ later) = failure? window later := by
  rw [failure?, h.timely_append, List.length_append, List.drop_append, failure?]
  simp

theorem InTime.completed_append (h : InTime window before) :
    completed window (before ++ later) = before ++ completed window later := by
  rw [completed, h.timely_append, h.failure?_append, List.append_assoc, completed]

theorem InTime.heard_append (h : InTime window before) :
    heard window (before ++ later) = heard window before ++ heard window later := by
  rw [heard, h.timely_append, List.filterMap_append, heard, h.timely_eq, heard]

theorem InTime.length_heard (h : InTime window before) :
    (heard window before).length = before.length := by
  rw [heard, h.timely_eq, List.filterMap_length_eq_length]
  intro arrival hmem
  rw [Option.isSome_map]
  exact (h arrival hmem).2

theorem InTime.span_append (h : InTime window before) :
    span window (before ++ later) = (before.map (·.delay)).sum + span window later := by
  rw [span, h.completed_append, h.failure?_append, List.map_append, List.sum_append,
    Nat.add_assoc, span]

/-! ## Sends behind one receive more -/

/-- The same send if one more receive is complete behind the first `place`
ones. -/
def Sent.delayed (place : Nat) (sent : Sent) : Sent :=
  { sent with after := if sent.after ≤ place then sent.after else sent.after + 1 }

variable {groups : List Endpoint} {place : Nat}

theorem map_delayed_copies (after : Nat) (message : Message) :
    (copies groups after message).map (Sent.delayed place) =
      copies groups (if after ≤ place then after else after + 1) message := by
  simp [copies, Sent.delayed]

theorem map_delayed_asking (after : Nat) (questions : List Question) :
    (asking groups after questions).map (Sent.delayed place) =
      asking groups (if after ≤ place then after else after + 1) questions := by
  rw [asking, List.map_flatMap, asking]
  congr 1
  funext question
  cases question.encode with
  | error cause => rfl
  | ok message => exact map_delayed_copies after message

/-- What is sent behind the place is sent one receive later. -/
theorem map_delayed_answering {received : Nat} (h : place ≤ received)
    (steps : List (List Question × Session)) :
    (answering groups received steps).map (Sent.delayed place) =
      answering groups (received + 1) steps := by
  induction steps generalizing received with
  | nil => rfl
  | cons step rest ih =>
    rw [answering, List.map_append, map_delayed_asking, ih (Nat.le_succ_of_le h),
      if_neg (by omega), answering]

/-- A step that asks nothing delays the sends behind it. -/
theorem answering_insertIdx (received : Nat) {steps : List (List Question × Session)}
    (session : Session) (h : place ≤ steps.length) :
    answering groups received (steps.insertIdx place ([], session)) =
      (answering groups received steps).map (Sent.delayed (received + place)) := by
  induction place generalizing received steps with
  | zero =>
    rw [List.insertIdx_zero, answering, Nat.add_zero received,
      map_delayed_answering (Nat.le_refl _)]
    rfl
  | succ place ih =>
    cases steps with
    | nil => exact absurd h (Nat.not_succ_le_zero place)
    | cons step rest =>
      rw [List.insertIdx_succ_cons, answering, ih (received + 1) (Nat.le_of_succ_le_succ h),
        answering, List.map_append, map_delayed_asking, if_pos (by omega)]
      congr 3
      omega

/-! ## Runs with noise -/

/-- A run is not disturbed by one message more that took `delay` milliseconds to
arrive behind the first `place` ones. It finds the same and sends the same
messages to the same groups, each of them behind the receive that led to it. -/
structure Report.Undisturbed (place delay : Nat) (report noisy : Report) : Prop where
  result : noisy.result = report.result
  queries : noisy.network.sent.toList.map (fun sent => (sent.group, sent.message)) =
    report.network.sent.toList.map fun sent => (sent.group, sent.message)
  places : noisy.network.sent.toList.map (·.after) =
    report.network.sent.toList.map fun sent =>
      if sent.after ≤ place then sent.after else sent.after + 1
  outcomes : noisy.network.outcomes = report.network.outcomes
  received : noisy.network.received = report.network.received + 1
  elapsed : noisy.network.elapsed = report.network.elapsed + delay

section

variable {initial : Question} {delay : Nat} {noise : Message}

theorem heard_insert (hbefore : InTime window before) (hdelay : delay ≤ window) :
    heard window (before ++ { delay, message? := some noise } :: later) =
      heard window before ++ noise.take Multicast.maxMessageLength :: heard window later := by
  have htimely : timely window ({ delay, message? := some noise } :: later) =
      { delay, message? := some noise } :: timely window later := timely_cons_of_some hdelay rfl
  rw [hbefore.heard_append]
  simp [heard, htimely]

theorem run_heard_insert (hbefore : InTime window before) (hdelay : delay ≤ window)
    (hnoise : ((Session.start initial).after (heard window before)).Noise noise) :
    (Session.start initial).run
        (heard window (before ++ { delay, message? := some noise } :: later)) =
      ((Session.start initial).run (heard window (before ++ later))).insertIdx before.length
        ([], (Session.start initial).after (heard window before)) := by
  rw [heard_insert hbefore hdelay, hbefore.heard_append, Session.run_insert hnoise.handle_eq,
    hbefore.length_heard]

theorem after_heard_insert (hbefore : InTime window before) (hdelay : delay ≤ window)
    (hnoise : ((Session.start initial).after (heard window before)).Noise noise) :
    (Session.start initial).after
        (heard window (before ++ { delay, message? := some noise } :: later)) =
      (Session.start initial).after (heard window (before ++ later)) := by
  rw [heard_insert hbefore hdelay, hbefore.heard_append, Session.after_append,
    Session.after_cons, hnoise.handle_eq, Session.after_append]

theorem transcript_insert (first : Message) (groups : List Endpoint) (later : List Arrival)
    (hbefore : InTime window before) (hdelay : delay ≤ window)
    (hnoise : ((Session.start initial).after (heard window before)).Noise noise) :
    transcript initial first window groups
        (before ++ { delay, message? := some noise } :: later) =
      (transcript initial first window groups (before ++ later)).map
        (Sent.delayed before.length) := by
  have hlength : before.length ≤
      ((Session.start initial).run (heard window (before ++ later))).length := by
    rw [Session.length_run, hbefore.heard_append, List.length_append, hbefore.length_heard]
    exact Nat.le_add_right _ _
  rw [transcript, run_heard_insert hbefore hdelay hnoise, answering_insertIdx 0 _ hlength,
    transcript, List.map_append, map_delayed_copies, if_pos (Nat.zero_le _), Nat.zero_add]

/-- A message that the session has no use for at its place does not disturb a run.
Every decision is the same as without it, and so is what ends the run. -/
theorem run_of_noise (initial : Question) (window : Nat) (groups : List Endpoint)
    (outcomes : List SendOutcome) (later : List Arrival) (hbefore : InTime window before)
    (hdelay : delay ≤ window)
    (hnoise : ((Session.start initial).after (heard window before)).Noise noise) :
    (match initial.encode with
      | .error _ =>
        run initial window groups (before ++ { delay, message? := some noise } :: later)
            outcomes =
          run initial window groups (before ++ later) outcomes
      | .ok _ =>
        Report.Undisturbed before.length delay
          (run initial window groups (before ++ later) outcomes)
          (run initial window groups (before ++ { delay, message? := some noise } :: later)
            outcomes)) ∧
    (Session.start initial).run
        (heard window (before ++ { delay, message? := some noise } :: later)) =
      ((Session.start initial).run (heard window (before ++ later))).insertIdx before.length
        ([], (Session.start initial).after (heard window before)) ∧
    failure? window (before ++ { delay, message? := some noise } :: later) =
      failure? window (before ++ later) := by
  have htimely : timely window ({ delay, message? := some noise } :: later) =
      { delay, message? := some noise } :: timely window later := timely_cons_of_some hdelay rfl
  have hfailure : failure? window ({ delay, message? := some noise } :: later) =
      failure? window later := failure?_cons_of_some hdelay rfl
  refine ⟨?_, run_heard_insert hbefore hdelay hnoise, ?_⟩
  · simp only [run_eq]
    cases initial.encode with
    | error cause => rfl
    | ok first =>
      have hsent := transcript_insert first groups later hbefore hdelay hnoise
      constructor
      · rw [after_heard_insert hbefore hdelay hnoise]
      · simp [hsent, Sent.delayed]
      · simp [hsent, Sent.delayed]
      · simp [hsent]
      · rw [hbefore.completed_append, hbefore.completed_append]
        simp [completed, htimely, hfailure, Nat.add_assoc]
      · rw [hbefore.span_append, hbefore.span_append]
        simp [span, completed, htimely, hfailure, Nat.add_assoc, Nat.add_comm,
          Nat.add_left_comm]
  · rw [hbefore.failure?_append, hbefore.failure?_append, hfailure]

end

/-- The question that a browse begins with, as it is sent. -/
def echo : Message :=
  ((Question.internet "x." .ptr).queryOctets ["x"]).toArray

/-- The browse is not disturbed when its question comes back to it in front of the
announcement. -/
theorem run_of_noise_echo :
    (InTime 10 [{ delay := 1, message? := some #[0xff] }] ∧ 2 ≤ 10 ∧
      ((Session.start (.internet "x." .ptr)).after
        (heard 10 [{ delay := 1, message? := some #[0xff] }])).Noise echo) ∧
    Report.Undisturbed 1 2
        (run (.internet "x." .ptr) 10 [Family.group .v4]
          [{ delay := 1, message? := some #[0xff] },
            { delay := 4, message? := some announcement }] [.failed])
        (run (.internet "x." .ptr) 10 [Family.group .v4]
          [{ delay := 1, message? := some #[0xff] }, { delay := 2, message? := some echo },
            { delay := 4, message? := some announcement }] [.failed]) := by
  have hbefore : InTime 10 [{ delay := 1, message? := some #[0xff] }] := by simp [InTime]
  have hencode : (Question.internet "x." .ptr).encode = .ok echo := by decide
  have hnoise : ((Session.start (.internet "x." .ptr)).after
      (heard 10 [{ delay := 1, message? := some #[0xff] }])).Noise echo := .of_encode hencode
  have hdelay : 2 ≤ 10 := by decide
  obtain ⟨hrun, -, -⟩ := run_of_noise (.internet "x." .ptr) 10 [Family.group .v4] [.failed]
    [{ delay := 4, message? := some announcement }] hbefore hdelay hnoise
  rw [hencode] at hrun
  exact ⟨⟨hbefore, hdelay, hnoise⟩, hrun⟩

end Discovery

end ServiceDiscovery

import Mathlib.Data.List.Perm.Basic
import ServiceDiscovery.Proofs.Session.Instances

/-!
# The order in which messages arrive

Which instances a session finds does not depend on the order of its messages, as
long as none of them is passed over and their records do not contradict each
other (`Session.instances_perm`). The stores of two such runs have the same records
in different orders, and the questions that follow may differ. But where records
with one name agree it does not matter which of them a lookup finds first.
-/

namespace ServiceDiscovery

/-- A record belongs to a response among some messages. -/
def Carried (messages : List Message) (record : Record) : Prop :=
  ∃ message ∈ messages, ∃ response, Response.decode message = .ok response ∧
    record ∈ response.records

theorem carried_cons {message : Message} {rest : List Message} {record : Record} :
    Carried (message :: rest) record ↔
      (∃ response, Response.decode message = .ok response ∧ record ∈ response.records) ∨
        Carried rest record := by
  simp only [Carried, List.mem_cons, exists_eq_or_imp]

/-- The records of some messages agree on where a service is, if they tell it for
the same name, and on what its attributes are. How long they may be remembered
is of no account, nor are priorities and weights. -/
structure Coherent (messages : List Message) : Prop where
  location : Record.Agree RecordData.location? (Carried messages)
  attributes : Record.Agree RecordData.attributes? (Carried messages)

namespace Session

variable {session other : Session} {messages others : List Message} {record : Record}

/-- Each of some messages is relevant to the session when it arrives. -/
def Welcomes (session : Session) : List Message → Prop
  | [] => True
  | message :: rest =>
    (∃ response, session.Relevant message response) ∧ (session.handle message).2.Welcomes rest

/-- The store behind messages none of which is passed over has all their
records. -/
theorem mem_records_after_of_welcomes (h : session.Welcomes messages) :
    record ∈ (session.after messages).records.records ↔
      record ∈ session.records.records ∨ Carried messages record := by
  induction messages generalizing session with
  | nil => simp [Carried]
  | cons message rest ih =>
    obtain ⟨⟨response, hrelevant⟩, hrest⟩ := h
    rw [after_cons, ih hrest, mem_records_handle, or_assoc]
    refine or_congr_right ?_
    rw [carried_cons]
    refine or_congr_left ⟨?_, ?_⟩
    · rintro ⟨found, ⟨hdecode, -⟩, hmem⟩
      exact ⟨found, hdecode, hmem⟩
    · rintro ⟨found, hdecode, hmem⟩
      -- a message is one response at most
      obtain rfl : response = found := Except.ok.inj (hrelevant.1.symm.trans hdecode)
      exact ⟨response, hrelevant, hmem⟩

/-- A message with a record that has the first question's name is never passed
over. -/
theorem welcomes_of_initial (hasked : session.initial ∈ session.asked)
    (h : ∀ message ∈ messages, ∃ response, Response.decode message = .ok response ∧
      ∃ record ∈ response.records, record.name = session.initial.name) :
    session.Welcomes messages := by
  induction messages generalizing session with
  | nil => trivial
  | cons message rest ih =>
    obtain ⟨hfirst, hrest⟩ := List.forall_mem_cons.mp h
    obtain ⟨response, hdecode, hrecord⟩ := hfirst
    refine ⟨⟨response, hdecode, session.initial, hasked, hrecord⟩, ih ?_ ?_⟩
    · rw [initial_handle, asked_handle]
      exact List.mem_append_left _ hasked
    · rwa [initial_handle]

/-- Sessions that began with the same name and have the same records, in whatever
order, have found the same instances if the records agree. -/
theorem instances_eq_of_mem_iff (hname : session.initial.name = other.initial.name)
    (hmem : ∀ record, record ∈ session.records.records ↔ record ∈ other.records.records)
    (hlocation : Record.Agree RecordData.location? (· ∈ session.records.records))
    (hattributes : Record.Agree RecordData.attributes? (· ∈ session.records.records)) :
    session.instances = other.instances := by
  have hannounces : ∀ target, session.Announces target ↔ other.Announces target := by
    intro target
    simp only [Announces, hmem, hname]
  have hfound : ∀ target, Instance.ofRecords? target session.records =
      Instance.ofRecords? target other.records := by
    intro target
    refine Instance.ofRecords?_congr (Response.findSome?_recordsFor_congr hlocation hmem)
      (Response.findSome?_recordsFor_congr hattributes hmem) fun port host _ address => ?_
    simp only [Response.mem_addressesFor, hmem]
  rw [instances_eq_iff]
  intro found
  simp only [mem_instances, hannounces, hfound]

/-- The instances found do not depend on the order in which messages arrive, if
each of them is relevant when it arrives in either order and their records are
coherent. -/
theorem instances_perm {initial : Question} (hperm : messages.Perm others)
    (hmessages : (start initial).Welcomes messages) (hothers : (start initial).Welcomes others)
    (hcoherent : Coherent messages) :
    ((start initial).after messages).instances = ((start initial).after others).instances := by
  have hstore : ∀ record, record ∈ ((start initial).after messages).records.records ↔
      Carried messages record := by
    intro record
    rw [mem_records_after_of_welcomes hmessages]
    exact or_iff_right List.not_mem_nil
  have hsame : ∀ record, Carried messages record ↔ Carried others record := by
    intro record
    simp only [Carried, hperm.mem_iff]
  refine instances_eq_of_mem_iff ?_ ?_ (hcoherent.location.mono fun record => (hstore record).mp)
    (hcoherent.attributes.mono fun record => (hstore record).mp)
  · rw [initial_after, initial_after]
  · intro record
    rw [hstore, hsame, mem_records_after_of_welcomes hothers]
    exact (or_iff_right List.not_mem_nil).symm

/-- The announcement in other words: another priority, another time to live and
the address of the host. -/
def reannouncement : Message :=
  #[0, 0, 0x84, 0, 0, 0, 0, 2, 0, 0, 0, 0,
    1, 0x78, 0, 0, 1, 0, 1, 0, 0, 0, 10, 0, 4, 10, 0, 0, 1,
    1, 0x79, 0xc0, 12, 0, 33, 0, 1, 0, 0, 0, 20, 0, 8, 0, 1, 0, 0, 0, 9, 0xc0, 12]

/-- What that message says. -/
def reannounced : Response where
  header := { flags := 0x8400, answers := 2 }
  records := [
    { name := "x.", ttl := 10, data := .a { octets := #v[10, 0, 0, 1] } },
    { name := "y.x.", ttl := 20, data := .srv 1 0 9 "x." }]

theorem decode_reannouncement : Response.decode reannouncement = .ok reannounced := by
  decide +kernel

theorem coherent_announcements : Coherent [announcement, reannouncement] := by
  have hcarried : ∀ record, Carried [announcement, reannouncement] record →
      record ∈ announced.records ++ reannounced.records := by
    rintro record ⟨message, hmem, response, hdecode, hrecord⟩
    simp only [List.mem_cons, List.not_mem_nil, or_false] at hmem
    rcases hmem with rfl | rfl
    · have hannounced : Response.decode announcement = .ok announced := by decide +kernel
      cases hannounced.symm.trans hdecode
      exact List.mem_append_left _ hrecord
    · cases decode_reannouncement.symm.trans hdecode
      exact List.mem_append_right _ hrecord
  constructor
  · exact (Record.agree_of_forall (by decide)).mono hcarried
  · exact (Record.agree_of_forall (by decide)).mono hcarried

/-- The two announcements lead to one instance with one address in either
order. -/
theorem instances_perm_announcements :
    ([announcement, reannouncement].Perm [reannouncement, announcement] ∧
      (start (.internet "x." .ptr)).Welcomes [announcement, reannouncement] ∧
      (start (.internet "x." .ptr)).Welcomes [reannouncement, announcement] ∧
      Coherent [announcement, reannouncement]) ∧
    ((start (.internet "x." .ptr)).after [announcement, reannouncement]).instances =
        ((start (.internet "x." .ptr)).after [reannouncement, announcement]).instances ∧
      { announcedInstance with addresses := .ofList [.v4 { octets := #v[10, 0, 0, 1] }] } ∈
        ((start (.internet "x." .ptr)).after [reannouncement, announcement]).instances := by
  have hfirst : ∃ response, Response.decode announcement = .ok response ∧
      ∃ record ∈ response.records, record.name = "x." :=
    ⟨announced, by decide +kernel, _, List.mem_cons_self, rfl⟩
  have hsecond : ∃ response, Response.decode reannouncement = .ok response ∧
      ∃ record ∈ response.records, record.name = "x." :=
    ⟨reannounced, decode_reannouncement, _, List.mem_cons_self, rfl⟩
  have hperm : [announcement, reannouncement].Perm [reannouncement, announcement] := .swap ..
  have hmessages : (start (.internet "x." .ptr)).Welcomes [announcement, reannouncement] :=
    welcomes_of_initial (List.mem_singleton_self _) (by simpa using ⟨hfirst, hsecond⟩)
  have hothers : (start (.internet "x." .ptr)).Welcomes [reannouncement, announcement] :=
    welcomes_of_initial (List.mem_singleton_self _) (by simpa using ⟨hsecond, hfirst⟩)
  have hinstances := instances_perm hperm hmessages hothers coherent_announcements
  refine ⟨⟨hperm, hmessages, hothers, coherent_announcements⟩, hinstances, ?_⟩
  rw [← hinstances]
  decide +kernel

end Session

end ServiceDiscovery

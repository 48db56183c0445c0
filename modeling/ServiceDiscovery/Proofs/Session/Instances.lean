import ServiceDiscovery.Proofs.Response.Lookups
import ServiceDiscovery.Proofs.Session.Store

/-!
# The instances of a session

Which instances a session has found, and how they change. An instance is found if
a PTR record with the first question's name points to it
(`Session.mem_instances`). The store of a session grows at its end, so a lookup
that has found something finds it ever after, and each instance stays and gets
more complete at most (`Session.instances_grow`).
-/

namespace ServiceDiscovery

namespace Instance

/-- What an instance may become while records are received: it keeps its name, its
port and its addresses, and its attributes unless it has none. -/
structure GrowsInto (found grown : Instance) : Prop where
  name : grown.name = found.name
  port : grown.port = found.port
  addresses : ∀ address ∈ found.addresses.toList, address ∈ grown.addresses.toList
  attributes : found.attributes ≠ .empty → grown.attributes = found.attributes

variable {response other : Response} {target : Name} {found : Instance}

theorem ofRecords?_eq_some_iff :
    ofRecords? target response = some found ↔
      ∃ port host, response.srvFor? target = some (port, host) ∧ found = {
        name := target.userVisible
        addresses := .ofList (response.addressesFor host)
        port
        attributes := (response.txtFor? target).getD .empty } := by
  rw [ofRecords?, Option.map_eq_some_iff]
  constructor
  · rintro ⟨⟨port, host⟩, hfound, rfl⟩
    exact ⟨port, host, hfound, rfl⟩
  · rintro ⟨port, host, hfound, rfl⟩
    exact ⟨(port, host), hfound, rfl⟩

/-- Records that are added behind the others leave an instance or complete it. -/
theorem exists_growsInto_of_prefix (h : response.records <+: other.records)
    (hfound : ofRecords? target response = some found) :
    ∃ grown, ofRecords? target other = some grown ∧ found.GrowsInto grown := by
  obtain ⟨port, host, hlocation, rfl⟩ := ofRecords?_eq_some_iff.mp hfound
  have hstays := Response.srvFor?_of_prefix h hlocation
  refine ⟨_, ofRecords?_eq_some_iff.mpr ⟨port, host, hstays, rfl⟩, rfl, rfl, ?_, ?_⟩
  · intro address hmem
    rw [AddressSet.mem_ofList, Response.mem_addressesFor] at hmem ⊢
    obtain ⟨record, hrecord, haddress⟩ := hmem
    exact ⟨record, h.subset hrecord, haddress⟩
  · intro hne
    -- attributes that are not empty come from a TXT record
    cases hattributes : response.txtFor? target with
    | none => rw [hattributes] at hne; exact absurd rfl hne
    | some attributes => rw [Response.txtFor?_of_prefix h hattributes]

end Instance

namespace Session

variable {session other : Session} {found : Instance}

/-- A PTR record with the first question's name points to `target`. -/
def Announces (session : Session) (target : Name) : Prop :=
  ∃ record ∈ session.records.records, record.name = session.initial.name ∧
    record.data = .ptr target

theorem mem_instances :
    found ∈ session.instances ↔
      ∃ target, session.Announces target ∧
        Instance.ofRecords? target session.records = some found := by
  simp only [instances, Instance.mem_distinct, List.mem_filterMap, List.mem_filter, Prod.exists,
    Response.mem_ptrRecords, decide_eq_true_eq, Announces]
  constructor
  · rintro ⟨name, target, ⟨⟨record, hmem, hname, hdata⟩, rfl⟩, hfound⟩
    exact ⟨target, ⟨record, hmem, hname, hdata⟩, hfound⟩
  · rintro ⟨target, ⟨record, hmem, hname, hdata⟩, hfound⟩
    exact ⟨_, target, ⟨⟨record, hmem, hname, hdata⟩, rfl⟩, hfound⟩

/-- The instances of two sessions are the same if they are so as sets. -/
theorem instances_eq_iff :
    session.instances = other.instances ↔
      ∀ found, found ∈ session.instances ↔ found ∈ other.instances := by
  simp only [instances, Instance.distinct_eq_iff, Instance.mem_distinct]

/-! ## Growth -/

theorem records_prefix_handle (session : Session) (message : Message) :
    session.records.records <+: (session.handle message).2.records.records := by
  obtain hpass | ⟨response, _, hcollect⟩ := handle_cases session message
  · refine ⟨[], ?_⟩
    rw [hpass, List.append_nil]
  · rw [hcollect]
    exact ⟨_, (Response.foldl_addRecord _ _).symm⟩

theorem records_prefix_after (session : Session) (messages : List Message) :
    session.records.records <+: (session.after messages).records.records := by
  induction messages generalizing session with
  | nil => exact List.prefix_rfl
  | cons message rest ih => exact (records_prefix_handle session message).trans (ih _)

/-- The instances of a session only get more complete. Whatever arrives, each of
them stays with its name and its port and keeps the addresses and the attributes
it has. Where a service is and what its attributes are does not change any more
once it is known. -/
theorem instances_grow (session : Session) (messages : List Message) :
    (∀ found ∈ session.instances,
      ∃ grown ∈ (session.after messages).instances, found.GrowsInto grown) ∧
    (∀ target location, session.records.srvFor? target = some location →
      (session.after messages).records.srvFor? target = some location) ∧
    ∀ target attributes, session.records.txtFor? target = some attributes →
      (session.after messages).records.txtFor? target = some attributes := by
  have hprefix := records_prefix_after session messages
  refine ⟨?_, fun _ _ => Response.srvFor?_of_prefix hprefix,
    fun _ _ => Response.txtFor?_of_prefix hprefix⟩
  intro found hmem
  obtain ⟨target, ⟨record, hrecord, hname, hdata⟩, hfound⟩ := mem_instances.mp hmem
  obtain ⟨grown, hgrown, hgrows⟩ := Instance.exists_growsInto_of_prefix hprefix hfound
  have hannounces : (session.after messages).Announces target :=
    ⟨record, hprefix.subset hrecord, by rw [initial_after, hname], hdata⟩
  exact ⟨grown, mem_instances.mpr ⟨target, hannounces, hgrown⟩, hgrows⟩

/-- A message that contradicts the announcement: the service is on another port of
another host and has another attribute. It also tells an address of the host that
was announced. -/
def counterAnnouncement : Message :=
  #[0, 0, 0x84, 0, 0, 0, 0, 3, 0, 0, 0, 0,
    1, 0x78, 0, 0, 1, 0, 1, 0, 0, 0, 10, 0, 4, 10, 0, 0, 1,
    1, 0x79, 0xc0, 12, 0, 33, 0, 1, 0, 0, 0, 10, 0, 8, 0, 0, 0, 0, 0, 8, 0xc0, 29,
    0xc0, 29, 0, 16, 0, 1, 0, 0, 0, 10, 0, 4, 3, 0x6b, 0x3d, 0x77]

/-- What the announcement tells of its instance. -/
def announcedInstance : Instance where
  name := "y"
  addresses := .empty
  port := 9
  attributes := .ofList [("k", "v")]

/-- The message adds the address and changes nothing else. -/
theorem instances_grow_contradicted :
    (announcedInstance ∈ ((start (.internet "x." .ptr)).after [announcement]).instances ∧
      announcedInstance.GrowsInto
        { announcedInstance with addresses := .ofList [.v4 { octets := #v[10, 0, 0, 1] }] }) ∧
    (((start (.internet "x." .ptr)).after [announcement]).records.srvFor? "y.x." =
        some (9, "x.") ∧
      (((start (.internet "x." .ptr)).after [announcement]).after
        [counterAnnouncement]).records.srvFor? "y.x." = some (9, "x.")) ∧
    ((start (.internet "x." .ptr)).after [announcement]).records.txtFor? "y.x." =
        some (.ofList [("k", "v")]) ∧
      (((start (.internet "x." .ptr)).after [announcement]).after
        [counterAnnouncement]).records.txtFor? "y.x." = some (.ofList [("k", "v")]) := by
  have hfound : announcedInstance ∈
      ((start (.internet "x." .ptr)).after [announcement]).instances := by decide +kernel
  have hlater : (((start (.internet "x." .ptr)).after [announcement]).after
      [counterAnnouncement]).instances =
        [{ announcedInstance with addresses := .ofList [.v4 { octets := #v[10, 0, 0, 1] }] }] := by
    decide +kernel
  have hlocation : ((start (.internet "x." .ptr)).after [announcement]).records.srvFor? "y.x." =
      some (9, "x.") := by decide +kernel
  have hattributes : ((start (.internet "x." .ptr)).after [announcement]).records.txtFor? "y.x." =
      some (.ofList [("k", "v")]) := by decide +kernel
  obtain ⟨hinstances, hlocations, hall⟩ :=
    instances_grow ((start (.internet "x." .ptr)).after [announcement]) [counterAnnouncement]
  obtain ⟨grown, hmem, hgrows⟩ := hinstances announcedInstance hfound
  rw [hlater, List.mem_singleton] at hmem
  exact ⟨⟨hfound, hmem ▸ hgrows⟩, ⟨hlocation, hlocations _ _ hlocation⟩,
    hattributes, hall _ _ hattributes⟩

end Session

end ServiceDiscovery

import ServiceDiscovery.Proofs.Message.Extent
import ServiceDiscovery.Proofs.Session.Instances

/-!
# Instances and unrelated records

An instance is made of few records: those that locate and describe its service
(`Response.describing`) and the address records of the host that the first of them
names (`Response.FirstHost`). Responses that agree on these give the same instance,
whatever else they have and wherever it stands, and a message that has none of them
does not change it (`Instance.ofRecords?_isolated`).
-/

namespace ServiceDiscovery

namespace Response

variable {α : Type} {project : RecordData → Option α} {response other : Response}
  {name target host : Name}

/-- The SRV and TXT records with a name, in their order. -/
def describing (response : Response) (name : Name) : List Record :=
  response.records.filter fun record =>
    record.name = name ∧ (record.type = .srv ∨ record.type = .txt)

/-- The first SRV record among some records names `host`. -/
def FirstHost (records : List Record) (host : Name) : Prop :=
  ∃ before first after priority weight port, records = before ++ first :: after ∧
    (∀ record ∈ before, record.type ≠ .srv) ∧ first.data = .srv priority weight port host

/-- An A or AAAA record with the name of a host has this address. -/
def Tells (response : Response) (host : Name) (address : Address) : Prop :=
  ∃ record ∈ response.records, record.name = host ∧ record.data.address? = some address

/-- The responses have the same SRV and TXT records with the name `target` in the same
order, and the same addresses for the host that the first of these SRV records
names. -/
structure AgreesOn (response other : Response) (target : Name) : Prop where
  describing : response.describing target = other.describing target
  addresses : ∀ host, FirstHost (response.describing target) host →
    ∀ address, response.Tells host address ↔ other.Tells host address

/-- The response has no SRV or TXT record with the name `target`, and no address
record with the name of the host that `known` locates the service on. -/
structure SilentOn (response known : Response) (target : Name) : Prop where
  service : ∀ record ∈ response.records, record.name = target →
    record.type ≠ .srv ∧ record.type ≠ .txt
  addresses : ∀ host, FirstHost (known.describing target) host →
    ∀ record ∈ response.records, record.name = host →
      record.type ≠ .a ∧ record.type ≠ .aaaa

/-! ## Lookups of services -/

/-- To look up what only SRV or TXT records say it is enough to look at these. -/
theorem findSome?_describing
    (hproject : ∀ data, project data ≠ none → data.type = .srv ∨ data.type = .txt) :
    (response.describing name).findSome? (project ·.data) =
      (response.recordsFor name).findSome? (project ·.data) := by
  rw [findSome?_recordsFor, describing, ← List.head?_filterMap, List.filterMap_filter,
    List.head?_filterMap]
  congr 1
  -- what a record of another kind says is nothing to `project`
  funext record
  by_cases hname : record.name = name
  · by_cases htold : project record.data = none
    · simp [htold]
    · have htype : record.type = .srv ∨ record.type = .txt := hproject _ htold
      simp [hname, htype]
  · simp [hname]

theorem srvFor?_eq_findSome?_describing :
    response.srvFor? name = (response.describing name).findSome? (·.data.location?) := by
  refine (findSome?_describing fun data htold => ?_).symm
  cases data <;> simp_all [RecordData.location?, RecordData.type]

theorem txtFor?_eq_findSome?_describing :
    response.txtFor? name = (response.describing name).findSome? (·.data.attributes?) := by
  refine (findSome?_describing fun data htold => ?_).symm
  cases data <;> simp_all [RecordData.attributes?, RecordData.type]

theorem firstHost_describing_iff :
    FirstHost (response.describing name) host ↔
      ∃ port, response.srvFor? name = some (port, host) := by
  simp only [srvFor?_eq_findSome?_describing, List.findSome?_eq_some_iff, location?_eq_some_iff,
    location?_eq_none_iff, FirstHost]
  constructor
  · rintro ⟨before, first, after, priority, weight, port, hsplit, hbefore, hdata⟩
    exact ⟨port, before, first, after, hsplit, ⟨priority, weight, hdata⟩, hbefore⟩
  · rintro ⟨port, before, first, after, hsplit, ⟨priority, weight, hdata⟩, hbefore⟩
    exact ⟨before, first, after, priority, weight, port, hsplit, hbefore, hdata⟩

/-! ## Responses that agree -/

theorem AgreesOn.ofRecords?_eq (h : response.AgreesOn other target) :
    Instance.ofRecords? target response = Instance.ofRecords? target other := by
  apply Instance.ofRecords?_congr
  · rw [srvFor?_eq_findSome?_describing, h.describing, ← srvFor?_eq_findSome?_describing]
  · rw [txtFor?_eq_findSome?_describing, h.describing, ← txtFor?_eq_findSome?_describing]
  · intro port host hlocation address
    have hhost : FirstHost (response.describing target) host :=
      firstHost_describing_iff.mpr ⟨port, hlocation⟩
    rw [mem_addressesFor, mem_addressesFor]
    exact h.addresses host hhost address

theorem describing_merge (h : other.SilentOn response target) :
    (response.merge other).describing target = response.describing target := by
  have hnone : (fresh response.records other.records).filter (fun record =>
      record.name = target ∧ (record.type = .srv ∨ record.type = .txt)) = [] := by
    refine List.filter_eq_nil_iff.mpr fun record hmem => ?_
    have hrecord : record ∈ other.records :=
      (List.mem_filter.mp (List.mem_eraseDups.mp hmem)).1
    have hsilent := h.service record hrecord
    simp only [decide_eq_true_eq]
    rintro ⟨hname, hsrv | htxt⟩
    · exact (hsilent hname).1 hsrv
    · exact (hsilent hname).2 htxt
  rw [describing, records_merge, List.filter_append, hnone, List.append_nil]
  rfl

/-- What is silent on a service leaves no trace in what is known of it. -/
theorem SilentOn.agreesOn_merge (h : other.SilentOn response target) :
    (response.merge other).AgreesOn response target where
  describing := describing_merge h
  addresses host hhost address := by
    rw [describing_merge h] at hhost
    constructor
    · rintro ⟨record, hmem, hname, haddress⟩
      rcases mem_merge.mp hmem with hold | hadded
      · exact ⟨record, hold, hname, haddress⟩
      · -- an address record of the host would have broken the silence
        have hsilent := h.addresses host hhost record hadded hname
        cases hdata : record.data <;>
          simp_all [RecordData.address?, Record.type, RecordData.type]
    · rintro ⟨record, hmem, hname, haddress⟩
      exact ⟨record, subset_merge hmem, hname, haddress⟩

end Response

namespace Instance

/-- Responses give the same instance, or none, if they agree on its service and on
the addresses of its host. So a message that is silent on these leaves the instance
as it is, whatever else it carries. -/
theorem ofRecords?_isolated :
    (∀ target (response other : Response), response.AgreesOn other target →
      ofRecords? target response = ofRecords? target other) ∧
    ∀ target (session : Session) message,
      (∀ response, Response.decode message = .ok response →
        response.SilentOn session.records target) →
      ofRecords? target (session.handle message).2.records =
        ofRecords? target session.records := by
  refine ⟨fun _ _ _ h => h.ofRecords?_eq, ?_⟩
  intro target session message hsilent
  obtain hpass | ⟨response, hdecode, hcollect⟩ := Session.handle_cases session message
  · rw [hpass]
  · rw [hcollect]
    exact (hsilent response hdecode).agreesOn_merge.ofRecords?_eq

/-- The addresses of hosts in one network. -/
def hostAddress (last : UInt8) : Ipv4 where
  octets := #v[10, 0, 0, last]

/-- A service on a host with two addresses. -/
def described : Response where
  records := [
    { name := "y.x.", ttl := 10, data := .srv 0 0 9 "x." },
    { name := "y.x.", ttl := 10, data := .txt (.ofList [("k", "v")]) },
    { name := "x.", ttl := 10, data := .a (hostAddress 1) },
    { name := "x.", ttl := 10, data := .a (hostAddress 2) }]

/-- The same service among others. There is an address under its own name, and its
host has a service too. -/
def crowded : Response where
  records := [
    { name := "x.", ttl := 20, data := .a (hostAddress 2) },
    { name := "x.", ttl := 10, data := .srv 0 0 8 "z." },
    { name := "y.x.", ttl := 10, data := .a (hostAddress 3) },
    { name := "y.x.", ttl := 10, data := .srv 0 0 9 "x." },
    { name := "x.", ttl := 10, data := .a (hostAddress 1) },
    { name := "y.x.", ttl := 10, data := .txt (.ofList [("k", "v")]) },
    { name := "x.", ttl := 30, data := .a (hostAddress 1) },
    { name := "z.", ttl := 10, data := .aaaa .loopback }]

theorem described_agreesOn_crowded : described.AgreesOn crowded "y.x." where
  describing := by decide
  addresses host hhost address := by
    obtain ⟨port, hlocation⟩ := Response.firstHost_describing_iff.mp hhost
    have hfound : described.srvFor? "y.x." = some (9, "x.") := by decide
    cases hfound.symm.trans hlocation
    have hsets : AddressSet.ofList (described.addressesFor "x.") =
        AddressSet.ofList (crowded.addressesFor "x.") := by decide +kernel
    have hsame := AddressSet.ofList_eq_iff.mp hsets address
    rwa [Response.mem_addressesFor, Response.mem_addressesFor] at hsame

/-- A message that announces another instance, and an address under the name of the
one that was announced. -/
def neighbour : Message :=
  #[0, 0, 0x84, 0, 0, 0, 0, 3, 0, 0, 0, 0,
    1, 0x78, 0, 0, 12, 0, 1, 0, 0, 0, 10, 0, 4, 1, 0x7a, 0xc0, 12,
    0xc0, 25, 0, 33, 0, 1, 0, 0, 0, 10, 0, 8, 0, 0, 0, 0, 0, 7, 0xc0, 25,
    1, 0x79, 0xc0, 12, 0, 1, 0, 1, 0, 0, 0, 10, 0, 4, 10, 0, 0, 2]

/-- What that message says. -/
def neighbourResponse : Response where
  header := { flags := 0x8400, answers := 3 }
  records := [
    { name := "x.", ttl := 10, data := .ptr "z.x." },
    { name := "z.x.", ttl := 10, data := .srv 0 0 7 "z.x." },
    { name := "y.x.", ttl := 10, data := .a (hostAddress 2) }]

/-- The session behind the announcement. -/
def announcedSession : Session :=
  (Session.start (.internet "x." .ptr)).after [announcement]

theorem neighbour_silentOn :
    neighbourResponse.SilentOn announcedSession.records "y.x." where
  service := by decide
  addresses host hhost := by
    obtain ⟨port, hlocation⟩ := Response.firstHost_describing_iff.mp hhost
    have hfound : announcedSession.records.srvFor? "y.x." = some (9, "x.") := by decide +kernel
    cases hfound.symm.trans hlocation
    decide

/-- The service is told from those around it, and another instance that is announced
leaves it as it is. -/
theorem ofRecords?_isolated_neighbour :
    (described.AgreesOn crowded "y.x." ∧
      ofRecords? "y.x." described = ofRecords? "y.x." crowded) ∧
    (∀ response, Response.decode neighbour = .ok response →
      response.SilentOn announcedSession.records "y.x.") ∧
    ofRecords? "y.x." (announcedSession.handle neighbour).2.records =
      some Session.announcedInstance := by
  have hsilent : ∀ response, Response.decode neighbour = .ok response →
      response.SilentOn announcedSession.records "y.x." := by
    intro response hdecode
    have hneighbour : Response.decode neighbour = .ok neighbourResponse :=
      Response.decode_eq_ok_iff.mpr ⟨neighbour.size, by decide +kernel⟩
    cases hneighbour.symm.trans hdecode
    exact neighbour_silentOn
  have hknown : ofRecords? "y.x." announcedSession.records = some Session.announcedInstance := by
    decide +kernel
  exact ⟨⟨described_agreesOn_crowded, ofRecords?_isolated.1 _ _ _ described_agreesOn_crowded⟩,
    hsilent, (ofRecords?_isolated.2 _ _ _ hsilent).trans hknown⟩

end Instance

end ServiceDiscovery

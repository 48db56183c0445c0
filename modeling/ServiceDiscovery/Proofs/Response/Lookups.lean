import ServiceDiscovery.Proofs.Ordered.Sets
import ServiceDiscovery.Proofs.Response.Knowledge

/-!
# What lookups find

A lookup takes the first record that has the name and something to say. What it
finds lasts when records are added behind the others
(`Response.findSome?_recordsFor_of_prefix`). Where records with one name agree
(`Record.Agree`) it does not matter which of them is the first, so that what is
found depends on which records there are and not on their order
(`Response.findSome?_recordsFor_congr`). An instance depends on the lookups and
on nothing else (`Instance.ofRecords?_congr`).
-/

namespace ServiceDiscovery

variable {α : Type} {project : RecordData → Option α}

/-- Records of a kind that have the same name say the same, as far as `project`
tells what they say. -/
def Record.Agree (project : RecordData → Option α) (holds : Record → Prop) : Prop :=
  ∀ record other value wanted, holds record → holds other → record.name = other.name →
    project record.data = some value → project other.data = some wanted → value = wanted

theorem Record.agree_of_forall {records : List Record}
    (h : ∀ record ∈ records, ∀ other ∈ records, record.name = other.name →
      ∀ value ∈ project record.data, ∀ wanted ∈ project other.data, value = wanted) :
    Agree project (· ∈ records) := by
  intro record other value wanted hrecord hother hname hvalue hwanted
  exact h record hrecord other hother hname value hvalue wanted hwanted

theorem Record.Agree.mono {holds stronger : Record → Prop} (h : Agree project holds)
    (himp : ∀ record, stronger record → holds record) : Agree project stronger := by
  intro record other value wanted hrecord hother
  exact h record other value wanted (himp record hrecord) (himp other hother)

namespace Response

variable {response other : Response} {name : Name}

theorem mem_recordsFor {record : Record} :
    record ∈ response.recordsFor name ↔ record ∈ response.records ∧ record.name = name := by
  simp [recordsFor]

theorem mem_addressesFor {address : Address} :
    address ∈ response.addressesFor name ↔
      ∃ record ∈ response.records, record.name = name ∧ record.data.address? = some address := by
  simp only [addressesFor, List.mem_filterMap, mem_recordsFor, and_assoc]

/-! ## Records that are added behind the others -/

theorem findSome?_recordsFor_of_prefix {value : α} (h : response.records <+: other.records)
    (hfound : (response.recordsFor name).findSome? (project ·.data) = some value) :
    (other.recordsFor name).findSome? (project ·.data) = some value :=
  (h.filter _).findSome?_eq_some hfound

theorem srvFor?_of_prefix {location : UInt16 × Name} (h : response.records <+: other.records)
    (hfound : response.srvFor? name = some location) : other.srvFor? name = some location :=
  findSome?_recordsFor_of_prefix h hfound

theorem txtFor?_of_prefix {attributes : Attributes} (h : response.records <+: other.records)
    (hfound : response.txtFor? name = some attributes) : other.txtFor? name = some attributes :=
  findSome?_recordsFor_of_prefix h hfound

/-! ## Records that agree -/

/-- What is found among records that agree is what any of them says. -/
theorem findSome?_recordsFor_eq_some_iff {value : α}
    (h : Record.Agree project (· ∈ response.records)) :
    (response.recordsFor name).findSome? (project ·.data) = some value ↔
      ∃ record ∈ response.records, record.name = name ∧ project record.data = some value := by
  constructor
  · intro hfound
    obtain ⟨record, hmem, hvalue⟩ := List.exists_of_findSome?_eq_some hfound
    obtain ⟨hrecord, hname⟩ := mem_recordsFor.mp hmem
    exact ⟨record, hrecord, hname, hvalue⟩
  · rintro ⟨record, hrecord, hname, hvalue⟩
    have hsome : ((response.recordsFor name).findSome? (project ·.data)).isSome := by
      rw [List.findSome?_isSome_iff]
      exact ⟨record, mem_recordsFor.mpr ⟨hrecord, hname⟩, by rw [hvalue]; rfl⟩
    obtain ⟨wanted, hfound⟩ := Option.isSome_iff_exists.mp hsome
    obtain ⟨first, hmem, hwanted⟩ := List.exists_of_findSome?_eq_some hfound
    obtain ⟨hfirst, hsame⟩ := mem_recordsFor.mp hmem
    rw [hfound, h first record wanted value hfirst hrecord (hsame.trans hname.symm) hwanted hvalue]

theorem findSome?_recordsFor_congr (h : Record.Agree project (· ∈ response.records))
    (hmem : ∀ record, record ∈ response.records ↔ record ∈ other.records) :
    (response.recordsFor name).findSome? (project ·.data) =
      (other.recordsFor name).findSome? (project ·.data) := by
  have hother : Record.Agree project (· ∈ other.records) :=
    h.mono fun record => (hmem record).mpr
  ext value
  simp only [findSome?_recordsFor_eq_some_iff h, findSome?_recordsFor_eq_some_iff hother, hmem]

end Response

/-! ## Instances -/

/-- An instance is made of where the service is, of its attributes and of the set
of addresses of its host. -/
theorem Instance.ofRecords?_congr {response other : Response} {target : Name}
    (hlocation : response.srvFor? target = other.srvFor? target)
    (hattributes : response.txtFor? target = other.txtFor? target)
    (haddresses : ∀ port host, response.srvFor? target = some (port, host) →
      ∀ address, address ∈ response.addressesFor host ↔ address ∈ other.addressesFor host) :
    ofRecords? target response = ofRecords? target other := by
  rw [ofRecords?, ofRecords?, ← hlocation, ← hattributes]
  refine Option.map_congr ?_
  rintro ⟨port, host⟩ hfound
  have hsets := AddressSet.ofList_eq_iff.mpr (haddresses port host hfound)
  simp only [hsets]

end ServiceDiscovery

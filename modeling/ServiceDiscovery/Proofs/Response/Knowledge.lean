import ServiceDiscovery.Response

/-!
# What collected records tell

Predicates on the records of a `Response` that do not depend on their order:
`Response.PointsTo` and `Response.Locates` say what PTR and SRV records refer
to, `Response.Has` that a record of a type is there. `Response.LeadsTo` and
`Response.Settles` say of a question that the records give reason to ask it, and
that they answer it already. All of them last when records are added. The lookups of
a response are described in these terms.
-/

namespace ServiceDiscovery

namespace Response

/-- A PTR record points to `target`. -/
def PointsTo (response : Response) (target : Name) : Prop :=
  ∃ record ∈ response.records, record.data = .ptr target

/-- An SRV record locates a service on `host`. -/
def Locates (response : Response) (host : Name) : Prop :=
  ∃ record ∈ response.records, ∃ priority weight port,
    record.data = .srv priority weight port host

/-- There is a record with a name and of a type. -/
def Has (response : Response) (name : Name) (type : RecordType) : Prop :=
  ∃ record ∈ response.records, record.name = name ∧ record.type = type

/-- The records refer to what a question asks for: where the service is that a
PTR record points to and what its attributes are, or which addresses the host
has that an SRV record names. -/
inductive LeadsTo (response : Response) : Question → Prop where
  | location {target : Name} (h : response.PointsTo target) :
      LeadsTo response (.internet target .srv)
  | attributes {target : Name} (h : response.PointsTo target) :
      LeadsTo response (.internet target .txt)
  | ipv4 {host : Name} (h : response.Locates host) :
      LeadsTo response (.internet host .a)
  | ipv6 {host : Name} (h : response.Locates host) :
      LeadsTo response (.internet host .aaaa)

/-- The records answer a question about a service or a host. An address of
either family is enough for a host. -/
def Settles (response : Response) (question : Question) : Prop :=
  match question.type with
  | .srv => response.Has question.name .srv
  | .txt => response.Has question.name .txt
  | .a | .aaaa => response.Has question.name .a ∨ response.Has question.name .aaaa
  | _ => False

variable {response other : Response}

/-! ## Records that are added -/

theorem mem_addRecord {records : List Record} {record added : Record} :
    record ∈ addRecord records added ↔ record ∈ records ∨ record = added := by
  unfold addRecord
  by_cases h : added ∈ records
  · rw [if_pos h]
    constructor
    · exact Or.inl
    · rintro (hold | rfl)
      · exact hold
      · exact h
  · simp [if_neg h]

theorem mem_foldl_addRecord {records added : List Record} {record : Record} :
    record ∈ added.foldl addRecord records ↔ record ∈ records ∨ record ∈ added := by
  induction added generalizing records with
  | nil => simp
  | cons first rest ih => rw [List.foldl_cons, ih, mem_addRecord, List.mem_cons, or_assoc]

@[simp] theorem mem_merge {record : Record} :
    record ∈ (response.merge other).records ↔
      record ∈ response.records ∨ record ∈ other.records :=
  mem_foldl_addRecord

theorem subset_merge : response.records ⊆ (response.merge other).records :=
  fun _ h => mem_merge.mpr (Or.inl h)

theorem PointsTo.mono {target : Name} (hsub : response.records ⊆ other.records)
    (h : response.PointsTo target) : other.PointsTo target := by
  obtain ⟨record, hmem, hdata⟩ := h
  exact ⟨record, hsub hmem, hdata⟩

theorem Locates.mono {host : Name} (hsub : response.records ⊆ other.records)
    (h : response.Locates host) : other.Locates host := by
  obtain ⟨record, hmem, hdata⟩ := h
  exact ⟨record, hsub hmem, hdata⟩

theorem Has.mono {name : Name} {type : RecordType} (hsub : response.records ⊆ other.records)
    (h : response.Has name type) : other.Has name type := by
  obtain ⟨record, hmem, hrecord⟩ := h
  exact ⟨record, hsub hmem, hrecord⟩

theorem LeadsTo.mono {question : Question} (hsub : response.records ⊆ other.records)
    (h : response.LeadsTo question) : other.LeadsTo question := by
  cases h with
  | location h => exact .location (h.mono hsub)
  | attributes h => exact .attributes (h.mono hsub)
  | ipv4 h => exact .ipv4 (h.mono hsub)
  | ipv6 h => exact .ipv6 (h.mono hsub)

theorem Settles.mono {question : Question} (hsub : response.records ⊆ other.records)
    (h : response.Settles question) : other.Settles question := by
  unfold Settles at h ⊢
  split at h
  · exact h.mono hsub
  · exact h.mono hsub
  · exact h.imp (·.mono hsub) (·.mono hsub)
  · exact h.imp (·.mono hsub) (·.mono hsub)
  · exact h.elim

theorem leadsTo_srv {target : Name} :
    response.LeadsTo (.internet target .srv) ↔ response.PointsTo target :=
  ⟨fun | .location h => h, .location⟩

theorem leadsTo_txt {target : Name} :
    response.LeadsTo (.internet target .txt) ↔ response.PointsTo target :=
  ⟨fun | .attributes h => h, .attributes⟩

theorem leadsTo_a {host : Name} :
    response.LeadsTo (.internet host .a) ↔ response.Locates host :=
  ⟨fun | .ipv4 h => h, .ipv4⟩

theorem leadsTo_aaaa {host : Name} :
    response.LeadsTo (.internet host .aaaa) ↔ response.Locates host :=
  ⟨fun | .ipv6 h => h, .ipv6⟩

theorem not_leadsTo_empty (question : Question) : ¬({} : Response).LeadsTo question := by
  intro h
  cases h with
  | location h | attributes h | ipv4 h | ipv6 h =>
    obtain ⟨record, hmem, _⟩ := h
    exact List.not_mem_nil hmem

/-! ## Lookups -/

theorem ptrTarget?_eq_some_iff {data : RecordData} {target : Name} :
    data.ptrTarget? = some target ↔ data = .ptr target := by
  cases data <;> simp [RecordData.ptrTarget?]

theorem location?_eq_some_iff {data : RecordData} {port : UInt16} {host : Name} :
    data.location? = some (port, host) ↔
      ∃ priority weight, data = .srv priority weight port host := by
  cases data <;> simp [RecordData.location?]

theorem location?_eq_none_iff {data : RecordData} :
    data.location? = none ↔ data.type ≠ .srv := by
  cases data <;> simp [RecordData.location?, RecordData.type]

theorem mem_ptrRecords {name target : Name} :
    (name, target) ∈ response.ptrRecords ↔
      ∃ record ∈ response.records, record.name = name ∧ record.data = .ptr target := by
  simp only [ptrRecords, List.mem_filterMap, Option.map_eq_some_iff, ptrTarget?_eq_some_iff,
    Prod.mk.injEq]
  constructor
  · rintro ⟨record, hmem, found, hdata, hname, rfl⟩
    exact ⟨record, hmem, hname, hdata⟩
  · rintro ⟨record, hmem, hname, hdata⟩
    exact ⟨record, hmem, target, hdata, hname, rfl⟩

theorem exists_mem_ptrRecords {target : Name} :
    (∃ name, (name, target) ∈ response.ptrRecords) ↔ response.PointsTo target := by
  simp only [mem_ptrRecords]
  constructor
  · rintro ⟨name, record, hmem, -, hdata⟩
    exact ⟨record, hmem, hdata⟩
  · rintro ⟨record, hmem, hdata⟩
    exact ⟨record.name, record, hmem, rfl, hdata⟩

theorem mem_srvTargets {host : Name} :
    host ∈ response.srvTargets ↔ response.Locates host := by
  simp only [srvTargets, List.mem_filterMap, Option.map_eq_some_iff]
  constructor
  · rintro ⟨record, hmem, ⟨port, host⟩, hfound, rfl⟩
    obtain ⟨priority, weight, hdata⟩ := location?_eq_some_iff.mp hfound
    exact ⟨record, hmem, priority, weight, port, hdata⟩
  · rintro ⟨record, hmem, priority, weight, port, hdata⟩
    exact ⟨record, hmem, (port, host), by rw [hdata]; rfl, rfl⟩

theorem isSome_findSome?_recordsFor {α : Type} {project : RecordData → Option α}
    {type : RecordType} (hproject : ∀ data, (project data).isSome ↔ data.type = type)
    {name : Name} :
    ((response.recordsFor name).findSome? (project ·.data)).isSome ↔
      response.Has name type := by
  simp [recordsFor, Has, Record.type, hproject, and_assoc]

theorem hasSrvFor_iff {name : Name} : response.hasSrvFor name ↔ response.Has name .srv :=
  isSome_findSome?_recordsFor fun data => by
    cases data <;> simp [RecordData.location?, RecordData.type]

theorem hasTxtFor_iff {name : Name} : response.hasTxtFor name ↔ response.Has name .txt :=
  isSome_findSome?_recordsFor fun data => by
    cases data <;> simp [RecordData.attributes?, RecordData.type]

theorem hasAddressFor_iff {name : Name} :
    response.hasAddressFor name ↔ response.Has name .a ∨ response.Has name .aaaa := by
  have hdata : ∀ data : RecordData,
      data.address? ≠ none ↔ data.type = .a ∨ data.type = .aaaa := by
    intro data
    cases data <;> simp [RecordData.address?, RecordData.type]
  have hempty : response.hasAddressFor name ↔
      ∃ record ∈ response.records, record.name = name ∧ record.data.address? ≠ none := by
    simp [hasAddressFor, addressesFor, recordsFor, List.filterMap_eq_nil_iff]
  rw [hempty]
  constructor
  · rintro ⟨record, hmem, hname, haddress⟩
    rcases (hdata record.data).mp haddress with htype | htype
    · exact Or.inl ⟨record, hmem, hname, htype⟩
    · exact Or.inr ⟨record, hmem, hname, htype⟩
  · rintro (⟨record, hmem, hname, htype⟩ | ⟨record, hmem, hname, htype⟩)
    · exact ⟨record, hmem, hname, (hdata record.data).mpr (Or.inl htype)⟩
    · exact ⟨record, hmem, hname, (hdata record.data).mpr (Or.inr htype)⟩

end Response

end ServiceDiscovery

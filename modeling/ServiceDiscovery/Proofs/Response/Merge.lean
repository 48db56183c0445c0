import ServiceDiscovery.Proofs.Response.Lookups

/-!
# Merging responses

Merging adds the records that a response lacks, each where it comes first
(`Response.fresh`), so it does not matter how responses are grouped when they are
merged, and what is merged once is not added again. Lookups ask one response after
the other: what is found in a merged response is what the first of the two tells or
else what the second does. `Response.merge_laws` states this together.
-/

namespace ServiceDiscovery

namespace Response

/-- The records that are not among the known ones, each where it comes first. -/
def fresh (known records : List Record) : List Record :=
  (records.filter (· ∉ known)).eraseDups

variable {α : Type} {project : RecordData → Option α} {known records : List Record}
  {record : Record} {response other third : Response} {name : Name}

/-! ## Records that are added -/

theorem fresh_cons_of_mem {rest : List Record} (h : record ∈ known) :
    fresh known (record :: rest) = fresh known rest := by
  simp [fresh, h]

theorem fresh_cons_of_not_mem {rest : List Record} (h : record ∉ known) :
    fresh known (record :: rest) = record :: fresh (known ++ [record]) rest := by
  rw [fresh, fresh, List.filter_cons_of_pos (by simpa using h), List.eraseDups_cons,
    List.filter_filter]
  congr 2
  apply List.filter_congr
  intro other _
  rw [Bool.eq_iff_iff]
  simp [and_comm]

theorem foldl_addRecord (known records : List Record) :
    records.foldl addRecord known = known ++ fresh known records := by
  induction records generalizing known with
  | nil => simp [fresh]
  | cons record rest ih =>
    rw [List.foldl_cons, ih, addRecord]
    by_cases h : record ∈ known
    · rw [if_pos h, fresh_cons_of_mem h]
    · rw [if_neg h, fresh_cons_of_not_mem h, List.append_assoc, List.singleton_append]

theorem nodup_foldl_addRecord (h : known.Nodup) : (records.foldl addRecord known).Nodup := by
  induction records generalizing known with
  | nil => exact h
  | cons record rest ih =>
    rw [List.foldl_cons]
    apply ih
    rw [addRecord]
    split
    · exact h
    · rename_i hnew
      refine List.nodup_append.mpr ⟨h, List.pairwise_singleton _ record, ?_⟩
      intro known hknown added hadded heq
      rw [List.mem_singleton] at hadded
      exact hnew (hadded ▸ heq ▸ hknown)

/-- Records that are known need not be added, so those that are new to a part of the
known ones are enough. -/
theorem foldl_addRecord_fresh {all : List Record} (h : known ⊆ all) :
    (fresh known records).foldl addRecord all = records.foldl addRecord all := by
  -- both lists grow by the same records, so `known` stays a part of `all`
  induction records generalizing known all with
  | nil => simp [fresh]
  | cons record rest ih =>
    by_cases hmem : record ∈ known
    · rw [fresh_cons_of_mem hmem, ih h, List.foldl_cons, addRecord, if_pos (h hmem)]
    · rw [fresh_cons_of_not_mem hmem, List.foldl_cons, List.foldl_cons]
      apply ih
      intro added hadded
      rw [List.mem_append, List.mem_singleton] at hadded
      exact mem_addRecord.mpr (hadded.imp_left (h ·))

/-! ## Merging several responses -/

theorem records_merge (response other : Response) :
    (response.merge other).records =
      response.records ++ fresh response.records other.records :=
  foldl_addRecord _ _

/-- Nothing is added of records that are there. -/
theorem merge_of_subset (h : other.records ⊆ response.records) :
    response.merge other = response := by
  have hfresh : fresh response.records other.records = [] := by
    have hnone : other.records.filter (· ∉ response.records) = [] :=
      List.filter_eq_nil_iff.mpr fun record hmem => by simpa using h hmem
    rw [fresh, hnone]
    rfl
  rw [merge, foldl_addRecord, hfresh, List.append_nil]

theorem merge_merge_self (response other : Response) :
    (response.merge other).merge other = response.merge other :=
  merge_of_subset fun _ hmem => mem_merge.mpr (Or.inr hmem)

theorem merge_assoc (response other third : Response) :
    (response.merge other).merge third = response.merge (other.merge third) := by
  have hrecords : third.records.foldl addRecord (response.merge other).records =
      (other.merge third).records.foldl addRecord response.records := by
    have hsubset : other.records ⊆ (response.merge other).records :=
      fun _ hmem => mem_merge.mpr (Or.inr hmem)
    rw [records_merge other third, List.foldl_append]
    exact (foldl_addRecord_fresh hsubset).symm
  rw [merge, hrecords]
  rfl

/-! ## What is found in merged responses -/

theorem findSome?_addRecord {f : Record → Option α} :
    (addRecord known record).findSome? f = (known.findSome? f).or (f record) := by
  rw [addRecord]
  split
  · -- a record that is known has nothing to say if nothing was found
    rename_i hmem
    cases hfound : known.findSome? f with
    | some value => rfl
    | none => rw [List.findSome?_eq_none_iff.mp hfound record hmem]; rfl
  · rw [List.findSome?_append, List.findSome?_singleton]

theorem findSome?_foldl_addRecord {f : Record → Option α} :
    (records.foldl addRecord known).findSome? f =
      (known.findSome? f).or (records.findSome? f) := by
  induction records generalizing known with
  | nil => rw [List.foldl_nil, List.findSome?_nil, Option.or_none]
  | cons record rest ih =>
    have hrest : (record :: rest).findSome? f = (f record).or (rest.findSome? f) := by
      rw [List.findSome?_cons]
      cases f record <;> rfl
    rw [List.foldl_cons, ih, findSome?_addRecord, hrest, Option.or_assoc]

theorem findSome?_recordsFor :
    (response.recordsFor name).findSome? (project ·.data) =
      response.records.findSome? fun record =>
        if record.name = name then project record.data else none := by
  rw [recordsFor, ← List.head?_filterMap, List.filterMap_filter, List.head?_filterMap]
  simp only [decide_eq_true_eq]

theorem findSome?_recordsFor_merge :
    ((response.merge other).recordsFor name).findSome? (project ·.data) =
      ((response.recordsFor name).findSome? (project ·.data)).or
        ((other.recordsFor name).findSome? (project ·.data)) := by
  simp only [findSome?_recordsFor]
  exact findSome?_foldl_addRecord

theorem srvFor?_merge :
    (response.merge other).srvFor? name = (response.srvFor? name).or (other.srvFor? name) :=
  findSome?_recordsFor_merge

theorem txtFor?_merge :
    (response.merge other).txtFor? name = (response.txtFor? name).or (other.txtFor? name) :=
  findSome?_recordsFor_merge

theorem mem_addressesFor_merge {address : Address} :
    address ∈ (response.merge other).addressesFor name ↔
      address ∈ response.addressesFor name ∨ address ∈ other.addressesFor name := by
  simp only [mem_addressesFor, mem_merge, or_and_right, exists_or]

theorem hasAddressFor_iff_exists :
    response.hasAddressFor name ↔ ∃ address, address ∈ response.addressesFor name := by
  simp only [hasAddressFor, decide_eq_true_eq, ne_eq, List.eq_nil_iff_forall_not_mem,
    Classical.not_forall, Classical.not_not]

theorem hasAddressFor_merge :
    (response.merge other).hasAddressFor name ↔
      response.hasAddressFor name ∨ other.hasAddressFor name := by
  simp only [hasAddressFor_iff_exists, mem_addressesFor_merge, exists_or]

theorem answers_iff {questions : List Question} :
    response.answers questions ↔
      ∃ question ∈ questions, ∃ record ∈ response.records, record.name = question.name := by
  simp [answers, Question.answeredBy]

theorem answers_merge {questions : List Question} :
    (response.merge other).answers questions ↔
      response.answers questions ∨ other.answers questions := by
  simp only [answers_iff, mem_merge, or_and_right, and_or_left, exists_or]

/-- A response that others are merged into keeps what it has, and the records that
it lacks are added behind, each where it comes first. Merging is associative, and
doing it again changes nothing. What is looked up in a merged response is found in
the first part or else in the second, and what holds of it as a whole holds of one
of them. -/
theorem merge_laws :
    (∀ response other : Response,
      (response.merge other).header = response.header ∧
      (response.merge other).questions = response.questions ∧
      (response.merge other).records =
        response.records ++ fresh response.records other.records) ∧
    (∀ response other third : Response,
      (response.merge other).merge third = response.merge (other.merge third)) ∧
    (∀ response other : Response,
      (response.merge other).merge other = response.merge other) ∧
    ∀ response other : Response,
      (∀ name,
        (response.merge other).srvFor? name = (response.srvFor? name).or (other.srvFor? name) ∧
        (response.merge other).txtFor? name = (response.txtFor? name).or (other.txtFor? name) ∧
        ((response.merge other).hasAddressFor name ↔
          response.hasAddressFor name ∨ other.hasAddressFor name) ∧
        ∀ address, address ∈ (response.merge other).addressesFor name ↔
          address ∈ response.addressesFor name ∨ address ∈ other.addressesFor name) ∧
      ∀ questions, (response.merge other).answers questions ↔
        response.answers questions ∨ other.answers questions :=
  ⟨fun response other => ⟨rfl, rfl, records_merge response other⟩, merge_assoc,
    merge_merge_self, fun _ _ =>
      ⟨fun _ => ⟨srvFor?_merge, txtFor?_merge, hasAddressFor_merge,
        fun _ => mem_addressesFor_merge⟩, fun _ => answers_merge⟩⟩

end Response

end ServiceDiscovery

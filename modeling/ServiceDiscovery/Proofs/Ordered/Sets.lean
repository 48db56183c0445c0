import ServiceDiscovery.Instance

/-!
# Sets as ordered lists

A list in ascending order is determined by its elements (`Ascending.eq_of_mem_iff`),
so that two lists that stand for sets are equal just if they have the same
elements. `AddressSet.ofList_eq_iff` states this for sets of addresses and
`Instance.distinct_eq_iff` for sets of instances.
-/

namespace ServiceDiscovery

namespace Ascending

variable {α κ : Type} [LT κ] [LE κ] [Std.LawfulOrderLT κ] {key : α → κ}

theorem nodup {elements : List α} (h : Ascending key elements) : elements.Nodup := by
  refine List.Pairwise.imp ?_ h
  rintro a b hlt rfl
  exact Std.lt_irrefl hlt

/-- An ascending list is the only one with its elements. -/
theorem eq_of_mem_iff {elements others : List α} (h : Ascending key elements)
    (hothers : Ascending key others) (hmem : ∀ a, a ∈ elements ↔ a ∈ others) :
    elements = others := by
  have hperm : elements.Perm others :=
    (List.perm_ext_iff_of_nodup h.nodup hothers.nodup).mpr hmem
  refine hperm.eq_of_pairwise ?_ h hothers
  intro a b _ _ hab hba
  exact absurd hab (Std.not_gt_of_lt hba)

/-- Where different elements have different keys, none is passed over. -/
theorem mem_insert [DecidableLT κ] [Std.IsLinearOrder κ] (hkey : Function.Injective key)
    {a c : α} {elements : List α} : c ∈ insert key a elements ↔ c = a ∨ c ∈ elements := by
  induction elements with
  | nil => simp [insert]
  | cons b rest ih =>
    rw [insert]
    by_cases hab : key a < key b
    · rw [if_pos hab, List.mem_cons]
    · rw [if_neg hab]
      by_cases hba : key b < key a
      · rw [if_pos hba, List.mem_cons, List.mem_cons, ih]
        exact or_left_comm
      · obtain rfl : a = b := hkey (Std.le_antisymm (Std.not_lt.mp hba) (Std.not_lt.mp hab))
        rw [if_neg hba, List.mem_cons, ← or_assoc, or_self]

end Ascending

/-! ## Addresses -/

namespace Address

theorem eq_of_toNat_toList_eq {width : Nat} {xs ys : Vector UInt8 width}
    (h : Octets.toNat xs.toList = Octets.toNat ys.toList) : xs = ys := by
  refine Vector.toList_inj.mp (Octets.eq_of_toNat_eq ?_ h)
  rw [Vector.length_toList, Vector.length_toList]

/-- All addresses of the first family come before those of the second. -/
theorem rank_v4_lt (x : Ipv4) (y : Ipv6) : rank (.v4 x) < rank (.v6 y) := by
  have hlt := Octets.toNat_lt x.octets.toList
  rw [Vector.length_toList] at hlt
  exact Nat.lt_of_lt_of_le hlt (Nat.le_add_right ..)

theorem rank_injective : Function.Injective rank := by
  rintro (x | x) (y | y) h
  · exact congrArg v4 (congrArg Ipv4.mk (eq_of_toNat_toList_eq h))
  · exact absurd h (Nat.ne_of_lt (rank_v4_lt ..))
  · exact absurd h (Nat.ne_of_gt (rank_v4_lt ..))
  · exact congrArg v6 (congrArg Ipv6.mk (eq_of_toNat_toList_eq (Nat.add_left_cancel h)))

end Address

namespace AddressSet

theorem mem_foldl_insert {addresses : List Address} {set : AddressSet} {address : Address} :
    address ∈ (addresses.foldl insert set).toList ↔
      address ∈ set.toList ∨ address ∈ addresses := by
  induction addresses generalizing set with
  | nil => simp
  | cons first rest ih =>
    have hinsert : address ∈ (set.insert first).toList ↔ address = first ∨ address ∈ set.toList :=
      Ascending.mem_insert Address.rank_injective
    rw [List.foldl_cons, ih, hinsert, List.mem_cons, or_assoc, or_left_comm]

@[simp] theorem mem_ofList {addresses : List Address} {address : Address} :
    address ∈ (ofList addresses).toList ↔ address ∈ addresses := by
  rw [ofList, mem_foldl_insert]
  exact or_iff_right List.not_mem_nil

theorem eq_of_mem_iff {set other : AddressSet}
    (h : ∀ address, address ∈ set.toList ↔ address ∈ other.toList) : set = other := by
  have hlists := set.ascending.eq_of_mem_iff other.ascending h
  cases set
  cases other
  cases hlists
  rfl

theorem ofList_eq_iff {addresses others : List Address} :
    ofList addresses = ofList others ↔ ∀ address, address ∈ addresses ↔ address ∈ others := by
  constructor
  · intro h address
    rw [← mem_ofList, h, mem_ofList]
  · intro h
    refine eq_of_mem_iff fun address => ?_
    rw [mem_ofList, mem_ofList, h]

end AddressSet

/-! ## Instances -/

namespace Instance

theorem transCmp_comap {α β : Type} (cmp : β → β → Ordering) [Std.TransCmp cmp] (f : α → β) :
    Std.TransCmp fun x y => cmp (f x) (f y) where
  eq_swap := Std.OrientedCmp.eq_swap
  isLE_trans := Std.TransCmp.isLE_trans

instance : Std.TransCmp order :=
  -- the lists of two instances are compared like any two lists
  haveI := transCmp_comap (List.compareLex (compareOn Address.rank))
    fun x : Instance => x.addresses.toList
  haveI := transCmp_comap (List.compareLex (compareLex (compareOn Prod.fst) (compareOn Prod.snd)))
    fun x : Instance => x.attributes.toList
  inferInstanceAs <| Std.TransCmp <|
    compareLex (compareOn name) (compareLex (compareOn port) (compareLex (fun x y =>
      List.compareLex (compareOn Address.rank) x.addresses.toList y.addresses.toList) fun x y =>
        List.compareLex (compareLex (compareOn Prod.fst) (compareOn Prod.snd))
          x.attributes.toList y.attributes.toList))

instance : Std.LawfulEqCmp (compareOn Address.rank) where
  eq_of_compare h := Address.rank_injective (Std.LawfulEqCmp.eq_of_compare h)

instance : Std.LawfulEqCmp
    (compareLex (compareOn Prod.fst) (compareOn (Prod.snd : String × String → String))) where
  eq_of_compare h := by
    obtain ⟨hkey, hvalue⟩ := Ordering.then_eq_eq.mp h
    exact Prod.ext (Std.LawfulEqCmp.eq_of_compare hkey) (Std.LawfulEqCmp.eq_of_compare hvalue)

theorem eq_of_order_eq {x y : Instance} (h : order x y = .eq) : x = y := by
  simp only [order, Ordering.then_eq_eq] at h
  obtain ⟨hname, hport, haddresses, hattributes⟩ := h
  have hname := Std.LawfulEqCmp.eq_of_compare hname
  have hport := Std.LawfulEqCmp.eq_of_compare hport
  have haddresses := Std.LawfulEqCmp.eq_of_compare haddresses
  have hattributes := Std.LawfulEqCmp.eq_of_compare hattributes
  obtain ⟨_, ⟨_, _⟩, _, ⟨_, _⟩⟩ := x
  obtain ⟨_, ⟨_, _⟩, _, ⟨_, _⟩⟩ := y
  simp_all

theorem nodup_eraseDups {α : Type} [BEq α] [LawfulBEq α] (values : List α) :
    values.eraseDups.Nodup := by
  induction h : values.length using Nat.strongRecOn generalizing values with
  | _ length ih =>
    cases values with
    | nil => simp
    | cons first rest =>
      rw [List.eraseDups_cons, List.nodup_cons]
      refine ⟨by simp, ih _ ?_ _ rfl⟩
      rw [← h, List.length_cons]
      exact Nat.lt_succ_of_le (List.length_filter_le _ _)

@[simp] theorem mem_distinct {instances : List Instance} {found : Instance} :
    found ∈ distinct instances ↔ found ∈ instances := by
  rw [distinct, List.mem_mergeSort, List.mem_eraseDups]

theorem nodup_distinct (instances : List Instance) : (distinct instances).Nodup :=
  (List.mergeSort_perm _ _).nodup_iff.mpr (nodup_eraseDups instances)

theorem pairwise_distinct (instances : List Instance) :
    (distinct instances).Pairwise fun x y => (order x y).isLE := by
  refine List.pairwise_mergeSort (fun _ _ _ => Std.TransCmp.isLE_trans) (fun x y => ?_) _
  rw [Bool.or_eq_true]
  by_cases h : (order x y).isLE
  · exact Or.inl h
  · exact Or.inr (Ordering.isLE_of_eq_lt (Std.OrientedCmp.lt_of_not_isLE h))

/-- The instances of two lists, each of them once and in order, are the same just
if the lists have the same elements. -/
theorem distinct_eq_iff {instances others : List Instance} :
    distinct instances = distinct others ↔ ∀ found, found ∈ instances ↔ found ∈ others := by
  constructor
  · intro h found
    rw [← mem_distinct, h, mem_distinct]
  · intro h
    have hperm : (distinct instances).Perm (distinct others) := by
      refine (List.perm_ext_iff_of_nodup (nodup_distinct _) (nodup_distinct _)).mpr ?_
      intro found
      rw [mem_distinct, mem_distinct, h]
    refine hperm.eq_of_pairwise ?_ (pairwise_distinct _) (pairwise_distinct _)
    intro x y _ _ hxy hyx
    exact eq_of_order_eq (Std.OrientedCmp.isLE_antisymm hxy hyx)

end Instance

end ServiceDiscovery

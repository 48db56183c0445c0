import Mathlib.Data.List.Chain
import Mathlib.Data.List.Nodup
import ServiceDiscovery.Proofs.Name.Runs

/-!
# Walks element by element

A walk over a name leaves a trail, the cursors under which it looked at an element
(`Name.Cursor.Trail`). An element that does not end the walk is a reference that lowers
the floor, or a label that is passed over (`Name.Cursor.next_cases`). So the references
of a trail lead further and further down, the positions between two of them go up, and
the trail is short (`Name.decode_bounded`). Nothing but the octets it looks at
(`Name.Cursor.looked`) matters to a walk, and all of them are octets of the message
unless the walk ends in front of one that is missing.
-/

namespace ServiceDiscovery

namespace Message

variable {message other : Message} {first last : Nat}

/-- Two messages have the same octets in a stretch, and they lack the same ones. -/
def AgreeOn (message other : Message) (stretch : Nat × Nat) : Prop :=
  ∀ position, stretch.1 ≤ position → position < stretch.2 →
    other[position]? = message[position]?

theorem AgreeOn.size_lt_iff (h : message.AgreeOn other (first, last))
    (hmessage : first ≤ message.size) (hother : first ≤ other.size) :
    other.size < last ↔ message.size < last := by
  by_cases hempty : last ≤ first
  · omega
  · have hlast := h (last - 1) (Nat.le_sub_one_of_lt (Nat.lt_of_not_le hempty))
      (Nat.sub_one_lt_of_lt (Nat.lt_of_not_le hempty))
    have hmissing : other[last - 1]? = none ↔ other.size ≤ last - 1 :=
      Array.getElem?_eq_none_iff
    rw [hlast, Array.getElem?_eq_none_iff] at hmissing
    omega

theorem AgreeOn.extract_eq (h : message.AgreeOn other (first, last))
    (hmessage : last ≤ message.size) (hother : last ≤ other.size) :
    other.extract first last = message.extract first last := by
  apply Array.ext_getElem?
  intro index
  rw [Array.getElem?_extract, Array.getElem?_extract, Nat.min_eq_left hother,
    Nat.min_eq_left hmessage]
  split
  · exact h _ (Nat.le_add_right first index) (by omega)
  · rfl

end Message

namespace Name

namespace Cursor

/-- The position that the octets at a position refer to, if they are a reference. -/
def reference? (message : Message) (position : Nat) : Option Nat :=
  match message[position]?, message[position + 1]? with
  | some octet, some low =>
    if octet &&& 0xc0 = 0xc0 then some (referenceTarget octet low) else none
  | _, _ => none

/-- The stretches of octets that are looked at under a cursor, each from its first
position to the one behind it. -/
def looked (message : Message) (cursor : Cursor) : List (Nat × Nat) :=
  (cursor.position, cursor.position + 1) ::
    match message[cursor.position]? with
    | none => []
    | some octet =>
      if octet &&& 0xc0 = 0xc0 then [(cursor.position + 1, cursor.position + 2)]
      else if octet &&& 0xc0 = 0 then [(cursor.position + 1, cursor.position + 1 + octet.toNat)]
      else []

/-- The steps from a cursor on: the cursors one after the other, itself the first one,
and the result that the step under the last one ends with. -/
inductive Trail (message : Message) :
    (cursor : Cursor) → List Cursor → Except WireError (List String × Nat) → Prop where
  | failed {cursor : Cursor} {cause : WireError} (hstep : cursor.step message = .error cause) :
      Trail message cursor [cursor] (.error cause)
  | done {cursor : Cursor} {labels : List String} {stop : Nat}
      (hstep : cursor.step message = .ok (.done labels stop)) :
      Trail message cursor [cursor] (.ok (labels, stop))
  | next {cursor after : Cursor} {trail : List Cursor}
      {result : Except WireError (List String × Nat)}
      (hstep : cursor.step message = .ok (.next after))
      (hrest : Trail message after trail result) :
      Trail message cursor (cursor :: trail) result

/-- The references that are followed along a trail, each with its position and the
position it leads to. One under the last cursor is not followed. -/
def followed (message : Message) (trail : List Cursor) : List (Nat × Nat) :=
  trail.dropLast.filterMap fun cursor =>
    (reference? message cursor.position).map fun target => (cursor.position, target)

variable {message other : Message} {cursor after : Cursor} {octet : UInt8}
  {trail run : List Cursor} {result : Except WireError (List String × Nat)}

/-! ## One step -/

theorem reference?_of_not_reference (hoctet : message[cursor.position]? = some octet)
    (hreference : ¬octet &&& 0xc0 = 0xc0) : reference? message cursor.position = none := by
  rw [reference?, hoctet]
  cases message[cursor.position + 1]? with
  | none => rfl
  | some low => exact if_neg hreference

/-- An element that does not end the walk: a reference below the floor, which becomes
the floor, or a label, which is passed over. -/
theorem next_cases (h : cursor.step message = .ok (.next after)) :
    (∃ target, reference? message cursor.position = some target ∧ target < cursor.floor ∧
      after.position = target ∧ after.floor = target) ∨
    reference? message cursor.position = none ∧ cursor.position < after.position ∧
      after.floor = cursor.floor := by
  unfold step at h
  split at h
  · cases h
  · rename_i octet hoctet
    split at h
    · rename_i hreference
      split at h
      · cases h
      · rename_i low hlow
        simp only at h
        split at h
        · cases h
        · rename_i hbelow
          cases h
          refine Or.inl ⟨_, ?_, Nat.lt_of_not_le hbelow, rfl, rfl⟩
          rw [reference?, hoctet, hlow]
          exact if_pos hreference
    · rename_i hreference
      have hnone := reference?_of_not_reference hoctet hreference
      split at h
      · simp only at h
        split at h
        · cases h
        · split at h
          · cases h
          · split at h
            · cases h
            · cases h
              exact Or.inr ⟨hnone, by simp only; omega, rfl⟩
      · cases h

/-- Under a cursor all that is looked at is in the message, but for the last stretch
where the name is malformed. -/
theorem looked_of_step {outcome : Except WireError Move}
    (hstep : cursor.step message = outcome) :
    (∀ stretch ∈ (looked message cursor).dropLast, stretch.2 ≤ message.size) ∧
      ((∀ stretch ∈ looked message cursor, stretch.2 ≤ message.size) ∨
        outcome = .error .malformedName) := by
  subst hstep
  cases hoctet : message[cursor.position]? with
  | none => simp [looked, step, hoctet]
  | some octet =>
    have hinside : cursor.position < message.size := (Array.getElem?_eq_some_iff.mp hoctet).1
    by_cases hreference : octet &&& 0xc0 = 0xc0
    · cases hlow : message[cursor.position + 1]? with
      | none => simp [looked, step, hoctet, hreference, hlow, Nat.succ_le_of_lt hinside]
      | some low =>
        have hbehind : cursor.position + 1 < message.size :=
          (Array.getElem?_eq_some_iff.mp hlow).1
        simp [looked, hoctet, hreference, Nat.succ_le_of_lt hinside, Nat.succ_le_of_lt hbehind]
    · by_cases hlabel : octet &&& 0xc0 = 0
      · by_cases hcut : message.size < cursor.position + 1 + octet.toNat
        · simp [looked, step, hoctet, hlabel, hcut, Nat.succ_le_of_lt hinside]
        · simp [looked, hoctet, hlabel, Nat.le_of_not_lt hcut, Nat.succ_le_of_lt hinside]
      · simp [looked, hoctet, hreference, hlabel, Nat.succ_le_of_lt hinside]

/-- What is not looked at under a cursor does not matter to the step. -/
theorem step_congr (h : ∀ stretch ∈ looked message cursor, message.AgreeOn other stretch) :
    cursor.step other = cursor.step message := by
  have hposition : other[cursor.position]? = message[cursor.position]? :=
    h _ List.mem_cons_self _ (Nat.le_refl _) (Nat.lt_succ_self _)
  cases hoctet : message[cursor.position]? with
  | none => simp only [step, hposition, hoctet]
  | some octet =>
    rw [hoctet] at hposition
    by_cases hreference : octet &&& 0xc0 = 0xc0
    · have hlow : other[cursor.position + 1]? = message[cursor.position + 1]? :=
        h (cursor.position + 1, cursor.position + 2) (by simp [looked, hoctet, hreference]) _
          (Nat.le_refl _) (Nat.lt_succ_self _)
      simp only [step, hposition, hoctet, if_pos hreference, hlow]
    · by_cases hlabel : octet &&& 0xc0 = 0
      · have hinside := (Array.getElem?_eq_some_iff.mp hoctet).1
        have hinsideOther := (Array.getElem?_eq_some_iff.mp hposition).1
        have hstretch := h (cursor.position + 1, cursor.position + 1 + octet.toNat)
          (by simp [looked, hoctet, hlabel])
        have hsize := hstretch.size_lt_iff hinside hinsideOther
        by_cases hcut : message.size < cursor.position + 1 + octet.toNat
        · simp only [step, hposition, hoctet, if_neg hreference, if_pos hlabel, if_pos hcut,
            if_pos (hsize.mpr hcut)]
        · have hcutOther : ¬other.size < cursor.position + 1 + octet.toNat :=
            fun hlt => hcut (hsize.mp hlt)
          have hlabelOctets := hstretch.extract_eq (Nat.le_of_not_lt hcut)
            (Nat.le_of_not_lt hcutOther)
          simp only [step, hposition, hoctet, if_neg hreference, if_pos hlabel, if_neg hcut,
            if_neg hcutOther, hlabelOctets]
      · simp only [step, hposition, hoctet, if_neg hreference, if_neg hlabel]

/-! ## All steps -/

theorem followed_cons (hne : trail ≠ []) :
    followed message (cursor :: trail) =
      match reference? message cursor.position with
      | some target => (cursor.position, target) :: followed message trail
      | none => followed message trail := by
  rw [followed, List.dropLast_cons_of_ne_nil hne, List.filterMap_cons]
  cases reference? message cursor.position <;> rfl

theorem flatMap_looked_ne_nil (hne : trail ≠ []) : trail.flatMap (looked message) ≠ [] := by
  obtain ⟨cursor, rest, rfl⟩ := List.exists_cons_of_ne_nil hne
  rw [List.flatMap_cons, looked, List.cons_append]
  exact List.cons_ne_nil _ _

namespace Trail

theorem exists_eq_cons (h : Trail message cursor trail result) :
    ∃ rest, trail = cursor :: rest := by
  cases h with
  | failed hstep | done hstep => exact ⟨[], rfl⟩
  | next hstep hrest => exact ⟨_, rfl⟩

theorem ne_nil (h : Trail message cursor trail result) : trail ≠ [] := by
  obtain ⟨rest, rfl⟩ := h.exists_eq_cons
  exact List.cons_ne_nil cursor rest

/-- A walk ends with the result of its trail. -/
theorem walk_eq (h : Trail message cursor trail result) : cursor.walk message = result := by
  induction h with
  | failed hstep => exact walk_of_error hstep
  | done hstep => exact walk_of_done hstep
  | next hstep hrest ih => rw [walk_of_next hstep, ih]

/-- Every step lowers the measure, so a trail is no longer than that. -/
theorem length_le (h : Trail message cursor trail result) :
    trail.length ≤ cursor.measure message + 1 := by
  induction h with
  | failed hstep | done hstep => simp
  | @next cursor after trail result hstep hrest ih =>
    have hless := measure_lt_of_step hstep
    rw [List.length_cons]
    omega

/-- Each cursor but the last one is left for the next. -/
theorem isChain (h : Trail message cursor trail result) :
    trail.IsChain fun cursor after => cursor.step message = .ok (.next after) := by
  induction h with
  | failed hstep | done hstep => exact .singleton _
  | next hstep hrest ih =>
    obtain ⟨rest, rfl⟩ := hrest.exists_eq_cons
    exact .cons_cons hstep ih

/-- The references that are followed lead further and further down, the first one below
the floor. -/
theorem targets_isChain (h : Trail message cursor trail result) :
    (cursor.floor :: (followed message trail).map Prod.snd).IsChain (· > ·) := by
  induction h with
  | failed hstep | done hstep => exact .singleton _
  | @next cursor after trail result hstep hrest ih =>
    rw [followed_cons hrest.ne_nil]
    obtain ⟨target, hreference, hbelow, -, hfloor⟩ | ⟨hlabel, -, hfloor⟩ := next_cases hstep
    · rw [hfloor] at ih
      rw [hreference]
      exact .cons_cons hbelow ih
    · rw [hfloor] at ih
      rwa [hlabel]

/-- Nothing outside the message is looked at, but for the last stretch of all where the
name is malformed. -/
theorem looked_inside (h : Trail message cursor trail result) :
    (∀ stretch ∈ (trail.flatMap (looked message)).dropLast, stretch.2 ≤ message.size) ∧
      ((∀ stretch ∈ trail.flatMap (looked message), stretch.2 ≤ message.size) ∨
        result = .error .malformedName) := by
  induction h with
  | failed hstep | done hstep => simpa using looked_of_step hstep
  | @next cursor after trail result hstep hrest ih =>
    have hfirst : ∀ stretch ∈ looked message cursor, stretch.2 ≤ message.size :=
      (looked_of_step hstep).2.resolve_right nofun
    obtain ⟨hfront, hall⟩ := ih
    rw [List.flatMap_cons, List.dropLast_append_of_ne_nil (flatMap_looked_ne_nil hrest.ne_nil)]
    refine ⟨List.forall_mem_append.mpr ⟨hfirst, hfront⟩, ?_⟩
    exact hall.imp (fun hinside => List.forall_mem_append.mpr ⟨hfirst, hinside⟩) id

/-- Only the octets that are looked at matter to a walk. -/
theorem congr (h : Trail message cursor trail result)
    (hagree : ∀ stretch ∈ trail.flatMap (looked message), message.AgreeOn other stretch) :
    Trail other cursor trail result := by
  induction h with
  | failed hstep =>
    rw [List.flatMap_singleton] at hagree
    exact .failed ((step_congr hagree).trans hstep)
  | done hstep =>
    rw [List.flatMap_singleton] at hagree
    exact .done ((step_congr hagree).trans hstep)
  | next hstep hrest ih =>
    rw [List.flatMap_cons] at hagree
    obtain ⟨hfirst, hbehind⟩ := List.forall_mem_append.mp hagree
    exact .next ((step_congr hfirst).trans hstep) (ih hbehind)

/-- Where no reference is followed, positions go up from one cursor to the next. -/
theorem positions_pairwise (h : Trail message cursor trail result) (hrun : run <:+: trail)
    (hlabels : ∀ cursor ∈ run.dropLast, reference? message cursor.position = none) :
    (run.map position).Pairwise (· < ·) := by
  have hchain := h.isChain.infix hrun
  rw [← List.isChain_iff_pairwise, List.isChain_map]
  clear h hrun
  induction run with
  | nil => exact .nil
  | cons cursor rest ih =>
    cases rest with
    | nil => exact .singleton _
    | cons after rest =>
      obtain ⟨hstep, hrest⟩ := List.isChain_cons_cons.mp hchain
      rw [List.dropLast_cons_cons] at hlabels
      obtain ⟨hlabel, hlabelsRest⟩ := List.forall_mem_cons.mp hlabels
      refine .cons_cons ?_ (ih hlabelsRest hrest)
      obtain ⟨target, hreference, -⟩ | ⟨-, hforward, -⟩ := next_cases hstep
      · rw [hlabel] at hreference
        cases hreference
      · exact hforward

end Trail

/-- Every walk comes to an end. -/
theorem exists_trail (message : Message) (cursor : Cursor) :
    ∃ trail, Trail message cursor trail (cursor.walk message) := by
  induction cursor using walk.induct message with
  | case1 cursor cause hstep =>
    rw [walk_of_error hstep]
    exact ⟨_, .failed hstep⟩
  | case2 cursor labels stop hstep =>
    rw [walk_of_done hstep]
    exact ⟨_, .done hstep⟩
  | case3 cursor after hstep ih =>
    obtain ⟨trail, htrail⟩ := ih
    rw [walk_of_next hstep]
    exact ⟨_, .next hstep htrail⟩

/-! ## References that are followed -/

/-- Numbers that go down are not more than the first of them. -/
theorem length_le_of_isChain {bound : Nat} {targets : List Nat}
    (h : (bound :: targets).IsChain (· > ·)) : targets.length ≤ bound := by
  induction targets generalizing bound with
  | nil => exact Nat.zero_le bound
  | cons target rest ih =>
    obtain ⟨hbelow, hrest⟩ := List.isChain_cons_cons.mp h
    exact Nat.lt_of_le_of_lt (ih hrest) hbelow

theorem reference?_of_mem_followed {reference : Nat × Nat}
    (h : reference ∈ followed message trail) :
    reference? message reference.1 = some reference.2 := by
  obtain ⟨cursor, -, hcursor⟩ := List.mem_filterMap.mp h
  obtain ⟨target, htarget, rfl⟩ := Option.map_eq_some_iff.mp hcursor
  exact htarget

/-- A reference tells the position it leads to, so one that is followed again leads to
the same position again. -/
theorem nodup_positions_followed (h : ((followed message trail).map Prod.snd).Nodup) :
    ((followed message trail).map Prod.fst).Nodup := by
  have htargets : (followed message trail).map Prod.snd =
      ((followed message trail).map Prod.fst).map fun position =>
        (reference? message position).getD 0 := by
    rw [List.map_map]
    apply List.map_congr_left
    intro reference hmem
    rw [Function.comp_apply, reference?_of_mem_followed hmem, Option.getD_some]
  rw [htargets] at h
  exact List.Nodup.of_map _ h

end Cursor

open Cursor

/-- Reading a name comes to an end wherever it starts, after a number of steps that is
bounded by the start and the size of the message. The positions that references lead
to go down from the start, so no more references are followed than its number says,
and none twice. Between two references the position goes up. Only the octets that are
looked at matter, and all of them are in the message, but for the last stretch where
the name is malformed. -/
theorem decode_bounded (message : Message) (start : Nat) :
    (∃ trail result, Trail message (.atStart start) trail result) ∧
    ∀ trail result, Trail message (.atStart start) trail result →
      decode message start = result.map (fun (labels, stop) =>
        { labels := labels.reverse, consumed := stop - start }) ∧
      (start :: (followed message trail).map Prod.snd).Pairwise (· > ·) ∧
      (followed message trail).length ≤ start ∧
      ((followed message trail).map Prod.fst).Nodup ∧
      (∀ run, run <:+: trail →
        (∀ cursor ∈ run.dropLast, reference? message cursor.position = none) →
        (run.map position).Pairwise (· < ·)) ∧
      (∀ other : Message,
        (∀ stretch ∈ trail.flatMap (looked message), message.AgreeOn other stretch) →
        Trail other (.atStart start) trail result) ∧
      (∀ stretch ∈ (trail.flatMap (looked message)).dropLast, stretch.2 ≤ message.size) ∧
      ((∀ stretch ∈ trail.flatMap (looked message), stretch.2 ≤ message.size) ∨
        result = .error .malformedName) ∧
      trail.length ≤ (start + 1) * (message.size + 1) := by
  obtain ⟨found, hfound⟩ := exists_trail message (.atStart start)
  refine ⟨⟨found, _, hfound⟩, fun trail result h => ?_⟩
  have hchain : (start :: (followed message trail).map Prod.snd).IsChain (· > ·) :=
    h.targets_isChain
  have hdown := List.isChain_iff_pairwise.mp hchain
  have hcount : (followed message trail).length ≤ start := by
    simpa using length_le_of_isChain hchain
  have htwice : ((followed message trail).map Prod.fst).Nodup :=
    nodup_positions_followed (hdown.of_cons.imp Nat.ne_of_gt)
  have hlength : trail.length ≤ (start + 1) * (message.size + 1) := by
    have hmeasure := h.length_le
    simp only [Cursor.measure, atStart] at hmeasure
    rw [Nat.succ_mul]
    omega
  refine ⟨?_, hdown, hcount, htwice, fun run => h.positions_pairwise, fun other => h.congr,
    h.looked_inside.1, h.looked_inside.2, hlength⟩
  rw [decode, h.walk_eq]

/-- A label, a reference to a reference to another label, and behind that label the
reference that led to it. -/
def circularName : Message :=
  #[0, 1, 0x61, 0xc0, 1, 1, 0x62, 0xc0, 3]

theorem trail_circularName :
    Trail circularName (.atStart 5)
      [.atStart 5, ⟨7, 5, none, ["b"]⟩, ⟨3, 3, some 9, ["b"]⟩, ⟨1, 1, some 9, ["b"]⟩,
        ⟨3, 1, some 9, ["a", "b"]⟩]
      (.error .malformedName) :=
  .next (by decide) (.next (by decide) (.next (by decide) (.next (by decide)
    (.failed (by decide)))))

/-- The reference that is met twice is followed once. -/
theorem decode_bounded_circular :
    ∃ trail, Trail circularName (.atStart 5) trail (.error .malformedName) ∧
      trail.map position = [5, 7, 3, 1, 3] ∧
      followed circularName trail = [(7, 3), (3, 1)] ∧
      ((followed circularName trail).map Prod.fst).Nodup ∧
      decode circularName 5 = .error .malformedName ∧
      trail.length ≤ (5 + 1) * (9 + 1) := by
  obtain ⟨hdecode, -, -, hnodup, -, -, -, -, hlength⟩ :=
    (decode_bounded circularName 5).2 _ _ trail_circularName
  exact ⟨_, trail_circularName, rfl, by decide, hnodup, hdecode, hlength⟩

end Name

end ServiceDiscovery

/-!
# Ascending lists

A list whose elements have strictly ascending keys is the only such list with
its elements, so it can stand for a finite set or a finite map.
`Ascending.insert` adds an element unless one with its key is there already,
hence the first of several elements with one key is the one that stays.
-/

namespace ServiceDiscovery

variable {α κ : Type} [LT κ]

/-- The keys of the elements are strictly ascending. -/
def Ascending (key : α → κ) (elements : List α) : Prop :=
  elements.Pairwise fun a b => key a < key b

namespace Ascending

/-- Adds `a` in front of the first element with a larger key, unless an element
has the key of `a` already. -/
def insert [DecidableLT κ] (key : α → κ) (a : α) : List α → List α
  | [] => [a]
  | b :: rest =>
    if key a < key b then a :: b :: rest
    else if key b < key a then b :: insert key a rest
    else b :: rest

theorem nil (key : α → κ) : Ascending key ([] : List α) := List.Pairwise.nil

/-- An element of a list with one more element is that one or was there. -/
theorem mem_of_mem_insert [DecidableLT κ] {key : α → κ} {a c : α} {elements : List α}
    (h : c ∈ insert key a elements) : c = a ∨ c ∈ elements := by
  induction elements with
  | nil => simpa [insert] using h
  | cons b rest ih =>
    simp only [insert] at h
    split at h
    · simpa using h
    · split at h
      · rcases List.mem_cons.mp h with rfl | h
        · simp
        · rcases ih h with rfl | h <;> simp [*]
      · exact Or.inr h

theorem insert_ascending [LE κ] [DecidableLT κ] [Std.IsPreorder κ]
    [Std.LawfulOrderLT κ] {key : α → κ} {elements : List α} (h : Ascending key elements) (a : α) :
    Ascending key (insert key a elements) := by
  induction elements with
  | nil => simp [insert, Ascending]
  | cons b rest ih =>
    obtain ⟨hb, hrest⟩ := List.pairwise_cons.mp h
    simp only [insert]
    split
    next hab =>
      refine List.pairwise_cons.mpr ⟨fun c hc => ?_, h⟩
      rcases List.mem_cons.mp hc with rfl | hc
      · exact hab
      · exact Std.lt_trans hab (hb c hc)
    · split
      next hba =>
        refine List.pairwise_cons.mpr ⟨fun c hc => ?_, ih hrest⟩
        rcases mem_of_mem_insert hc with rfl | hc
        · exact hba
        · exact hb c hc
      · exact h

end Ascending

end ServiceDiscovery

import CoverageSubset.Sorting
import Mathlib.Data.List.Induction

/-!
# What sorting puts first

A stable sort by an order puts first an item that none is lower than. The sort by insertion puts an
item first for any comparison, order or not: the last one that is lower than every item which stands
before it, where each item passes those before it until it meets one that it is not lower than.
-/

namespace CoverageSubset

variable {α : Type} {cmp : α → α → Ordering} {a b : α} {xs sorted before after : List α}

/-- What a stable sort puts first comes no later than any item. -/
theorem StablySorts.isLE_of_head? (h : StablySorts cmp xs sorted) (ha : sorted.head? = some a)
    (hb : b ∈ xs) (hab : a ≠ b) : (cmp a b).isLE = true := by
  obtain ⟨rest, rfl⟩ := List.head?_eq_some_iff.mp ha
  rcases List.mem_cons.mp (h.perm.mem_iff.mpr hb) with rfl | hrest
  · exact absurd rfl hab
  · exact (List.pairwise_cons.mp h.ordered).1 b hrest

/-! ### Insertion -/

private theorem getLast?_place (a : α) (placed : List α) :
    (place cmp a placed).getLast? =
      if placed.all (cmp a · == .lt) then some a else placed.getLast? := by
  induction placed with
  | nil => rfl
  | cons b rest ih =>
    rw [place, List.all_cons]
    by_cases hlt : cmp a b = .lt
    · simp only [hlt, beq_self_eq_true, Bool.true_and, ite_true]
      rw [List.getLast?_cons, ih, List.getLast?_cons]
      split <;> rfl
    · simp [hlt]

/-- The last item comes first exactly if it is lower than all others; else it leaves the first one
in place. -/
theorem head?_insertionSort_append_singleton (xs : List α) (a : α) :
    (insertionSort cmp (xs ++ [a])).head? =
      if xs.all (cmp a · == .lt) then some a else (insertionSort cmp xs).head? := by
  have hall : (insertionSort cmp xs).reverse.all (cmp a · == .lt) = xs.all (cmp a · == .lt) :=
    ((List.reverse_perm _).trans (insertionSort_perm xs)).all_eq
  rw [insertionSort_append_singleton, List.head?_reverse, getLast?_place, hall,
    List.getLast?_reverse]

/-- The first item in order is lower than every item before it. -/
theorem lt_of_head?_insertionSort (h : (insertionSort cmp xs).head? = some a) :
    ∃ before after, xs = before ++ a :: after ∧ ∀ b ∈ before, cmp a b = .lt := by
  induction xs using List.reverseRecOn with
  | nil => cases h
  | append_singleton xs last ih =>
    rw [head?_insertionSort_append_singleton] at h
    split at h
    · next hall =>
      obtain rfl := Option.some.inj h
      exact ⟨xs, [], rfl, by simpa using hall⟩
    · obtain ⟨before, after, rfl, hbefore⟩ := ih h
      exact ⟨before, after ++ [last], by simp, hbefore⟩

/-- No item that is lower than every item before it is left behind: the first item in order is that
item or lower. -/
theorem eq_or_lt_of_head?_insertionSort (h : (insertionSort cmp xs).head? = some a)
    (hxs : xs = before ++ b :: after) (hb : ∀ c ∈ before, cmp b c = .lt) :
    a = b ∨ cmp a b = .lt := by
  induction xs using List.reverseRecOn generalizing after with
  | nil => cases h
  | append_singleton xs last ih =>
    rw [head?_insertionSort_append_singleton] at h
    rcases List.eq_nil_or_concat after with rfl | ⟨rest, last', rfl⟩
    · obtain ⟨rfl, hlast⟩ := List.append_inj' hxs rfl
      obtain rfl := List.head_eq_of_cons_eq hlast
      rw [if_pos (by simpa using hb)] at h
      exact .inl (Option.some.inj h).symm
    · have hsplit : xs ++ [last] = (before ++ b :: rest) ++ [last'] := by simpa using hxs
      obtain ⟨rfl, -⟩ := List.append_inj' hsplit rfl
      split at h
      · next hall =>
        obtain rfl := Option.some.inj h
        exact .inr (by simpa using List.all_eq_true.mp hall b (by simp))
      · exact ih h rfl

end CoverageSubset

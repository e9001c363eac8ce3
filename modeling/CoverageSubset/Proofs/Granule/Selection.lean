import CoverageSubset.GranuleQuery

/-!
# Selecting records

A query without sort keys leaves the records in the order of the store. Whatever the sort does, a
query that is answered selects from the records that meet its filter, and one for a single record
finds one if there is any. A query is left unanswered only by many records that its keys put in no
order.
-/

namespace CoverageSubset.GranuleStore

variable {s : GranuleStore} {f : GranuleFilter} {q : GranuleQuery} {keys : List SortKey}
  {g : Granule} {selected : List Granule}

/-- A record is found exactly if it is stored and meets the filter. -/
theorem mem_found : g ∈ s.found f ↔ g ∈ s.granules ∧ f.matchesGranule g = true := List.mem_filter

/-- A query by a filter alone selects what meets it, in the order of the store. -/
theorem select_ofFilter (s : GranuleStore) (f : GranuleFilter) :
    s.select (.ofFilter f) = some (s.found f) :=
  rfl

/-- A query selects the first of the records that meet its filter, in the order that they are sorted
into. -/
theorem exists_perm_of_select (h : s.select q = some selected) :
    ∃ sorted, sorted.Perm (s.found q.filter) ∧ selected = q.most.elim sorted sorted.take := by
  obtain ⟨sorted, hsorted, rfl⟩ := Option.map_eq_some_iff.mp h
  refine ⟨sorted, ?_, rfl⟩
  split at hsorted
  · exact .of_eq (Option.some.inj hsorted).symm
  · exact s.sorter.perm hsorted

/-- What a query selects meets its filter. -/
theorem mem_found_of_mem_select (h : s.select q = some selected) (hg : g ∈ selected) :
    g ∈ s.found q.filter := by
  obtain ⟨sorted, hperm, rfl⟩ := exists_perm_of_select h
  apply hperm.mem_iff.mp
  cases hmost : q.most with
  | none => simpa [hmost] using hg
  | some n => exact List.mem_of_mem_take (by simpa [hmost] using hg)

/-- A query for one record finds none only where none meets its filter. -/
theorem found_eq_nil_of_select_one (h : s.select ⟨f, keys, some 1⟩ = some []) : s.found f = [] := by
  obtain ⟨sorted, hperm, hnil⟩ := exists_perm_of_select h
  have hsorted : sorted = [] := by simpa [List.take_eq_nil_iff] using hnil.symm
  exact (hsorted ▸ hperm).symm.eq_nil

/-- The record that a query for one record selects is the first one that the sort gives. -/
theorem exists_sort_of_head?_select_one (hkeys : keys ≠ [])
    (h : (s.select ⟨f, keys, some 1⟩).bind List.head? = some g) :
    ∃ sorted, s.sorter.sort (SortKey.compareAll keys) (s.found f) = some sorted ∧
      sorted.head? = some g := by
  obtain ⟨selected, hselected, hg⟩ := Option.bind_eq_some_iff.mp h
  obtain ⟨sorted, hsorted, rfl⟩ := Option.map_eq_some_iff.mp hselected
  rw [if_neg (by simpa using hkeys)] at hsorted
  exact ⟨sorted, hsorted, List.head?_take.symm.trans hg⟩

/-- The keys of a query put the records that meet its filter in no order, and these are not few if
the sort inserts few records whatever the keys are. -/
structure Unsortable (s : GranuleStore) (q : GranuleQuery) : Prop where
  noOrder : ¬ OrdersOn (SortKey.compareAll q.keys) (s.found q.filter)
  many : s.sorter.InsertsFew → Sorter.few < (s.found q.filter).length

private theorem sort_eq_none_of_select (h : s.select q = none) :
    s.sorter.sort (SortKey.compareAll q.keys) (s.found q.filter) = none := by
  have hnone := Option.map_eq_none_iff.mp h
  split at hnone
  · cases hnone
  · exact hnone

/-- A query is left unanswered only by records that cannot be sorted. -/
theorem unsortable_of_select_eq_none (h : s.select q = none) : s.Unsortable q where
  noOrder horders := by
    obtain ⟨sorted, hsorted, -⟩ := s.sorter.sorts horders
    rw [sort_eq_none_of_select h] at hsorted
    cases hsorted
  many hinserts := by
    apply Nat.lt_of_not_le
    intro hfew
    have hsorted := hinserts (SortKey.compareAll q.keys) _ hfew
    rw [sort_eq_none_of_select h] at hsorted
    cases hsorted

/-- Records that cannot be sorted are some. -/
theorem Unsortable.exists_mem_found (h : s.Unsortable q) : ∃ g, g ∈ s.found q.filter := by
  apply List.exists_mem_of_ne_nil
  intro hnil
  exact h.noOrder (hnil ▸ .nil _)

end CoverageSubset.GranuleStore

import CoverageSubset.Domain.Basic
import CoverageSubset.Proofs.AxisOrder

/-!
# Boundaries around a value

The boundaries of a domain are the ends of its entries. A value that an ordered domain does not
offer lies strictly between its neighbours, the last boundary below it and the first above it, and
the nearest offered value is chosen among these two alone.
-/

namespace CoverageSubset

open AxisValue

variable {α : Type} [AxisValue α] [Std.TransOrd α]

namespace DomainEntry

variable {e : DomainEntry α} {v : α}

omit [AxisValue α] [Std.TransOrd α] in
/-- The low end of an entry is an end. -/
theorem low_mem_ends (e : DomainEntry α) : e.low ∈ e.ends := by
  cases e <;> simp [low, ends]

omit [AxisValue α] [Std.TransOrd α] in
/-- The high end of an entry is an end. -/
theorem high_mem_ends (e : DomainEntry α) : e.high ∈ e.ends := by
  cases e <;> simp [high, ends]

/-- No end of an entry is below its low end or above its high end, if these are in order. -/
theorem atMost_of_mem_ends (h : atMost e.low e.high = true) (hv : v ∈ e.ends) :
    atMost e.low v = true ∧ atMost v e.high = true := by
  cases e with
  | point w =>
    rw [show v = w by simpa [ends] using hv]
    exact ⟨h, h⟩
  | span a b =>
    have he : v = a ∨ v = b := by simpa [ends] using hv
    rcases he with rfl | rfl
    · exact ⟨atMost_refl v, h⟩
    · exact ⟨h, atMost_refl v⟩

/-- An entry contains what is neither below its low end nor above its high end. -/
theorem contains_eq (e : DomainEntry α) (v : α) :
    e.contains v = (atMost e.low v && atMost v e.high) := by
  cases e with
  | span a b => rfl
  | point w =>
    have hswap : compare v w = (compare w v).swap := Std.OrientedCmp.eq_swap
    rw [contains, low, high, atMost, atMost, hswap]
    cases compare w v <;> rfl

private theorem contains_of_mem_ends (h : atMost e.low e.high = true) (hv : v ∈ e.ends) :
    e.contains v = true := by
  rw [contains_eq, Bool.and_eq_true]
  exact atMost_of_mem_ends h hv

end DomainEntry

namespace Domain

/-- Every span of the domain has its ends in order. -/
def Ordered (d : Domain α) : Prop := ∀ e ∈ d.entries, atMost e.low e.high = true

/-- The value is an end of an entry. -/
def IsBoundary (d : Domain α) (v : α) : Prop := ∃ e ∈ d.entries, v ∈ e.ends

/-- The boundary is the last one below a value. -/
structure IsLastBelow (d : Domain α) (v b : α) : Prop where
  isBoundary : d.IsBoundary b
  lt : compare b v = .lt
  last : ∀ c, d.IsBoundary c → compare c v = .lt → atMost c b = true

/-- The boundary is the first one above a value. -/
structure IsFirstAbove (d : Domain α) (v b : α) : Prop where
  isBoundary : d.IsBoundary b
  lt : compare v b = .lt
  first : ∀ c, d.IsBoundary c → compare v c = .lt → atMost b c = true

/-- The last boundary up to a value. -/
def below? (d : Domain α) (v : α) : Option α := (d.boundaries.filter fun b ↦ atMost b v).getLast?

/-- The first boundary beyond a value. -/
def above? (d : Domain α) (v : α) : Option α := (d.boundaries.filter fun b ↦ !atMost b v).head?

/-- A value is offered exactly if some entry contains it. -/
theorem offers_iff {d : Domain α} {v : α} :
    d.offers v = true ↔ ∃ e ∈ d.entries, e.contains v = true :=
  List.any_eq_true

/-- An ordered domain offers its boundaries. -/
theorem Ordered.offers {d : Domain α} {b : α} (hd : d.Ordered) (hb : d.IsBoundary b) :
    d.offers b = true := by
  obtain ⟨e, he, hmem⟩ := hb
  exact offers_iff.mpr ⟨e, he, DomainEntry.contains_of_mem_ends (hd e he) hmem⟩

/-- A value that an ordered domain does not offer is none of its boundaries. -/
theorem Ordered.ne_of_not_offers {d : Domain α} {b v : α} (hd : d.Ordered) (hv : d.offers v = false)
    (hb : d.IsBoundary b) : b ≠ v := by
  rintro rfl
  rw [hd.offers hb] at hv
  contradiction

/-- A domain with an entry offers something. -/
theorem isEmpty_eq_false_of_mem {d : Domain α} {e : DomainEntry α} (he : e ∈ d.entries) :
    d.isEmpty = false :=
  List.isEmpty_eq_false_iff_exists_mem.mpr ⟨e, he⟩

/-- A domain with an entry has a boundary. -/
theorem exists_isBoundary {d : Domain α} (h : d.isEmpty = false) : ∃ b, d.IsBoundary b := by
  rw [isEmpty, List.isEmpty_eq_false_iff_exists_mem] at h
  obtain ⟨e, he⟩ := h
  exact ⟨e.low, e, he, e.low_mem_ends⟩

/-- An offered value is kept. -/
theorem nearest?_eq_some_self {d : Domain α} {v : α} (hv : d.offers v = true) :
    d.nearest? v = some v := by
  rw [nearest?, hv]
  rfl

/-- A value that is not offered moves to the nearer of its neighbours. -/
theorem nearest?_eq_nearer? {d : Domain α} {v : α} (hv : d.offers v = false) :
    d.nearest? v = nearer? v (d.below? v) (d.above? v) := by
  simp only [nearest?, hv, span_atMost_eq_filter d.pairwise_boundaries v, Bool.false_eq_true,
    ite_false]
  rfl

variable [Std.LawfulEqOrd α] {d : Domain α} {v b c : α}

/-- The boundaries are listed without loss or addition. -/
theorem mem_boundaries : v ∈ d.boundaries ↔ d.IsBoundary v := by
  classical
  rw [boundaries, Std.ExtTreeSet.mem_toList, Std.ExtTreeSet.mem_ofList, List.contains_iff_mem,
    List.mem_flatMap]
  rfl

/-- The domain of some entries is ordered if each of them is. -/
theorem ordered_ofList [DecidableEq α] {es : List (DomainEntry α)}
    (h : ∀ e ∈ es, atMost e.low e.high = true) : (ofList es).Ordered :=
  fun e he ↦ h e (mem_entries_ofList.mp he)

/-- The boundaries of the domain of some entries are the ends of these. -/
theorem isBoundary_ofList [DecidableEq α] {es : List (DomainEntry α)} :
    (ofList es).IsBoundary v ↔ v ∈ es.flatMap DomainEntry.ends := by
  simp only [IsBoundary, mem_entries_ofList, List.mem_flatMap]

/-- Without a lower neighbour all boundaries are above the value. -/
theorem lt_of_below?_eq_none (h : d.below? v = none) (hc : d.IsBoundary c) : compare v c = .lt := by
  have hnone := List.filter_eq_nil_iff.mp (List.getLast?_eq_none_iff.mp h)
  rw [← atMost_eq_false_iff]
  simpa using hnone c (mem_boundaries.mpr hc)

/-- The upper neighbour, if there is one, is the first boundary above the value. -/
theorem isFirstAbove_of_above? (h : d.above? v = some b) : d.IsFirstAbove v b := by
  have hmem := List.mem_filter.mp (List.mem_of_head? h)
  refine ⟨mem_boundaries.mp hmem.1, ?_, ?_⟩
  · rw [← atMost_eq_false_iff]
    simpa using hmem.2
  · intro c hc hvc
    apply head?_atMost (d.pairwise_boundaries.filter _) h
    exact List.mem_filter.mpr ⟨mem_boundaries.mpr hc, by rw [not_atMost_of_lt hvc]; rfl⟩

/-- Without an upper neighbour no boundary is beyond the value. -/
theorem atMost_of_above?_eq_none (h : d.above? v = none) (hc : d.IsBoundary c) :
    atMost c v = true := by
  have hnone := List.filter_eq_nil_iff.mp (List.head?_eq_none_iff.mp h)
  simpa using hnone c (mem_boundaries.mpr hc)

/-- The boundaries up to a value that is not offered are those below it. -/
theorem Ordered.atMost_iff_lt (hd : d.Ordered) (hv : d.offers v = false) (hb : d.IsBoundary b) :
    atMost b v = true ↔ compare b v = .lt :=
  ⟨fun h ↦ lt_of_atMost_of_ne h (hd.ne_of_not_offers hv hb), atMost_of_lt⟩

/-- The lower neighbour, if there is one, is the last boundary below the value. -/
theorem Ordered.isLastBelow_of_below? (hd : d.Ordered) (hv : d.offers v = false)
    (h : d.below? v = some b) :
    d.IsLastBelow v b := by
  have hmem := List.mem_filter.mp (List.mem_of_getLast? h)
  have hb := mem_boundaries.mp hmem.1
  refine ⟨hb, (hd.atMost_iff_lt hv hb).mp hmem.2, ?_⟩
  intro c hc hlt
  apply atMost_getLast? (d.pairwise_boundaries.filter _) h
  exact List.mem_filter.mpr ⟨mem_boundaries.mpr hc, atMost_of_lt hlt⟩

/-- Without an upper neighbour all boundaries are below the value. -/
theorem Ordered.lt_of_above?_eq_none (hd : d.Ordered) (hv : d.offers v = false)
    (h : d.above? v = none) (hc : d.IsBoundary c) : compare c v = .lt :=
  (hd.atMost_iff_lt hv hc).mp (atMost_of_above?_eq_none h hc)

/-- There is but one last boundary below a value. -/
theorem IsLastBelow.unique (hb : d.IsLastBelow v b) (hc : d.IsLastBelow v c) : b = c :=
  atMost_antisymm (hc.last b hb.isBoundary hb.lt) (hb.last c hc.isBoundary hc.lt)

/-- There is but one first boundary above a value. -/
theorem IsFirstAbove.unique (hb : d.IsFirstAbove v b) (hc : d.IsFirstAbove v c) : b = c :=
  atMost_antisymm (hb.first c hc.isBoundary hc.lt) (hc.first b hb.isBoundary hb.lt)

end Domain

end CoverageSubset

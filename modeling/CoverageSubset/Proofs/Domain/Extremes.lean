import CoverageSubset.Proofs.Domain.Boundaries
import CoverageSubset.Proofs.Domain.Canonical

/-!
# The least and the greatest offered value

A domain is asked for the low end of its first entry and for its greatest high end. Entries are in
order of their low ends, so if every span has its own ends in order, these two are the least and the
greatest of all boundaries, and thus the first and the last of the boundaries in order, although the
ends of overlapping entries are not in the order of the entries.
-/

namespace CoverageSubset

open AxisValue

variable {α : Type} [AxisValue α] [Std.TransOrd α]

omit [Std.TransOrd α] in
private theorem DomainEntry.atMost_low_of_lt {e f : DomainEntry α} (h : compare e f = .lt) :
    atMost e.low f.low = true := by
  rw [compare_def, Ordering.then_eq_lt] at h
  rcases h with hlow | ⟨hlow, -⟩ <;> rw [atMost, hlow] <;> rfl

namespace Domain

variable {d : Domain α} {b : α}

/-- The boundary is the least. -/
structure IsLeast (d : Domain α) (b : α) : Prop where
  isBoundary : d.IsBoundary b
  least : ∀ c, d.IsBoundary c → atMost b c = true

/-- The boundary is the greatest. -/
structure IsGreatest (d : Domain α) (b : α) : Prop where
  isBoundary : d.IsBoundary b
  greatest : ∀ c, d.IsBoundary c → atMost c b = true

/-- There is a greatest offered value exactly if anything is offered. -/
theorem highest?_eq_none_iff : d.highest? = none ↔ d.isEmpty = true := by
  rw [highest?, greatest?_eq_none_iff, List.map_eq_nil_iff, isEmpty, List.isEmpty_iff]

/-- There is a least offered value exactly if anything is offered. -/
theorem lowest?_eq_none_iff : d.lowest? = none ↔ d.isEmpty = true := by
  rw [lowest?, Option.map_eq_none_iff, List.head?_eq_none_iff, isEmpty, List.isEmpty_iff]

private theorem atMost_low_of_head? {first e : DomainEntry α} (h : d.entries.head? = some first)
    (he : e ∈ d.entries) :
    atMost first.low e.low = true := by
  obtain ⟨rest, hrest⟩ := List.head?_eq_some_iff.mp h
  have hsorted := d.pairwise_entries
  rw [hrest] at hsorted he
  rcases List.mem_cons.mp he with rfl | he
  · exact atMost_refl e.low
  · exact DomainEntry.atMost_low_of_lt ((List.pairwise_cons.mp hsorted).1 e he)

/-- The low end of the first entry of an ordered domain is its least boundary. -/
theorem Ordered.isLeast_of_lowest? (hd : d.Ordered) (h : d.lowest? = some b) : d.IsLeast b := by
  obtain ⟨first, hfirst, rfl⟩ := Option.map_eq_some_iff.mp h
  constructor
  · exact ⟨first, List.mem_of_head? hfirst, first.low_mem_ends⟩
  · rintro c ⟨e, he, hc⟩
    exact atMost_trans (atMost_low_of_head? hfirst he)
      (DomainEntry.atMost_of_mem_ends (hd e he) hc).1

/-- The greatest high end of an ordered domain is its greatest boundary. -/
theorem Ordered.isGreatest_of_highest? (hd : d.Ordered) (h : d.highest? = some b) :
    d.IsGreatest b := by
  obtain ⟨hmem, hle⟩ := greatest?_eq_some h
  constructor
  · obtain ⟨e, he, rfl⟩ := List.mem_map.mp hmem
    exact ⟨e, he, e.high_mem_ends⟩
  · rintro c ⟨e, he, hc⟩
    have hhigh := hle e.high (List.mem_map.mpr ⟨e, he, rfl⟩)
    exact atMost_trans (DomainEntry.atMost_of_mem_ends (hd e he) hc).2 hhigh

/-! ### The boundaries in order -/

variable [Std.LawfulEqOrd α]

/-- There is but one least boundary. -/
theorem IsLeast.unique {c : α} (hb : d.IsLeast b) (hc : d.IsLeast c) : b = c :=
  atMost_antisymm (hb.least c hc.isBoundary) (hc.least b hb.isBoundary)

/-- There is but one greatest boundary. -/
theorem IsGreatest.unique {c : α} (hb : d.IsGreatest b) (hc : d.IsGreatest c) : b = c :=
  atMost_antisymm (hc.greatest b hb.isBoundary) (hb.greatest c hc.isBoundary)

/-- There are boundaries exactly if anything is offered. -/
theorem boundaries_eq_nil_iff : d.boundaries = [] ↔ d.isEmpty = true := by
  constructor
  · intro h
    cases hempty : d.isEmpty with
    | true => rfl
    | false =>
      obtain ⟨b, hb⟩ := exists_isBoundary hempty
      rw [← mem_boundaries, h] at hb
      cases hb
  · intro h
    rw [isEmpty, List.isEmpty_iff] at h
    rw [List.eq_nil_iff_forall_not_mem]
    intro b hb
    obtain ⟨e, he, -⟩ := mem_boundaries.mp hb
    rw [h] at he
    cases he

private theorem isLeast_of_head? (h : d.boundaries.head? = some b) : d.IsLeast b where
  isBoundary := mem_boundaries.mp (List.mem_of_head? h)
  least c hc := head?_atMost d.pairwise_boundaries h c (mem_boundaries.mpr hc)

private theorem isGreatest_of_getLast? (h : d.boundaries.getLast? = some b) : d.IsGreatest b where
  isBoundary := mem_boundaries.mp (List.mem_of_getLast? h)
  greatest c hc := atMost_getLast? d.pairwise_boundaries h c (mem_boundaries.mpr hc)

omit [AxisValue α] [Std.TransOrd α] [Std.LawfulEqOrd α] in
private theorem eq_of_unique {P : α → Prop} {o o' : Option α} (hunique : ∀ {b c}, P b → P c → b = c)
    (ho : ∀ b, o = some b → P b) (ho' : ∀ b, o' = some b → P b) (hnone : o = none ↔ o' = none) :
    o = o' := by
  cases o with
  | none => exact (hnone.mp rfl).symm
  | some b =>
    cases o' with
    | none => exact hnone.mpr rfl
    | some c => rw [hunique (ho b rfl) (ho' c rfl)]

/-- In an ordered domain, the low end of the first entry is the first boundary. -/
theorem Ordered.lowest?_eq_head? (hd : d.Ordered) : d.lowest? = d.boundaries.head? := by
  refine eq_of_unique IsLeast.unique (fun b ↦ hd.isLeast_of_lowest?) (fun b ↦ isLeast_of_head?) ?_
  rw [lowest?_eq_none_iff, List.head?_eq_none_iff, boundaries_eq_nil_iff]

/-- In an ordered domain, the greatest high end is the last boundary. -/
theorem Ordered.highest?_eq_getLast? (hd : d.Ordered) : d.highest? = d.boundaries.getLast? := by
  refine eq_of_unique IsGreatest.unique (fun b ↦ hd.isGreatest_of_highest?) (fun b ↦
    isGreatest_of_getLast?) ?_
  rw [highest?_eq_none_iff, List.getLast?_eq_none_iff, boundaries_eq_nil_iff]

/-- The boundaries of a domain are the ends of its entries in strictly increasing order, and if
every span has its ends in order, they lie between the least and the greatest offered value. -/
structure ListsEnds (d : Domain α) : Prop where
  increasing : d.boundaries.Pairwise fun a b ↦ compare a b = .lt
  mem : ∀ v, v ∈ d.boundaries ↔
    ∃ e ∈ d.entries, e = .point v ∨ (∃ high, e = .span v high) ∨ ∃ low, e = .span low v
  /-- Sorting the ends of all entries and dropping repetitions gives the boundaries. -/
  sorted : d.boundaries = sortedOnce (d.entries.flatMap DomainEntry.ends)
  extremes : d.Ordered → d.lowest? = d.boundaries.head? ∧ d.highest? = d.boundaries.getLast?
  lowest_eq_none : d.lowest? = none ↔ d.isEmpty = true
  highest_eq_none : d.highest? = none ↔ d.isEmpty = true

/-- Where only equal values compare equal, the boundaries of every domain are in order. -/
theorem listsEnds [DecidableEq α] (d : Domain α) : d.ListsEnds where
  increasing := d.pairwise_boundaries
  mem v := by
    rw [mem_boundaries]
    refine exists_congr fun e ↦ and_congr_right fun _ ↦ ?_
    cases e <;> simp [DomainEntry.ends, eq_comm]
  sorted := toList_ofList_eq_sortedOnce _
  extremes hd := ⟨hd.lowest?_eq_head?, hd.highest?_eq_getLast?⟩
  lowest_eq_none := lowest?_eq_none_iff
  highest_eq_none := highest?_eq_none_iff

/-- The boundaries of every domain of times or of elevations are in order. -/
theorem boundaries_listEnds :
    (∀ d : TimeDomain, d.ListsEnds) ∧ ∀ d : ElevationDomain, d.ListsEnds :=
  ⟨listsEnds, listsEnds⟩

/-- A span around a span and a point begins with one zero and ends after the last entry, and the
other zero is a boundary of its own. -/
theorem boundaries_listEnds_nested :
    let level (n : Nat) : Double := .ofInt n
    let d : ElevationDomain :=
      .ofList [.point (level 5), .span (.zero true) (level 10), .point (.zero false),
        .span (level 2) (level 3)]
    d.Ordered ∧ d.boundaries = [.zero true, .zero false, level 2, level 3, level 5, level 10] ∧
      d.entries.getLast? = some (.point (level 5)) ∧ d.lowest? = some (.zero true) ∧
        d.highest? = some (level 10) := by
  intro level d
  have hd : d.Ordered := ordered_ofList (by decide +kernel)
  have hlisted : d.boundaries = [.zero true, .zero false, level 2, level 3, level 5, level 10] := by
    decide +kernel
  obtain ⟨hlowest, hhighest⟩ := (boundaries_listEnds.2 d).extremes hd
  rw [hlisted] at hlowest hhighest
  exact ⟨hd, hlisted, by decide +kernel, hlowest, hhighest⟩

/-- A span that was written the wrong way round has its low end last. -/
example :
    let d : ElevationDomain := .ofList [.span (.ofInt 10) (.zero false)]
    d.boundaries = [.zero false, .ofInt 10] ∧ d.lowest? = some (.ofInt 10) ∧
      d.highest? = some (.zero false) := by
  decide +kernel

end Domain

end CoverageSubset

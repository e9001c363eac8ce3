import CoverageSubset.Proofs.Defaults

/-!
# Default values that no record has

A request may leave a dimension open for which no record holds a usable start. Then default values
change nothing: as long as none are needed or no record matches, the request stays as it is, and
where one is needed and some record matches, whichever record comes first is at fault, unless the
records cannot be sorted.
-/

namespace CoverageSubset

private theorem DimensionSource.cover_of_value?_eq_none {α : Type} [AttributeKind α]
    {s : DimensionSource} {g : Granule} (h : g.value? s.start = (none : Option α)) :
    (s.cover g : Except UnusableAttribute (Interval α)) = .error ⟨g.id, s.name, s.start⟩ := by
  unfold cover read
  rw [h]
  rfl

namespace GridRequest

section Dimension

variable {α : Type} [AttributeKind α] {given : Option (Interval α)}
  {source : Option DimensionSource} {g : Granule} {gs : List Granule}

/-- Where a dimension is open, no record holds a usable start for it. -/
def Unserved (gs : List Granule) (given : Option (Interval α)) (source : Option DimensionSource) :
    Prop :=
  given = none → ∀ s, source = some s → ∀ g ∈ gs, g.value? s.start = (none : Option α)

/-- A dimension that is not lacking stays as it is, whatever the record is. -/
theorem fillFrom_of_not_lacks (h : ¬ Lacks given source) :
    fillFrom g source given = .ok given := by
  cases given with
  | some i => rfl
  | none =>
    cases source with
    | none => rfl
    | some s => exact absurd ⟨rfl, rfl⟩ h

private theorem fillFrom_of_lacks (h : Lacks given source) (hgs : Unserved gs given source)
    (hg : g ∈ gs) :
    ∃ u, fillFrom g source given = .error u := by
  obtain ⟨hopen, hsome⟩ := h
  obtain ⟨s, hs⟩ := Option.isSome_iff_exists.mp hsome
  have hnone : g.value? s.start = (none : Option α) := hgs hopen s hs g hg
  refine ⟨⟨g.id, s.name, s.start⟩, ?_⟩
  rw [hopen, hs, fillFrom, DimensionSource.cover_of_value?_eq_none hnone]
  rfl

end Dimension

variable {r : GridRequest} {g : Granule} {gs : List Granule}
  {time elevation : Option DimensionSource} {sources : List DimensionSource} {store : GranuleStore}

/-- A request that lacks a dimension which the records do not serve is not filled in from any of
them. -/
theorem fillFromGranule_of_lacks (h : Lacks r.temporal time ∨ Lacks r.elevation elevation)
    (htime : Unserved gs r.temporal time) (helevation : Unserved gs r.elevation elevation)
    (hg : g ∈ gs) :
    ∃ u, (r.fillFromGranule g time elevation).fault = some (.unusable u) := by
  by_cases hlacks : Lacks r.temporal time
  · obtain ⟨u, hu⟩ := fillFrom_of_lacks hlacks htime hg
    exact ⟨u, by rw [fillFromGranule, hu]⟩
  · have hother := h.resolve_left hlacks
    obtain ⟨u, hu⟩ := fillFrom_of_lacks hother helevation hg
    exact ⟨u, by simp only [fillFromGranule, fillFrom_of_not_lacks hlacks, hu]⟩

/-- A request that lacks a dimension which no record serves, and that some record matches, is not
filled in: the record is at fault that is taken, or the records cannot be sorted. -/
theorem fillFromStore_of_unserved (h : r.Stalls sources store)
    (htime : Unserved store.granules r.temporal (sources.find? DimensionSource.isTime))
    (helevation : Unserved store.granules r.elevation
      (sources.find? DimensionSource.isElevation)) :
    (∃ u, (r.fillFromStore sources store).fault = some (.unusable u)) ∨
      (r.fillFromStore sources store).fault = some .unsorted ∧
        store.Unsortable (r.defaultsQuery sources) := by
  rcases fillFromStore_of_stalls h with ⟨hselect, hfill⟩ | ⟨g, -, hfound, hfill⟩
  · rw [hfill]
    exact .inr ⟨rfl, GranuleStore.unsortable_of_select_eq_none hselect⟩
  · rw [hfill]
    exact .inl (fillFromGranule_of_lacks h.lacks htime helevation
      (GranuleStore.mem_found.mp hfound).1)

end GridRequest

end CoverageSubset

import CoverageSubset.Defaults
import CoverageSubset.Proofs.Granule.Selection
import CoverageSubset.Proofs.Outcome

/-!
# Filling in default values

A dimension that is given, or that has no source, stays as it is; any other one is filled in with
what one record covers. A store is searched for that record only where a request stalls: a dimension
is open though it has a source, and some record matches. Then the first record that is selected is
taken, unless the records cannot be sorted.
-/

namespace CoverageSubset

namespace DimensionSource

variable {α : Type} [AttributeKind α] {s : DimensionSource} {g : Granule}

private theorem read_eq_ok_iff {name : String} {v : α} :
    s.read g name = .ok v ↔ g.value? name = some v := by
  rw [read]
  cases (g.value? name : Option α) <;> simp

/-- A record covers an interval exactly if its attributes hold the ends. -/
theorem cover_eq_ok_iff {i : Interval α} :
    s.cover g = .ok i ↔
      g.value? s.start = some i.low ∧ s.stop.elim (i.high = i.low) fun stop ↦
        g.value? stop = some i.high := by
  rw [cover]
  cases s.stop with
  | none =>
    simp only [bind_eq_ok_iff, read_eq_ok_iff, Except.ok.injEq, Option.elim_none]
    constructor
    · rintro ⟨low, hlow, rfl⟩
      exact ⟨hlow, rfl⟩
    · rintro ⟨hlow, hhigh⟩
      exact ⟨i.low, hlow, congrArg (Interval.mk i.low) hhigh.symm⟩
  | some stop =>
    simp only [bind_eq_ok_iff, read_eq_ok_iff, Except.ok.injEq, Option.elim_some]
    constructor
    · rintro ⟨low, hlow, high, hhigh, rfl⟩
      exact ⟨hlow, hhigh⟩
    · rintro ⟨hlow, hhigh⟩
      exact ⟨i.low, hlow, i.high, hhigh, rfl⟩

end DimensionSource

namespace GridRequest

variable {r : GridRequest} {g : Granule} {time elevation : Option DimensionSource}
  {sources : List DimensionSource} {store : GranuleStore}

section FillFrom

variable {α : Type} [AttributeKind α] {source : Option DimensionSource}
  {given got : Option (Interval α)} {i : Interval α} {u : UnusableAttribute}

/-- A dimension stays as it was given or, without a source, open; else it is filled in with what the
record covers. -/
theorem fillFrom_eq_ok_iff :
    fillFrom g source given = .ok got ↔
      (∃ i, given = some i ∧ got = some i) ∨ (given = none ∧ source = none ∧ got = none) ∨
        ∃ s i, given = none ∧ source = some s ∧ s.cover g = .ok i ∧ got = some i := by
  cases given with
  | some i => simp [fillFrom, eq_comm]
  | none =>
    cases source with
    | none => simp [fillFrom, eq_comm]
    | some s =>
      cases hcover : (s.cover g : Except UnusableAttribute (Interval α)) with
      | error u => simp [fillFrom, hcover, Except.map]
      | ok i => simp [fillFrom, hcover, Except.map, eq_comm]

/-- A dimension that cannot be filled in is open and has a source that the record does not serve. -/
theorem fillFrom_eq_error_iff :
    (fillFrom g source given : Except UnusableAttribute (Option (Interval α))) = .error u ↔
      given = none ∧ ∃ s, source = some s ∧ (s.cover g : Except UnusableAttribute (Interval α)) =
        .error u := by
  cases given with
  | some i => simp [fillFrom]
  | none =>
    cases source with
    | none => simp [fillFrom]
    | some s =>
      cases hcover : (s.cover g : Except UnusableAttribute (Interval α)) with
      | error u' => simp [fillFrom, hcover, Except.map]
      | ok i => simp [fillFrom, hcover, Except.map]

/-- An open dimension that is filled in has a source, and the record covers the interval. -/
theorem cover_of_fillFrom (h : fillFrom g source none = .ok (some i)) :
    ∃ s, source = some s ∧ s.cover g = .ok i := by
  simpa [fillFrom_eq_ok_iff] using h

end FillFrom

/-- Without a fault both dimensions are filled in from the record. -/
theorem fillFromGranule_of_no_fault (h : (r.fillFromGranule g time elevation).fault = none) :
    fillFrom g time r.temporal = .ok (r.fillFromGranule g time elevation).request.temporal ∧
      fillFrom g elevation r.elevation =
        .ok (r.fillFromGranule g time elevation).request.elevation := by
  revert h
  rw [fillFromGranule]
  cases htime : fillFrom g time r.temporal with
  | error u => simp
  | ok temporal =>
    cases helevation : fillFrom g elevation r.elevation with
    | error u => simp
    | ok filled => simp

/-! ### Searching a store -/

/-- A dimension is open though it has a source. -/
def Lacks {α : Type} (given : Option (Interval α)) (source : Option DimensionSource) : Prop :=
  given = none ∧ source.isSome = true

/-- A dimension is lacking, and some record matches the request. -/
structure Stalls (r : GridRequest) (sources : List DimensionSource) (store : GranuleStore) :
    Prop where
  lacks : Lacks r.temporal (sources.find? DimensionSource.isTime) ∨
    Lacks r.elevation (sources.find? DimensionSource.isElevation)
  found : ∃ g, g ∈ store.found
    (r.granuleFilter (sources.find? DimensionSource.isTime)
      (sources.find? DimensionSource.isElevation))

/-- The query for the record that default values are taken from. -/
def defaultsQuery (r : GridRequest) (sources : List DimensionSource) : GranuleQuery :=
  r.latestQuery (sources.find? DimensionSource.isTime) (sources.find? DimensionSource.isElevation)

/-- The record that default values are taken from. -/
def latest? (r : GridRequest) (sources : List DimensionSource) (store : GranuleStore) :
    Option Granule :=
  (store.select (r.defaultsQuery sources)).bind List.head?

private theorem needed_iff_lacks :
    (!(r.temporal.isNone && time.isSome) && !(r.elevation.isNone && elevation.isSome)) = false ↔
      Lacks r.temporal time ∨ Lacks r.elevation elevation := by
  simp only [Lacks, Bool.and_eq_false_iff, Bool.not_eq_false', Bool.and_eq_true,
    Option.isNone_iff_eq_none]

/-- A request that lacks nothing, or that no record matches, stays as it is. -/
theorem fillFromStore_of_not_stalls (h : ¬ r.Stalls sources store) :
    r.fillFromStore sources store = ⟨r, none⟩ := by
  rw [fillFromStore]
  split
  · rfl
  · next hneeded =>
    have hlacks := needed_iff_lacks.mp (Bool.eq_false_iff.mpr hneeded)
    split
    · next hselect =>
      exact absurd ⟨hlacks, (GranuleStore.unsortable_of_select_eq_none hselect).exists_mem_found⟩ h
    · rfl
    · next g rest hselect =>
      have hfound := GranuleStore.mem_found_of_mem_select hselect List.mem_cons_self
      exact absurd ⟨hlacks, g, hfound⟩ h

/-- A request that stalls is filled in from the record that is selected first, unless the records
cannot be sorted. -/
theorem fillFromStore_of_stalls (h : r.Stalls sources store) :
    (store.select (r.defaultsQuery sources) = none ∧
        r.fillFromStore sources store = ⟨r, some .unsorted⟩) ∨
      ∃ g, r.latest? sources store = some g ∧ g ∈ store.found (r.defaultsQuery sources).filter ∧
        r.fillFromStore sources store =
          r.fillFromGranule g (sources.find? DimensionSource.isTime)
            (sources.find? DimensionSource.isElevation) := by
  rw [fillFromStore, if_neg (Bool.eq_false_iff.mp (needed_iff_lacks.mpr h.lacks))]
  split
  · next hselect => exact .inl ⟨hselect, rfl⟩
  · next hselect =>
    obtain ⟨g, hg⟩ := h.found
    rw [GranuleStore.found_eq_nil_of_select_one hselect] at hg
    cases hg
  · next g rest hselect =>
    refine .inr ⟨g, ?_, GranuleStore.mem_found_of_mem_select hselect List.mem_cons_self, rfl⟩
    exact (congrArg (Option.bind · List.head?) hselect).trans rfl

end GridRequest

end CoverageSubset

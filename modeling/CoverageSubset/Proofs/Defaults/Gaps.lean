import CoverageSubset.Proofs.Defaults
import CoverageSubset.Proofs.Domain.Extremes

/-!
# Default values fill gaps

Default values go where a request is open, and nowhere else, whether or not there is a fault.
Without a fault a gap stays exactly if the reader has nothing for it: no domain that offers
anything, no source, or no record that matches. A record that matches gives its values to all gaps
with a source, so nothing is left for a second time, though the filled request asks for other
records than the first one did.
-/

namespace CoverageSubset

namespace GridRequest

section Dimension

variable {α : Type} [AttributeKind α] {given got : Option (Interval α)}
  {source : Option DimensionSource} {g : Granule} {i : Interval α}

private theorem eq_some_of_fillFrom (h : fillFrom g source given = .ok got) (hi : given = some i) :
    got = some i := by
  subst hi
  exact (Except.ok.inj h).symm

/-- A dimension that is filled in without a fault is left open only where it has no source. -/
theorem eq_none_iff_of_fillFrom (h : fillFrom g source given = .ok got) :
    got = none ↔ given = none ∧ source = none := by
  rcases fillFrom_eq_ok_iff.mp h with ⟨i, rfl, rfl⟩ | ⟨rfl, rfl, rfl⟩ | ⟨s, i, rfl, rfl, -, rfl⟩
  · simp
  · simp
  · simp

private theorem not_lacks_of_fillFrom (h : fillFrom g source given = .ok got) :
    ¬ Lacks got source := by
  rintro ⟨hopen, hsome⟩
  rw [((eq_none_iff_of_fillFrom h).mp hopen).2] at hsome
  cases hsome

end Dimension

variable {r : GridRequest} {g : Granule} {time elevation : Option DimensionSource}
  {sources : List DimensionSource}
  {store : GranuleStore} {times : Option TimeDomain} {elevations : Option ElevationDomain}

/-! ### What is kept -/

/-- A request keeps all that it has: only a time or an elevation that it is open in may be there in
addition. -/
structure KeptIn (r filled : GridRequest) : Prop where
  temporal : ∀ i, r.temporal = some i → filled.temporal = some i
  elevation : ∀ i, r.elevation = some i → filled.elevation = some i
  custom : filled.custom = r.custom
  spatial : filled.spatial = r.spatial

/-- A request that stays as it is keeps all that it has. -/
theorem KeptIn.refl (r : GridRequest) : r.KeptIn r := ⟨fun _ h ↦ h, fun _ h ↦ h, rfl, rfl⟩

private theorem keptIn_fillFromDomains (r : GridRequest) (times : Option TimeDomain)
    (elevations : Option ElevationDomain) :
    r.KeptIn (r.fillFromDomains times elevations) where
  temporal i hi := by rw [fillFromDomains, hi, Option.some_or]
  elevation i hi := by rw [fillFromDomains, hi, Option.some_or]
  custom := rfl
  spatial := rfl

private theorem keptIn_fillFromGranule (r : GridRequest) (g : Granule)
    (time elevation : Option DimensionSource) :
    r.KeptIn (r.fillFromGranule g time elevation).request := by
  rw [fillFromGranule]
  cases htime : fillFrom g time r.temporal with
  | error u => exact KeptIn.refl r
  | ok temporal =>
    cases helevation : fillFrom g elevation r.elevation with
    | error u => exact ⟨fun i ↦ eq_some_of_fillFrom htime, fun _ h ↦ h, rfl, rfl⟩
    | ok filled =>
      exact ⟨fun i ↦ eq_some_of_fillFrom htime, fun i ↦ eq_some_of_fillFrom helevation, rfl, rfl⟩

/-- A store gives values to the gaps of a request only. -/
theorem keptIn_fillFromStore (r : GridRequest) (sources : List DimensionSource)
    (store : GranuleStore) :
    r.KeptIn (r.fillFromStore sources store).request := by
  by_cases hstalls : r.Stalls sources store
  · rcases fillFromStore_of_stalls hstalls with ⟨-, hfill⟩ | ⟨g, -, -, hfill⟩
    · rw [hfill]
      exact KeptIn.refl r
    · rw [hfill]
      exact keptIn_fillFromGranule r g _ _
  · rw [fillFromStore_of_not_stalls hstalls]
    exact KeptIn.refl r

/-! ### What is left open -/

/-- Some record meets what the request asks for already. -/
def IsMet (r : GridRequest) (sources : List DimensionSource) (store : GranuleStore) : Prop :=
  ∃ g ∈ store.granules, (r.granuleFilter (sources.find? DimensionSource.isTime)
    (sources.find? DimensionSource.isElevation)).matchesGranule g = true

private theorem stalls_iff :
    r.Stalls sources store ↔
      (Lacks r.temporal (sources.find? DimensionSource.isTime) ∨
        Lacks r.elevation (sources.find? DimensionSource.isElevation)) ∧ r.IsMet sources store := by
  simp only [IsMet, ← GranuleStore.mem_found]
  exact ⟨fun h ↦ ⟨h.lacks, h.found⟩, fun h ↦ ⟨h.1, h.2⟩⟩

/-- A request that stalls and is filled in without a fault has both dimensions filled in from one
record. -/
theorem exists_fillFrom_of_stalls (h : r.Stalls sources store)
    (hfault : (r.fillFromStore sources store).fault = none) :
    ∃ g, fillFrom g (sources.find? DimensionSource.isTime) r.temporal =
        .ok (r.fillFromStore sources store).request.temporal ∧
      fillFrom g (sources.find? DimensionSource.isElevation) r.elevation =
        .ok (r.fillFromStore sources store).request.elevation := by
  rcases fillFromStore_of_stalls h with ⟨-, hfill⟩ | ⟨g, -, -, hfill⟩
  · rw [hfill] at hfault
    cases hfault
  · rw [hfill] at hfault ⊢
    exact ⟨g, fillFromGranule_of_no_fault hfault⟩

/-- A gap stays open after a search without a fault exactly if it has no source or no record meets
the request. -/
theorem fillFromStore_open_iff (h : (r.fillFromStore sources store).fault = none) :
    ((r.fillFromStore sources store).request.temporal = none ↔
        r.temporal = none ∧
          ¬ ((sources.find? DimensionSource.isTime).isSome = true ∧ r.IsMet sources store)) ∧
      ((r.fillFromStore sources store).request.elevation = none ↔
        r.elevation = none ∧
          ¬ ((sources.find? DimensionSource.isElevation).isSome = true ∧
            r.IsMet sources store)) := by
  by_cases hstalls : r.Stalls sources store
  · have hmet := (stalls_iff.mp hstalls).2
    obtain ⟨g, htime, helevation⟩ := exists_fillFrom_of_stalls hstalls h
    simp [eq_none_iff_of_fillFrom htime, eq_none_iff_of_fillFrom helevation, hmet]
  · rw [fillFromStore_of_not_stalls hstalls]
    rw [stalls_iff] at hstalls
    constructor
    · exact ⟨fun hopen ↦ ⟨hopen, fun hmet ↦ hstalls ⟨.inl ⟨hopen, hmet.1⟩, hmet.2⟩⟩, And.left⟩
    · exact ⟨fun hopen ↦ ⟨hopen, fun hmet ↦ hstalls ⟨.inr ⟨hopen, hmet.1⟩, hmet.2⟩⟩, And.left⟩

private theorem or_highest?_eq_none_iff {α : Type} [AxisValue α] [Std.TransOrd α]
    {given : Option (Interval α)} {domain : Option (Domain α)} :
    given.or ((domain.bind Domain.highest?).map .slice) = none ↔
      given = none ∧ ¬ ∃ d, domain = some d ∧ d.isEmpty = false := by
  rw [Option.or_eq_none_iff, Option.map_eq_none_iff]
  cases domain with
  | none => simp
  | some d => simp [Domain.highest?_eq_none_iff]

/-! ### The second time -/

private theorem fillFromDomains_fillFromDomains :
    (r.fillFromDomains times elevations).fillFromDomains times elevations =
      r.fillFromDomains times elevations := by
  simp [fillFromDomains, Option.or_assoc]

/-- A request that a store was searched for without a fault stalls no more. -/
theorem not_stalls_fillFromStore (h : (r.fillFromStore sources store).fault = none) :
    ¬ (r.fillFromStore sources store).request.Stalls sources store := by
  by_cases hstalls : r.Stalls sources store
  · obtain ⟨g, htime, helevation⟩ := exists_fillFrom_of_stalls hstalls h
    intro hagain
    rcases hagain.lacks with hlacks | hlacks
    · exact not_lacks_of_fillFrom htime hlacks
    · exact not_lacks_of_fillFrom helevation hlacks
  · rwa [fillFromStore_of_not_stalls hstalls]

end GridRequest

namespace Reader

variable {reader : Reader} {format : Option String} {r : GridRequest}

/-- The reader has a time for a request that is open in it. -/
def HasTime (reader : Reader) (r : GridRequest) : Prop :=
  match reader with
  | standard times _ => ∃ d, times = some d ∧ d.isEmpty = false
  | structured sources store =>
    (sources.find? DimensionSource.isTime).isSome = true ∧ r.IsMet sources store

/-- The reader has an elevation for a request that is open in it. -/
def HasElevation (reader : Reader) (r : GridRequest) : Prop :=
  match reader with
  | standard _ elevations => ∃ d, elevations = some d ∧ d.isEmpty = false
  | structured sources store =>
    (sources.find? DimensionSource.isElevation).isSome = true ∧ r.IsMet sources store

/-- Default values are filled into the gaps of a request, and after that nothing more. -/
structure FillsGapsOnce (reader : Reader) (format : Option String) (r : GridRequest) : Prop where
  /-- With a fault or without one, what the request has stays. -/
  kept : r.KeptIn (reader.fill format r).request
  time : (reader.fill format r).fault = none →
    ((reader.fill format r).request.temporal = none ↔
      r.temporal = none ∧ ¬ (needsDefaults format = true ∧ reader.HasTime r))
  elevation : (reader.fill format r).fault = none →
    ((reader.fill format r).request.elevation = none ↔
      r.elevation = none ∧ ¬ (needsDefaults format = true ∧ reader.HasElevation r))
  /-- Without a fault, the filled request is filled in again without one, and stays as it is. -/
  again : (reader.fill format r).fault = none →
    reader.fill format (reader.fill format r).request = ⟨(reader.fill format r).request, none⟩

private theorem fillsGapsOnce_of_not_needed (h : needsDefaults format = false) :
    reader.FillsGapsOnce format r := by
  constructor <;> simp [fill_of_not_needed h, GridRequest.KeptIn.refl, h]

/-- Where defaults are needed, domains fill the gaps that they offer something for. -/
theorem fillsGapsOnce_standard (h : needsDefaults format = true) (times : Option TimeDomain)
    (elevations : Option ElevationDomain) (r : GridRequest) :
    (standard times elevations).FillsGapsOnce format r := by
  have hfill := fill_standard h times elevations
  constructor
  · rw [hfill]
    exact r.keptIn_fillFromDomains times elevations
  · intro _
    simp only [hfill, h, true_and]
    exact GridRequest.or_highest?_eq_none_iff
  · intro _
    simp only [hfill, h, true_and]
    exact GridRequest.or_highest?_eq_none_iff
  · intro _
    rw [hfill, hfill, GridRequest.fillFromDomains_fillFromDomains]

/-- Where defaults are needed, records fill the gaps that have a source, if one of them matches. -/
theorem fillsGapsOnce_structured (h : needsDefaults format = true) (sources : List DimensionSource)
    (store : GranuleStore) (r : GridRequest) :
    (structured sources store).FillsGapsOnce format r := by
  have hfill := fill_structured h sources store
  constructor
  · rw [hfill]
    exact r.keptIn_fillFromStore sources store
  · intro hfault
    rw [hfill] at hfault
    simp only [hfill, h, true_and]
    exact (GridRequest.fillFromStore_open_iff hfault).1
  · intro hfault
    rw [hfill] at hfault
    simp only [hfill, h, true_and]
    exact (GridRequest.fillFromStore_open_iff hfault).2
  · intro hfault
    rw [hfill] at hfault
    -- The filled request asks for other records, but has nothing left to ask them for.
    rw [hfill, hfill]
    exact GridRequest.fillFromStore_of_not_stalls (GridRequest.not_stalls_fillFromStore hfault)

/-- Every reader fills the gaps of every request once, and leaves alone what is no gap. -/
theorem fill_fillsGapsOnce (reader : Reader) (format : Option String) (r : GridRequest) :
    reader.FillsGapsOnce format r := by
  cases hneeded : needsDefaults format with
  | false => exact fillsGapsOnce_of_not_needed hneeded
  | true =>
    cases reader with
    | standard times elevations => exact fillsGapsOnce_standard hneeded times elevations r
    | structured sources store => exact fillsGapsOnce_structured hneeded sources store r

end Reader

end CoverageSubset

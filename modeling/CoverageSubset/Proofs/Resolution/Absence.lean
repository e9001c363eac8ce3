import CoverageSubset.Proofs.Defaults.Gaps
import CoverageSubset.Proofs.Resolution

/-!
# Dimensions that a coverage does not have

Directives leave a dimension open that the coverage does not have, and domains give no default value
for it. But the sources of default values are found by name among those of all dimensions. So a
custom dimension by the name of time or of elevation gives a value to a dimension that the coverage
does not have, as soon as default values are taken from a granule.
-/

namespace CoverageSubset

namespace GridRequest

variable {α : Type} [AttributeKind α] {given : Option (Interval α)}
  {own other : Option DimensionSource}

private theorem dimensionFilter_or (h : own = none → given = none) :
    dimensionFilter given (own.or other) = dimensionFilter given own := by
  cases own with
  | none =>
    rw [h rfl]
    rfl
  | some s => rfl

end GridRequest

/-- Directives leave a dimension open that the coverage does not have. -/
theorem Subsetting.eq_none_of_resolve? {α : Type} [AxisValue α] [Std.TransOrd α] [AttributeKind α]
    [Requestable α] {s : Subsetting} {own : Option DimensionSource} {gs : List Granule}
    {given : Option (Interval α)}
    (h : s.resolve? (own.map fun source ↦ (source.domain gs : Domain α)) = .ok given)
    (hown : own = none) : given = none := by
  subst hown
  exact (Except.ok.inj h).symm

namespace Coverage

variable {c : Coverage} {gs : List Granule} {store : GranuleStore} {s : Subsetting}
  {envelope : Option Envelope} {format : Option String} {r : GridRequest}

/-- Some enabled custom dimension goes by a name, in any ASCII case. -/
def NamesCustom (c : Coverage) (name : String) : Prop :=
  ∃ n ∈ c.customNames, Text.lowercaseAscii n = name

instance (c : Coverage) (name : String) : Decidable (c.NamesCustom name) :=
  inferInstanceAs (Decidable (∃ n ∈ c.customNames, Text.lowercaseAscii n = name))

/-- Default values are needed, the coverage has records, and one of them meets the request. -/
structure TakesDefaults (c : Coverage) (gs : List Granule) (format : Option String)
    (r : GridRequest) : Prop where
  needed : needsDefaults format = true
  structured : c.isStructured = true
  found : ∃ g ∈ gs, (r.granuleFilter c.time? c.elevation?).matchesGranule g = true

/-! ### Sources of the same name -/

/-- Without the dimension itself, the source of its default values is a custom one. -/
theorem isSome_find?_sources_iff {d : Dimension} (h : c.source? d = none) :
    (c.sources.find? (DimensionSource.isOf d)).isSome = true ↔ c.NamesCustom d.name := by
  rw [find?_sources_eq, h, Option.none_or, List.find?_isSome, NamesCustom, ← map_name_customSources]
  simp only [List.mem_map, exists_exists_and_eq_and, DimensionSource.isOf_iff]

private theorem granuleFilter_of_directed (h : c.directed gs s = .ok r)
    (envelope : Option Envelope) :
    GridRequest.granuleFilter { r with spatial := envelope }
        (c.sources.find? (DimensionSource.isOf .time))
        (c.sources.find? (DimensionSource.isOf .elevation)) =
      GridRequest.granuleFilter { r with spatial := envelope } c.time? c.elevation? := by
  obtain ⟨htimes, helevations, -⟩ := GridRequest.resolve_eq_ok_iff.mp h
  have htime : c.source? .time = none → r.temporal = none := Subsetting.eq_none_of_resolve? htimes
  have helevation : c.source? .elevation = none → r.elevation = none :=
    Subsetting.eq_none_of_resolve? helevations
  rw [GridRequest.granuleFilter, GridRequest.granuleFilter, find?_sources_eq, find?_sources_eq,
    GridRequest.dimensionFilter_or htime, GridRequest.dimensionFilter_or helevation]
  rfl

/-! ### Default values -/

/-- What directives resolve to stalls exactly if default values are taken from a granule and a
dimension is open that some source goes by the name of. -/
theorem stalls_iff_of_directed (hr : c.directed store.granules s = .ok r) :
    c.Stalls store format { r with spatial := envelope } ↔
      c.TakesDefaults store.granules format { r with spatial := envelope } ∧
        (GridRequest.Lacks r.temporal (c.sources.find? (DimensionSource.isOf .time)) ∨
          GridRequest.Lacks r.elevation (c.sources.find? (DimensionSource.isOf .elevation))) := by
  have hfilter := granuleFilter_of_directed hr envelope
  constructor
  · rintro ⟨hneeded, hstructured, hlacks, g, hg⟩
    have hmem := GranuleStore.mem_found.mp hg
    exact ⟨⟨hneeded, hstructured, g, hmem.1, hfilter ▸ hmem.2⟩, hlacks⟩
  · rintro ⟨⟨hneeded, hstructured, g, hg⟩, hlacks⟩
    refine ⟨hneeded, hstructured, hlacks, g, GranuleStore.mem_found.mpr ⟨hg.1, ?_⟩⟩
    exact hfilter ▸ hg.2

section Dimension

variable {α : Type} {d : Dimension} {given got : Option (Interval α)} {takes : Prop}

private theorem open_iff_of_fillFrom [AttributeKind α] {g : Granule} (hd : c.source? d = none)
    (hopen : given = none) (htakes : takes)
    (hfill : GridRequest.fillFrom g (c.sources.find? (DimensionSource.isOf d)) given = .ok got) :
    got = none ↔ ¬ (c.NamesCustom d.name ∧ takes) := by
  rw [GridRequest.eq_none_iff_of_fillFrom hfill, and_iff_right hopen, and_iff_left htakes,
    ← isSome_find?_sources_iff hd, Option.not_isSome_iff_eq_none]

private theorem open_iff_of_not_lacks (hd : c.source? d = none) (hopen : given = none)
    (h : takes → ¬ GridRequest.Lacks given (c.sources.find? (DimensionSource.isOf d))) :
    given = none ↔ ¬ (c.NamesCustom d.name ∧ takes) :=
  iff_of_true hopen fun hnames ↦
    h hnames.2 ⟨hopen, (isSome_find?_sources_iff hd).mpr hnames.1⟩

end Dimension

/-- A dimension that the coverage does not have is filled in exactly if a custom one goes by its
name and default values are taken from a granule. -/
theorem fill_open_iff (hr : c.directed store.granules s = .ok r)
    (hfault : ((c.reader store).fill format { r with spatial := envelope }).fault = none) :
    (c.time? = none →
        (((c.reader store).fill format { r with spatial := envelope }).request.temporal = none ↔
          ¬ (c.NamesCustom "time" ∧
            c.TakesDefaults store.granules format { r with spatial := envelope }))) ∧
      (c.elevation? = none →
        (((c.reader store).fill format { r with spatial := envelope }).request.elevation = none ↔
          ¬ (c.NamesCustom "elevation" ∧
            c.TakesDefaults store.granules format { r with spatial := envelope }))) := by
  obtain ⟨htimes, helevations, -⟩ := GridRequest.resolve_eq_ok_iff.mp hr
  have htime : c.time? = none → r.temporal = none := Subsetting.eq_none_of_resolve? htimes
  have helevation : c.elevation? = none → r.elevation = none :=
    Subsetting.eq_none_of_resolve? helevations
  by_cases hstalls : c.Stalls store format { r with spatial := envelope }
  · have htakes := ((stalls_iff_of_directed hr).mp hstalls).1
    have hfill : (c.reader store).fill format { r with spatial := envelope } =
        GridRequest.fillFromStore { r with spatial := envelope } c.sources store := by
      simp only [reader, hstalls.structured, ite_true, Reader.fill_structured hstalls.needed]
    rw [hfill] at hfault ⊢
    -- Both dimensions are filled in from one record, so only a missing source leaves one open.
    obtain ⟨g, hfillTime, hfillElevation⟩ :=
      GridRequest.exists_fillFrom_of_stalls hstalls.request hfault
    exact ⟨fun ht ↦ open_iff_of_fillFrom (d := .time) ht (htime ht) htakes hfillTime,
      fun he ↦ open_iff_of_fillFrom (d := .elevation) he (helevation he) htakes hfillElevation⟩
  · rw [fill_of_not_stalls hr hstalls]
    rw [stalls_iff_of_directed hr] at hstalls
    exact ⟨fun ht ↦ open_iff_of_not_lacks (d := .time) ht (htime ht)
        fun htakes hlacks ↦ hstalls ⟨htakes, .inl hlacks⟩,
      fun he ↦ open_iff_of_not_lacks (d := .elevation) he (helevation he)
        fun htakes hlacks ↦ hstalls ⟨htakes, .inr hlacks⟩⟩

/-! ### The outcome -/

/-- A dimension that the coverage does not have is left open in what is resolved, unless an enabled
custom dimension goes by its name and default values are taken from a granule: then it is filled
in. -/
theorem resolve_leaves_absent_iff (h : c.resolve store s envelope format = .ok r) :
    ∃ r₀, c.resolve store s none none = .ok r₀ ∧
      (c.time? = none → (r.temporal = none ↔
        ¬ (c.NamesCustom "time" ∧
          c.TakesDefaults store.granules format { r₀ with spatial := envelope }))) ∧
      (c.elevation? = none → (r.elevation = none ↔
        ¬ (c.NamesCustom "elevation" ∧
          c.TakesDefaults store.granules format { r₀ with spatial := envelope }))) := by
  cases hr : c.directed store.granules s with
  | error f =>
    rw [resolve_of_directed_error hr] at h
    cases h
  | ok r₀ =>
    refine ⟨r₀, by rw [resolve_none_none, hr]; rfl, ?_⟩
    rw [resolve_of_directed_ok hr] at h
    split at h
    · cases h
    · next hfault =>
      obtain rfl := Except.ok.inj h
      exact fill_open_iff hr hfault

/-- The default values of a coverage with an elevation and a custom dimension of another name leave
time open. -/
theorem resolve_leaves_absent_beside_bands :
    let c : Coverage := ⟨"sst", none, false, true,
      ⟨none, some ⟨true, "depth", none⟩, [⟨"bands", ⟨true, "band", none⟩⟩]⟩⟩
    let store : GranuleStore :=
      .ofList [(Granule.ofId "g1").withAttribute "depth" (.number (.zero false))]
    ∃ r, c.resolve store ⟨[], .withExtra []⟩ none (some "image/tiff") = .ok r ∧ c.time? = none ∧
      r.temporal = none := by
  intro c store
  have hnames : ¬ c.NamesCustom "time" := by decide +kernel +revert
  have hok : (c.resolve store ⟨[], .withExtra []⟩ none (some "image/tiff")).toBool = true := by
    decide +kernel +revert
  obtain ⟨r, hr⟩ := exists_eq_ok hok
  obtain ⟨r₀, -, htime, -⟩ := resolve_leaves_absent_iff hr
  exact ⟨r, hr, rfl, (htime rfl).mpr fun h ↦ hnames h.1⟩

/-- A custom dimension by the name of time fills in a time that the coverage does not have. -/
theorem resolve_fills_absent_time :
    let c : Coverage :=
      ⟨"sst", none, false, true, ⟨none, none, [⟨"time", ⟨true, "ingestion", none⟩⟩]⟩⟩
    let day : Instant := { day := 18262, second := 0, nano := 0 }
    let store : GranuleStore :=
      .ofList [(Granule.ofId "g1").withAttribute "ingestion" (.time day)]
    c.time? = none ∧
      ∃ r, c.resolve store ⟨[], .withExtra []⟩ none (some "image/tiff") = .ok r ∧
        r.temporal = some (.slice day) := by
  intro c day store
  refine ⟨rfl, ?_⟩
  have htemporal : (c.resolve store ⟨[], .withExtra []⟩ none (some "image/tiff")).toOption.map
    GridRequest.temporal =
      some (some (.slice day)) := by decide +kernel +revert
  cases hr : c.resolve store ⟨[], .withExtra []⟩ none (some "image/tiff") with
  | error f =>
    rw [hr] at htemporal
    cases htemporal
  | ok r =>
    rw [hr] at htemporal
    exact ⟨r, rfl, Option.some.inj htemporal⟩

end Coverage

end CoverageSubset

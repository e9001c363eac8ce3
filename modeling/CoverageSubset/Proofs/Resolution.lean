import CoverageSubset.Proofs.Defaults.Unserved
import CoverageSubset.Proofs.Granule.Offers
import CoverageSubset.Proofs.GridRequest
import CoverageSubset.Resolution

/-!
# What a resolved request depends on

The directives are resolved against the domains of the granules, and whatever is left open then is a
dimension that offers nothing. So default values never fill in anything: they leave the request as
it is, or fail on the first granule that matches. The output format and the envelope only decide
whether there is such a failure, and as domains do not depend on the order of granules or on their
repetition, the outcome does not either.

All this holds of coverages whose custom dimensions do not go by the names of time and elevation.
The sources of default values are found by name, so another dimension of that name would take part.
And it holds as long as the granules that match can be sorted. If values of different kinds leave
them in no order, and there are many of them, the program stops instead.
-/

namespace CoverageSubset

/-! ### Reports -/

/-- Two reports are of one variant, whatever they tell. -/
def Fault.SameVariant (f f' : Fault) : Prop := f.ctorIdx = f'.ctorIdx

/-- A record without a usable value is reported as an internal fault. -/
theorem ResolutionFault.toFault?_unusable (u : UnusableAttribute) :
    ∃ text, (noDefaults (.unusable u)).toFault? = some (.internal text) :=
  ⟨_, rfl⟩

/-! ### Sources by name -/

/-- The source goes by the name of a dimension. -/
def DimensionSource.isOf : Dimension → DimensionSource → Bool
  | .time => isTime
  | .elevation => isElevation

/-- A source goes by the name of a dimension in any ASCII case. -/
theorem DimensionSource.isOf_iff {d : Dimension} {source : DimensionSource} :
    source.isOf d = true ↔ Text.lowercaseAscii source.name = d.name := by
  cases d <;> exact beq_iff_eq

namespace Coverage

variable {c : Coverage} {source : DimensionSource} {d : Dimension}

/-- No enabled custom dimension goes by the name of time or of elevation, in any ASCII case. -/
def KeepsNames (c : Coverage) : Prop :=
  ∀ name ∈ c.customNames,
    Text.lowercaseAscii name ≠ "time" ∧ Text.lowercaseAscii name ≠ "elevation"

/-- The source of a dimension with a meaning of its own, if it is enabled. -/
def source? (c : Coverage) : Dimension → Option DimensionSource
  | .time => c.time?
  | .elevation => c.elevation?

/-- The sources of the enabled custom dimensions. -/
def customSources (c : Coverage) : List DimensionSource :=
  c.dimensions.custom.filterMap fun d ↦ d.setup.source? d.name

private theorem name_of_source? (h : c.source? d = some source) : source.name = d.name := by
  have hsetup {setup : Option DimensionSetup} {name : String}
      (h : (setup.bind fun s ↦ s.source? name) = some source) : source.name = name := by
    obtain ⟨setup, -, hsource⟩ := Option.bind_eq_some_iff.mp h
    unfold DimensionSetup.source? at hsource
    split at hsource
    · rw [← Option.some.inj hsource]
    · cases hsource
  cases d with
  | time => exact hsetup h
  | elevation => exact hsetup h

/-- The sources of the enabled custom dimensions go by their names. -/
theorem map_name_customSources : c.customSources.map DimensionSource.name = c.customNames := by
  rw [customSources, customNames, CoverageDimensions.enabledCustom]
  induction c.dimensions.custom with
  | nil => rfl
  | cons d rest ih =>
    cases henabled : d.setup.isEnabled with
    | false => simpa [DimensionSetup.source?, henabled] using ih
    | true => simpa [DimensionSetup.source?, henabled] using ih

private theorem find?_toList_source? (c : Coverage) (d d' : Dimension) :
    (c.source? d').toList.find? (DimensionSource.isOf d) =
      if d' = d then c.source? d' else none := by
  cases hsource : c.source? d' with
  | none => simp
  | some source =>
    have hname : source.isOf d = decide (d' = d) := by
      rw [Bool.eq_iff_iff, DimensionSource.isOf_iff, name_of_source? hsource]
      cases d <;> cases d' <;> decide
    simp [List.find?_singleton, hname]

/-- The first source by the name of a dimension is its own, or else that of a custom one. -/
theorem find?_sources_eq (c : Coverage) (d : Dimension) :
    c.sources.find? (DimensionSource.isOf d) =
      (c.source? d).or (c.customSources.find? (DimensionSource.isOf d)) := by
  have hsources : c.sources =
      (c.source? .time).toList ++ (c.source? .elevation).toList ++ c.customSources := rfl
  rw [hsources, List.find?_append, List.find?_append, find?_toList_source?, find?_toList_source?]
  cases d <;> simp

/-- The first source by the name of a dimension is its own if names are kept apart. -/
theorem find?_sources (hc : c.KeepsNames) (d : Dimension) :
    c.sources.find? (DimensionSource.isOf d) = c.source? d := by
  rw [find?_sources_eq, List.find?_eq_none.mpr, Option.or_none]
  intro source hsource
  have hnames := hc source.name (map_name_customSources ▸ List.mem_map_of_mem hsource)
  rw [DimensionSource.isOf_iff]
  cases d with
  | time => exact hnames.1
  | elevation => exact hnames.2

private theorem defaultsQuery_sources (hc : c.KeepsNames) (r : GridRequest) :
    r.defaultsQuery c.sources = r.latestQuery c.time? c.elevation? :=
  congr (congrArg r.latestQuery (find?_sources hc .time)) (find?_sources hc .elevation)

end Coverage

/-! ### What directives leave open -/

namespace Subsetting

variable {α : Type} [AxisValue α] [Requestable α] [Std.TransOrd α] [Std.LawfulEqOrd α]
  {s : Subsetting} {domain : Option (Domain α)} {d : Domain α} {given : Option (Interval α)}

/-- The coverage has the dimension but offers nothing on it, and no directive is about it. -/
def LeavesOpen (s : Subsetting) (domain : Option (Domain α)) : Prop :=
  ∃ d, domain = some d ∧ d.isEmpty = true ∧ s.about α = []

/-- A dimension of the coverage is left open only where nothing is offered or asked for. -/
theorem leavesOpen_of_resolve? (h : s.resolve? domain = .ok none) (hd : domain = some d) :
    s.LeavesOpen domain := by
  subst hd
  obtain ⟨-, ⟨hnone, hhighest⟩ | ⟨directive, v, -, -, hsnap⟩⟩ := resolve?_eq_ok_iff.mp h
  · have hempty : d.highest? = none := Option.map_eq_none_iff.mp hhighest.symm
    exact ⟨d, rfl, Domain.highest?_eq_none_iff.mp hempty, hnone⟩
  · cases hsnap

private theorem isEmpty_of_resolve? (h : s.resolve? domain = .ok none) (hd : domain = some d) :
    d.isEmpty = true := by
  obtain ⟨d', hd', hempty, -⟩ := leavesOpen_of_resolve? h hd
  rwa [Option.some.inj (hd.symm.trans hd')]

/-- What directives leave open gets no default value from the domain. -/
theorem or_highest?_of_resolve? (h : s.resolve? domain = .ok given) :
    given.or ((domain.bind Domain.highest?).map .slice) = given := by
  cases given with
  | some i => rfl
  | none =>
    cases domain with
    | none => rfl
    | some d =>
      rw [Option.bind_some, Domain.highest?_eq_none_iff.mpr (isEmpty_of_resolve? h rfl)]
      rfl

variable [AttributeKind α] {own : Option DimensionSource} {gs : List Granule}

/-- No granule serves a dimension that directives leave open. -/
theorem unserved_of_resolve? [DecidableEq α]
    (h : s.resolve? (own.map fun source ↦ (source.domain gs : Domain α)) = .ok given) :
    GridRequest.Unserved gs given own := by
  rintro rfl source rfl
  exact DimensionSource.isEmpty_domain_iff.mp (isEmpty_of_resolve? h rfl)

private theorem leavesOpen_of_lacks
    (h : s.resolve? (own.map fun source ↦ (source.domain gs : Domain α)) = .ok given)
    (hlacks : GridRequest.Lacks given own) :
    s.LeavesOpen (own.map fun source ↦ (source.domain gs : Domain α)) := by
  obtain ⟨rfl, hsome⟩ := hlacks
  obtain ⟨source, rfl⟩ := Option.isSome_iff_exists.mp hsome
  exact leavesOpen_of_resolve? h rfl

end Subsetting

namespace Coverage

variable {c : Coverage} {gs gs' : List Granule} {store store' : GranuleStore} {s : Subsetting}
  {envelope : Option Envelope} {format : Option String} {r : GridRequest} {f : SubsetFault}

/-- What the directives alone resolve to against the granules of a coverage. -/
def directed (c : Coverage) (gs : List Granule) (s : Subsetting) : Except SubsetFault GridRequest :=
  GridRequest.resolve s (c.times? gs) (c.elevations? gs) c.customNames

private theorem spatial_of_directed (h : c.directed gs s = .ok r) : r.spatial = none :=
  (GridRequest.resolve_eq_ok_iff.mp h).2.2.2

/-! ### Default values after directives -/

/-- Default values are needed, the coverage has records, and these stall the request. -/
structure Stalls (c : Coverage) (store : GranuleStore) (format : Option String) (r : GridRequest) :
    Prop where
  needed : needsDefaults format = true
  structured : c.isStructured = true
  request : r.Stalls c.sources store

/-- The granules that match cannot be sorted by the keys that put the latest one first. -/
def Unsortable (c : Coverage) (store : GranuleStore) (r : GridRequest) : Prop :=
  store.Unsortable (r.latestQuery c.time? c.elevation?)

/-- Unless it stalls, a request that directives resolve to has nothing filled in. -/
theorem fill_of_not_stalls (hr : c.directed store.granules s = .ok r)
    (h : ¬ c.Stalls store format { r with spatial := envelope }) :
    (c.reader store).fill format { r with spatial := envelope } =
      ⟨{ r with spatial := envelope }, none⟩ := by
  cases hneeded : needsDefaults format with
  | false => exact Reader.fill_of_not_needed hneeded
  | true =>
    cases hstructured : c.isStructured with
    | false =>
      obtain ⟨htimes, helevations, -⟩ := GridRequest.resolve_eq_ok_iff.mp hr
      simp only [reader, hstructured, Bool.false_eq_true, ite_false, Reader.fill_standard hneeded,
        GridRequest.fillFromDomains, Subsetting.or_highest?_of_resolve? htimes,
        Subsetting.or_highest?_of_resolve? helevations]
    | true =>
      simp only [reader, hstructured, ite_true, Reader.fill_structured hneeded]
      apply GridRequest.fillFromStore_of_not_stalls
      intro hstalls
      exact h ⟨hneeded, hstructured, hstalls⟩

private theorem fill_of_stalls (hc : c.KeepsNames) (hr : c.directed store.granules s = .ok r)
    (h : c.Stalls store format { r with spatial := envelope }) :
    (∃ u, ((c.reader store).fill format { r with spatial := envelope }).fault =
        some (.unusable u)) ∨
      ((c.reader store).fill format { r with spatial := envelope }).fault = some .unsorted ∧
        c.Unsortable store { r with spatial := envelope } := by
  obtain ⟨htimes, helevations, -⟩ := GridRequest.resolve_eq_ok_iff.mp hr
  have htime : GridRequest.Unserved store.granules r.temporal
      (c.sources.find? (DimensionSource.isOf .time)) := by
    rw [find?_sources hc]
    exact Subsetting.unserved_of_resolve? htimes
  have helevation : GridRequest.Unserved store.granules r.elevation
      (c.sources.find? (DimensionSource.isOf .elevation)) := by
    rw [find?_sources hc]
    exact Subsetting.unserved_of_resolve? helevations
  simp only [reader, h.structured, ite_true, Reader.fill_structured h.needed, Unsortable,
    ← defaultsQuery_sources hc]
  exact GridRequest.fillFromStore_of_unserved h.request htime helevation

/-! ### The outcome -/

/-- A fault in the directives is the outcome, whatever the format and the envelope are. -/
theorem resolve_of_directed_error (h : c.directed store.granules s = .error f) :
    c.resolve store s envelope format = .error (.badSubset f) := by
  unfold directed at h
  rw [resolve, h]
  rfl

/-- Directives that resolve are followed by default values. -/
theorem resolve_of_directed_ok (h : c.directed store.granules s = .ok r) :
    c.resolve store s envelope format =
      match ((c.reader store).fill format { r with spatial := envelope }).fault with
      | some f => .error (.noDefaults f)
      | none => .ok ((c.reader store).fill format { r with spatial := envelope }).request := by
  have hself : r = { r with spatial := none } := by rw [← spatial_of_directed h]
  have hspatial : envelope.elim r r.withSpatial = { r with spatial := envelope } := by
    cases envelope with
    | none => exact hself
    | some e => rfl
  unfold directed at h
  rw [resolve, h, ← hspatial]
  rfl

/-- Unless it stalls, what directives resolve to is the outcome, with the envelope. -/
theorem resolve_of_not_stalls (hr : c.directed store.granules s = .ok r)
    (h : ¬ c.Stalls store format { r with spatial := envelope }) :
    c.resolve store s envelope format = .ok { r with spatial := envelope } := by
  rw [resolve_of_directed_ok hr, fill_of_not_stalls hr h]

/-- A request that stalls is a failure of the granules. -/
theorem resolve_of_stalls (hc : c.KeepsNames) (hr : c.directed store.granules s = .ok r)
    (h : c.Stalls store format { r with spatial := envelope }) :
    (∃ u, c.resolve store s envelope format = .error (.noDefaults (.unusable u))) ∨
      c.resolve store s envelope format = .error (.noDefaults .unsorted) ∧
        c.Unsortable store { r with spatial := envelope } := by
  rw [resolve_of_directed_ok hr]
  rcases fill_of_stalls hc hr h with ⟨u, hu⟩ | ⟨hunsorted, hnot⟩
  · exact .inl ⟨u, by rw [hu]⟩
  · exact .inr ⟨by rw [hunsorted], hnot⟩

/-- Without a format the directives and the envelope are all that counts. -/
theorem resolve_none_none :
    c.resolve store s none none = (c.directed store.granules s).mapError .badSubset := by
  cases hr : c.directed store.granules s with
  | error f => exact resolve_of_directed_error hr
  | ok r =>
    have hnot : ¬ c.Stalls store none { r with spatial := none } :=
      fun h ↦ Bool.false_ne_true h.needed
    rw [resolve_of_not_stalls hr hnot, ← spatial_of_directed hr]
    rfl

/-- Where a request stalls, a dimension of the coverage offers nothing and no directive is about
it. -/
theorem leavesOpen_of_stalls (hc : c.KeepsNames) (hr : c.directed store.granules s = .ok r)
    (h : c.Stalls store format { r with spatial := envelope }) :
    s.LeavesOpen (c.times? store.granules) ∨ s.LeavesOpen (c.elevations? store.granules) := by
  obtain ⟨htimes, helevations, -⟩ := GridRequest.resolve_eq_ok_iff.mp hr
  rcases h.request.lacks with hlacks | hlacks
  · have hown := congrArg (GridRequest.Lacks r.temporal) (find?_sources hc .time)
    exact .inl (Subsetting.leavesOpen_of_lacks htimes (hown.mp hlacks))
  · have hown := congrArg (GridRequest.Lacks r.elevation) (find?_sources hc .elevation)
    exact .inr (Subsetting.leavesOpen_of_lacks helevations (hown.mp hlacks))

/-- The format and the envelope leave a fault as it is. What is resolved without them stays, with
the envelope added, or there is an internal fault instead, unless the granules cannot be sorted; and
that only where the coverage has records, and a dimension of it offers nothing and has no
directive. -/
theorem resolve_keeps_dimensions (hc : c.KeepsNames) (store : GranuleStore) (s : Subsetting) :
    (∀ e, c.resolve store s none none = .error e →
        ∀ envelope format, c.resolve store s envelope format = .error e) ∧
      ∀ r, c.resolve store s none none = .ok r → ∀ envelope format,
        c.resolve store s envelope format = .ok { r with spatial := envelope } ∨
          (∃ e, c.resolve store s envelope format = .error e ∧
              ((∃ text, e.toFault? = some (.internal text)) ∨
                e = .noDefaults .unsorted ∧ c.Unsortable store { r with spatial := envelope })) ∧
            c.isStructured = true ∧
            (s.LeavesOpen (c.times? store.granules) ∨
              s.LeavesOpen (c.elevations? store.granules)) := by
  rw [resolve_none_none]
  constructor
  · intro e he envelope format
    cases hr : c.directed store.granules s with
    | error f =>
      rw [hr] at he
      exact (resolve_of_directed_error hr).trans he
    | ok r =>
      rw [hr] at he
      cases he
  · intro r hr envelope format
    have hdirected : c.directed store.granules s = .ok r := mapError_eq_ok_iff.mp hr
    by_cases hstalls : c.Stalls store format { r with spatial := envelope }
    · refine .inr ⟨?_, hstalls.structured, leavesOpen_of_stalls hc hdirected hstalls⟩
      rcases resolve_of_stalls hc hdirected hstalls with ⟨u, hu⟩ | ⟨hunsorted, hnot⟩
      · exact ⟨_, hu, .inl (ResolutionFault.toFault?_unusable u)⟩
      · exact ⟨_, hunsorted, .inr ⟨rfl, hnot⟩⟩
    · exact .inl (resolve_of_not_stalls hdirected hstalls)

/-- Among granules without elevations, a trim is the same fault for a format and an envelope;
without directives the time is resolved, a format has it fail, and with an envelope that no granule
lies in it stays. -/
theorem resolve_keeps_dimensions_without_elevations :
    let band : CustomDimension := ⟨"band", true, "channel", none⟩
    let disabled : CustomDimension := ⟨"Time", false, "revised", none⟩
    let c : Coverage := ⟨"sst", some "eo", true, true,
      ⟨some ⟨true, "ingestion", none⟩, some ⟨true, "depth", none⟩, [band, disabled]⟩⟩
    let store : GranuleStore :=
      .ofList [(Granule.ofId "flat").withAttribute "ingestion" (.time .epoch)]
    let year : Subsetting := { directives := [.trim "time" "1970-01-01" "1970-12-31"] }
    let unasked : Subsetting := { directives := [] }
    let box : Envelope := ⟨.zero false, .zero false, .zero false, .zero false⟩
    let format := some "image/tiff"
    c.KeepsNames ∧
      (∃ e, c.resolve store year none none = .error e ∧
        c.resolve store year (some box) format = .error e) ∧
      ∃ r, c.resolve store unasked none none = .ok r ∧
        c.resolve store unasked (some box) format = .ok { r with spatial := some box } ∧
        (∃ e text, c.resolve store unasked none format = .error e ∧
          e.toFault? = some (.internal text)) ∧
        (unasked.LeavesOpen (c.times? store.granules) ∨
          unasked.LeavesOpen (c.elevations? store.granules)) := by
  intro band disabled c store year unasked box format
  have hyear : (c.resolve store year none none).toBool = false := by decide +kernel
  have hplain : (c.resolve store unasked none none).toBool = true := by decide +kernel
  have hboxed : (c.resolve store unasked (some box) format).toBool = true := by decide +kernel
  have hfails : (c.resolve store unasked none format).map (fun _ ↦ ()) =
      .error (.noDefaults (.unusable ⟨"flat", "elevation", "depth"⟩)) := by decide +kernel
  have hc : c.KeepsNames := by
    unfold KeepsNames
    decide +kernel
  have hfaults := (resolve_keeps_dimensions hc store year).1
  have hresolved := (resolve_keeps_dimensions hc store unasked).2
  obtain ⟨e, he⟩ := exists_eq_error hyear
  obtain ⟨r, hr⟩ := exists_eq_ok hplain
  refine ⟨hc, ⟨e, he, hfaults e he (some box) format⟩, r, hr, ?_, ?_⟩
  · rcases hresolved r hr (some box) format with hok | ⟨⟨e', he', -⟩, -⟩
    · exact hok
    · rw [he'] at hboxed
      cases hboxed
  · rcases hresolved r hr none format with hok | ⟨⟨e', he', hinternal | ⟨rfl, -⟩⟩, -, hopen⟩
    · rw [hok] at hfails
      cases hfails
    · obtain ⟨text, htext⟩ := hinternal
      exact ⟨⟨e', text, he', htext⟩, hopen⟩
    · rw [he'] at hfails
      cases hfails

/-- Among many granules, texts that are held equal to all numbers stop the program where the
directives alone are resolved. -/
theorem resolve_stops_on_mixed_kinds :
    let c : Coverage := ⟨"sst", none, false, true, ⟨some ⟨true, "ingestion", none⟩, none, []⟩⟩
    let record (a : Attribute) : Granule := (Granule.ofId "g").withAttribute "ingestion" a
    let number (n : Int) : Granule := record (.number (.ofInt n))
    let store : GranuleStore := .ofList
      ([number 1, number 3, number 1, number 3, number 1, number 3, number 1, number 3, number 1,
        number 3, record (.text "t")] ++ List.replicate 10 (number 2))
    let unasked : Subsetting := { directives := [] }
    c.KeepsNames ∧ (∃ r, c.resolve store unasked none none = .ok r) ∧
      ∃ e, c.resolve store unasked none (some "image/tiff") = .error e ∧ e.toFault? = none := by
  intro c record number store unasked
  have hc : c.KeepsNames := by
    unfold KeepsNames
    decide +kernel
  have hplain : (c.resolve store unasked none none).toBool = true := by decide +kernel
  have hstops : (c.resolve store unasked none (some "image/tiff")).map (fun _ ↦ ()) =
      .error (.noDefaults .unsorted) := by decide +kernel
  exact ⟨hc, exists_eq_ok hplain, _, map_eq_error_iff.mp hstops, rfl⟩

/-! ### The order of granules -/

/-- The same granules resolve directives in the same way. -/
theorem directed_congr (hgs : ∀ g, g ∈ gs ↔ g ∈ gs') : c.directed gs s = c.directed gs' s := by
  have hdomain {α : Type} [AxisValue α] [Std.TransOrd α] [Std.LawfulEqOrd α] [DecidableEq α]
      [AttributeKind α] (source : Option DimensionSource) :
      (source.map fun source ↦ (source.domain gs : Domain α)) =
        source.map fun source ↦ source.domain gs' :=
    congrArg source.map (funext fun _ ↦ DimensionSource.domain_congr hgs)
  rw [directed, directed, times?, times?, elevations?, elevations?, hdomain, hdomain]

/-- The same granules stall a request. -/
theorem Stalls.of_same_granules (hgs : ∀ g, g ∈ store.granules ↔ g ∈ store'.granules)
    (h : c.Stalls store format r) : c.Stalls store' format r := by
  refine ⟨h.needed, h.structured, h.request.lacks, ?_⟩
  obtain ⟨g, hg⟩ := h.request.found
  have hmem := GranuleStore.mem_found.mp hg
  exact ⟨g, GranuleStore.mem_found.mpr ⟨(hgs g).mp hmem.1, hmem.2⟩⟩

/-- The same granules, in another order or repeated, give the same request, or faults of one
variant, unless the program stops on one of the two lists because it cannot be sorted. -/
theorem resolve_of_same_granules (hc : c.KeepsNames)
    (hgs : ∀ g, g ∈ store.granules ↔ g ∈ store'.granules) (s : Subsetting)
    (envelope : Option Envelope) (format : Option String) :
    (∃ r, c.resolve store s envelope format = .ok r ∧
        c.resolve store' s envelope format = .ok r) ∨
      ∃ e e', c.resolve store s envelope format = .error e ∧
        c.resolve store' s envelope format = .error e' ∧
        ((∃ f f', e.toFault? = some f ∧ e'.toFault? = some f' ∧ f.SameVariant f') ∨
          ∃ r, c.resolve store s none none = .ok r ∧
            (e = .noDefaults .unsorted ∧ c.Unsortable store { r with spatial := envelope } ∨
              e' = .noDefaults .unsorted ∧
                c.Unsortable store' { r with spatial := envelope })) := by
  have hsame : c.directed store.granules s = c.directed store'.granules s := directed_congr hgs
  cases hr : c.directed store.granules s with
  | error f =>
    exact .inr ⟨.badSubset f, .badSubset f, resolve_of_directed_error hr,
      resolve_of_directed_error (hsame.symm.trans hr), .inl ⟨_, _, rfl, rfl, rfl⟩⟩
  | ok r =>
    have hr' : c.directed store'.granules s = .ok r := hsame.symm.trans hr
    have hplain : c.resolve store s none none = .ok r := by
      rw [resolve_none_none, hr]
      rfl
    by_cases hstalls : c.Stalls store format { r with spatial := envelope }
    · have hstalls' := hstalls.of_same_granules hgs
      obtain ⟨u, hu⟩ | ⟨hunsorted, hnot⟩ := resolve_of_stalls hc hr hstalls <;>
        obtain ⟨u', hu'⟩ | ⟨hunsorted', hnot'⟩ := resolve_of_stalls hc hr' hstalls'
      · exact .inr ⟨_, _, hu, hu', .inl ⟨_, _, rfl, rfl, rfl⟩⟩
      · exact .inr ⟨_, _, hu, hunsorted', .inr ⟨r, hplain, .inr ⟨rfl, hnot'⟩⟩⟩
      · exact .inr ⟨_, _, hunsorted, hu', .inr ⟨r, hplain, .inl ⟨rfl, hnot⟩⟩⟩
      · exact .inr ⟨_, _, hunsorted, hunsorted', .inr ⟨r, hplain, .inl ⟨rfl, hnot⟩⟩⟩
    · have hstalls' : ¬ c.Stalls store' format { r with spatial := envelope } := by
        intro h
        exact hstalls (h.of_same_granules fun g ↦ (hgs g).symm)
      exact .inl ⟨_, resolve_of_not_stalls hr hstalls, resolve_of_not_stalls hr' hstalls'⟩

/-- Two granules and one of them again, in two orders: where neither has a time, each list is at
fault for the granule that comes first in it, and both faults are of one variant; where both have
one, the same request is resolved. -/
theorem resolve_of_same_granules_repeated :
    let c : Coverage := ⟨"sst", none, true, true, ⟨some ⟨true, "ingestion", none⟩, none, []⟩⟩
    let dated (id : String) (t : Instant) : Granule :=
      (Granule.ofId id).withAttribute "ingestion" (.time t)
    let later : Instant := { day := 1, second := 0, nano := 0 }
    let bare : GranuleStore := .ofList [Granule.ofId "a", Granule.ofId "b", Granule.ofId "a"]
    let bare' : GranuleStore := .ofList [Granule.ofId "b", Granule.ofId "a"]
    let times : GranuleStore := .ofList [dated "a" .epoch, dated "b" later, dated "a" .epoch]
    let times' : GranuleStore := .ofList [dated "b" later, dated "a" .epoch]
    let unasked : Subsetting := { directives := [] }
    let format := some "image/tiff"
    c.KeepsNames ∧
      ((∀ g, g ∈ bare.granules ↔ g ∈ bare'.granules) ∧
        ∃ e e', c.resolve bare unasked none format = .error e ∧
          c.resolve bare' unasked none format = .error e' ∧ e ≠ e' ∧
          ∃ f f', e.toFault? = some f ∧ e'.toFault? = some f' ∧ f.SameVariant f') ∧
      (∀ g, g ∈ times.granules ↔ g ∈ times'.granules) ∧
        ∃ r, c.resolve times unasked none format = .ok r ∧
          c.resolve times' unasked none format = .ok r := by
  intro c dated later bare bare' times times' unasked format
  have hrepeated (a b g : Granule) : g ∈ [a, b, a] ↔ g ∈ [b, a] := by
    simp only [List.mem_cons, List.not_mem_nil, or_false]
    tauto
  have hfault : (c.resolve bare unasked none format).map (fun _ ↦ ()) =
      .error (.noDefaults (.unusable ⟨"a", "time", "ingestion"⟩)) := by decide +kernel
  have hfault' : (c.resolve bare' unasked none format).map (fun _ ↦ ()) =
      .error (.noDefaults (.unusable ⟨"b", "time", "ingestion"⟩)) := by decide +kernel
  have hdated : (c.resolve times unasked none format).toBool = true := by decide +kernel
  have hc : c.KeepsNames := by
    unfold KeepsNames
    decide +kernel
  have hbare : ∀ g, g ∈ bare.granules ↔ g ∈ bare'.granules := hrepeated _ _
  have htimes : ∀ g, g ∈ times.granules ↔ g ∈ times'.granules := hrepeated _ _
  refine ⟨hc, ⟨hbare, ?_⟩, htimes, ?_⟩
  · rcases resolve_of_same_granules hc hbare unasked none format with
      ⟨r, hr, -⟩ | ⟨e, e', he, he', hsame⟩
    · rw [hr] at hfault
      cases hfault
    · rw [he] at hfault
      rw [he'] at hfault'
      obtain rfl := Except.error.inj hfault
      obtain rfl := Except.error.inj hfault'
      refine ⟨_, _, he, he', by decide, ?_⟩
      rcases hsame with hsame | ⟨r, -, ⟨hunsorted, -⟩ | ⟨hunsorted, -⟩⟩
      · exact hsame
      · cases hunsorted
      · cases hunsorted
  · rcases resolve_of_same_granules hc htimes unasked none format with hr | ⟨e, -, he, -⟩
    · exact hr
    · rw [he] at hdated
      cases hdated

/-- Four granules, one with a text among numbers, are an internal fault. Some of them repeated, in
an order that leaves none out, they stop the program. -/
theorem resolve_differs_on_repeated_granules :
    let c : Coverage := ⟨"sst", none, false, true, ⟨some ⟨true, "ingestion", none⟩, none, []⟩⟩
    let record (a : Attribute) : Granule := (Granule.ofId "g").withAttribute "ingestion" a
    let number (n : Int) : Granule := record (.number (.ofInt n))
    let once : GranuleStore := .ofList [number 1, number 3, record (.text "t"), number 2]
    let repeated : GranuleStore := .ofList
      ([number 1, number 3, number 1, number 3, number 1, number 3, number 1, number 3, number 1,
        number 3, record (.text "t")] ++ List.replicate 10 (number 2))
    let unasked : Subsetting := { directives := [] }
    let format := some "image/tiff"
    c.KeepsNames ∧ (∀ g, g ∈ once.granules ↔ g ∈ repeated.granules) ∧
      (∃ e text, c.resolve once unasked none format = .error e ∧
        e.toFault? = some (.internal text)) ∧
      ∃ e, c.resolve repeated unasked none format = .error e ∧ e.toFault? = none := by
  intro c record number once repeated unasked format
  have hc : c.KeepsNames := by
    unfold KeepsNames
    decide +kernel
  have hmem (g : Granule) : g ∈ once.granules ↔ g ∈ repeated.granules := by
    simp [once, repeated, GranuleStore.ofList]
    tauto
  have honce : (c.resolve once unasked none format).map (fun _ ↦ ()) =
      .error (.noDefaults (.unusable ⟨"g", "time", "ingestion"⟩)) := by decide +kernel
  have hrepeated : (c.resolve repeated unasked none format).map (fun _ ↦ ()) =
      .error (.noDefaults .unsorted) := by decide +kernel
  refine ⟨hc, hmem, ?_, ?_⟩
  · obtain ⟨text, htext⟩ := ResolutionFault.toFault?_unusable ⟨"g", "time", "ingestion"⟩
    exact ⟨_, text, map_eq_error_iff.mp honce, htext⟩
  · exact ⟨_, map_eq_error_iff.mp hrepeated, rfl⟩

end Coverage

end CoverageSubset

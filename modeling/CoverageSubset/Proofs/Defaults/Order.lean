import CoverageSubset.Proofs.AxisOrder
import CoverageSubset.Proofs.Defaults.Failure
import CoverageSubset.Proofs.Defaults.Unserved

/-!
# The order of the ends that are filled in

A domain orders the ends of what a record offers, but default values take them as the record holds
them. So a request whose intervals are in order keeps them so exactly if the record that the values
are taken from does not end before it starts, in a dimension that the request leaves open. Values
that come from domains are slices and always in order.
-/

namespace CoverageSubset

open AxisValue

/-- The low end of the interval is at most its high end. -/
def Interval.Ordered {α : Type} [AxisValue α] (i : Interval α) : Prop := atMost i.low i.high = true

/-- Every interval that the request carries is in order. -/
structure GridRequest.Ordered (r : GridRequest) : Prop where
  temporal : ∀ i, r.temporal = some i → i.Ordered
  elevation : ∀ i, r.elevation = some i → i.Ordered

namespace GridRequest

section Dimension

variable {α : Type} [AxisValue α] {given : Option (Interval α)}

private theorem ordered_or_iff {found : Option (Interval α)} (h : ∀ i, given = some i → i.Ordered) :
    (∀ i, given.or found = some i → i.Ordered) ↔
    (given = none → ∀ i, found = some i → i.Ordered) := by
  cases given with
  | none => simp
  | some i => simpa using h

private theorem ordered_or_slice [Std.TransOrd α] (v? : Option α)
    (h : ∀ i, given = some i → i.Ordered) :
    ∀ i, given.or (v?.map .slice) = some i → i.Ordered := by
  refine (ordered_or_iff h).mpr fun _ i hi ↦ ?_
  obtain ⟨v, -, rfl⟩ := Option.map_eq_some_iff.mp hi
  exact atMost_refl v

end Dimension

variable {r : GridRequest} {sources : List DimensionSource} {store : GranuleStore}

/-- A request that is open in every dimension is in order. -/
theorem ordered_unspecified : unspecified.Ordered where
  temporal _ h := by cases h
  elevation _ h := by cases h

private theorem ordered_fillFromDomains (hr : r.Ordered) (times : Option TimeDomain)
    (elevations : Option ElevationDomain) :
    (r.fillFromDomains times elevations).Ordered where
  temporal := ordered_or_slice _ hr.temporal
  elevation := ordered_or_slice _ hr.elevation

private theorem or_cover_of_not_lacks {α : Type} [AttributeKind α] {given : Option (Interval α)}
    {source : Option DimensionSource} (g? : Option Granule) (h : ¬ Lacks given source) :
    given.or (g?.bind fun g ↦ source.bind fun s ↦ (s.cover g).toOption) = given := by
  cases g? with
  | none => exact Option.or_none
  | some g => exact (eq_or_cover_of_fillFrom (fillFrom_of_not_lacks (g := g) h)).symm

private theorem latest?_eq_none (h : ∀ g, g ∉ store.found (r.defaultsQuery sources).filter) :
    r.latest? sources store = none := by
  cases hselect : store.select (r.defaultsQuery sources) with
  | none => rw [latest?, hselect, Option.bind_none]
  | some selected =>
    have hnil : selected = [] := List.eq_nil_iff_forall_not_mem.mpr fun g hg ↦
      h g (GranuleStore.mem_found_of_mem_select hselect hg)
    rw [latest?, hselect, hnil]
    rfl

end GridRequest

namespace Reader

variable {reader : Reader} {format : Option String} {r : GridRequest}
  {sources : List DimensionSource} {store : GranuleStore}

/-- The interval of elevation of the record that default values are taken from. -/
def recordElevation? (reader : Reader) (r : GridRequest) : Option (Interval Double) :=
  match reader with
  | standard _ _ => none
  | structured sources store =>
    (r.latest? sources store).bind fun g ↦
      (sources.find? DimensionSource.isElevation).bind fun s ↦ (s.cover g).toOption

/-- The record that default values are taken from is in order wherever the request is open. -/
structure RecordOrdered (reader : Reader) (r : GridRequest) : Prop where
  temporal : r.temporal = none → ∀ i, reader.recordTime? r = some i → i.Ordered
  elevation : r.elevation = none → ∀ i, reader.recordElevation? r = some i → i.Ordered

/-- Without a fault, a search for default values fills in what the record covers and no more. -/
theorem fillFromStore_of_no_fault (h : (r.fillFromStore sources store).fault = none) :
    (r.fillFromStore sources store).request.temporal =
        r.temporal.or ((structured sources store).recordTime? r) ∧
      (r.fillFromStore sources store).request.elevation =
        r.elevation.or ((structured sources store).recordElevation? r) := by
  simp only [recordTime?, recordElevation?]
  by_cases hstalls : r.Stalls sources store
  · rcases GridRequest.fillFromStore_of_stalls hstalls with ⟨-, hfill⟩ | ⟨g, hlatest, -, hfill⟩
    · rw [hfill] at h
      cases h
    · rw [hfill] at h ⊢
      have hfilled := GridRequest.fillFromGranule_of_no_fault h
      rw [hlatest]
      exact ⟨GridRequest.eq_or_cover_of_fillFrom hfilled.1,
        GridRequest.eq_or_cover_of_fillFrom hfilled.2⟩
  · rw [GridRequest.fillFromStore_of_not_stalls hstalls]
    by_cases hfound : ∃ g, g ∈ store.found (r.defaultsQuery sources).filter
    · have hlacks := not_or.mp fun hlacks ↦ hstalls ⟨hlacks, hfound⟩
      exact ⟨(GridRequest.or_cover_of_not_lacks _ hlacks.1).symm,
        (GridRequest.or_cover_of_not_lacks _ hlacks.2).symm⟩
    · have hnone := GridRequest.latest?_eq_none (not_exists.mp hfound)
      simp [hnone]

/-- A filling from a store that succeeds leaves the request in order exactly if the record is. -/
theorem ordered_fillFromStore_iff (hr : r.Ordered)
    (h : (r.fillFromStore sources store).fault = none) :
    (r.fillFromStore sources store).request.Ordered ↔
    (structured sources store).RecordOrdered r := by
  obtain ⟨htemporal, helevation⟩ := fillFromStore_of_no_fault h
  constructor
  · intro hordered
    refine ⟨(GridRequest.ordered_or_iff hr.temporal).mp ?_,
      (GridRequest.ordered_or_iff hr.elevation).mp ?_⟩
    · rw [← htemporal]
      exact hordered.temporal
    · rw [← helevation]
      exact hordered.elevation
  · intro hrecord
    constructor
    · rw [htemporal]
      exact (GridRequest.ordered_or_iff hr.temporal).mpr hrecord.temporal
    · rw [helevation]
      exact (GridRequest.ordered_or_iff hr.elevation).mpr hrecord.elevation

/-- Without a fault, a request whose intervals are in order keeps them so exactly if no default
values are needed, or the record that they are taken from is in order wherever the request is
open. -/
theorem fill_ordered_iff (hr : r.Ordered) (hfault : (reader.fill format r).fault = none) :
    (reader.fill format r).request.Ordered ↔
    (needsDefaults format = true → reader.RecordOrdered r) := by
  unfold fill at hfault ⊢
  cases hneeded : needsDefaults format with
  | false => simpa using hr
  | true =>
    rw [hneeded] at hfault
    cases reader with
    | standard times elevations =>
      -- A reader over domains has no record that could be out of order.
      have hordered := GridRequest.ordered_fillFromDomains hr times elevations
      have hrecord : (standard times elevations).RecordOrdered r :=
        ⟨by simp [recordTime?], by simp [recordElevation?]⟩
      exact iff_of_true hordered fun _ ↦ hrecord
    | structured sources store =>
      have hiff := ordered_fillFromStore_iff hr hfault
      exact hiff.trans ⟨fun hrecord _ ↦ hrecord, fun h ↦ h rfl⟩

/-- A record whose ends are in order leaves them so in a request that was open. -/
theorem fill_ordered_by_record_with_stop :
    let source : DimensionSource := ⟨"time", "begin", some "end"⟩
    let low : Instant := { day := 18262, second := 0, nano := 0 }
    let high : Instant := { day := 18263, second := 0, nano := 0 }
    let g :=
      ((Granule.ofId "g1").withAttribute "begin" (.time low)).withAttribute "end" (.time high)
    let outcome := (structured [source] (.ofList [g])).fill (some "image/tiff") .unspecified
    outcome.fault = none ∧ outcome.request.temporal = some ⟨low, high⟩ ∧
      outcome.request.Ordered := by
  intro source low high g outcome
  have hfault : outcome.fault = none := by decide +kernel +revert
  have htemporal : outcome.request.temporal = some ⟨low, high⟩ := by decide +kernel +revert
  have htime : (structured [source] (.ofList [g])).recordTime? .unspecified = some ⟨low, high⟩ := by
    decide +kernel +revert
  have helevation : (structured [source] (.ofList [g])).recordElevation? .unspecified = none := by
    decide +kernel +revert
  have hle : atMost low high = true := by decide +kernel +revert
  have hrecord : (structured [source] (.ofList [g])).RecordOrdered .unspecified := by
    constructor
    · intro _ i hi
      obtain rfl := Option.some.inj (htime.symm.trans hi)
      exact hle
    · intro _ i hi
      rw [helevation] at hi
      cases hi
  exact ⟨hfault, htemporal, (fill_ordered_iff GridRequest.ordered_unspecified hfault).mpr fun _ ↦
    hrecord⟩

/-- A record that ends before it starts leaves its ends out of order in a request that was open. -/
theorem fill_disordered_by_early_end :
    let source : DimensionSource := ⟨"time", "begin", some "end"⟩
    let start : Instant := { day := 18263, second := 0, nano := 0 }
    let stop : Instant := { day := 18262, second := 0, nano := 0 }
    let g :=
      ((Granule.ofId "g1").withAttribute "begin" (.time start)).withAttribute "end" (.time stop)
    let outcome := (structured [source] (.ofList [g])).fill (some "image/tiff") .unspecified
    GridRequest.unspecified.Ordered ∧ outcome.fault = none ∧
      outcome.request.temporal = some ⟨start, stop⟩ ∧
      ¬ outcome.request.Ordered := by
  intro source start stop g outcome
  have hfault : outcome.fault = none := by decide +kernel +revert
  have htemporal : outcome.request.temporal = some ⟨start, stop⟩ := by decide +kernel +revert
  have hgt : atMost start stop = false := by decide +kernel +revert
  refine ⟨GridRequest.ordered_unspecified, hfault, htemporal, ?_⟩
  intro hordered
  exact absurd (hordered.temporal _ htemporal) (Bool.eq_false_iff.mp hgt)

end Reader

end CoverageSubset

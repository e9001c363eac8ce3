import CoverageSubset.Proofs.Defaults
import CoverageSubset.Proofs.Granule.LatestTime

/-!
# The latest record

Default values come from the first of the records that match the request, sorted from the latest
time down. They are those of the latest time as long as the matching records hold nothing but times
in the time attribute, and more generally as long as the keys put these records in an order.
-/

namespace CoverageSubset

namespace GridRequest

variable {r : GridRequest} {sources : List DimensionSource} {store : GranuleStore}

private theorem fillFromStore_temporal {i : Interval Instant} (hr : r.temporal = none)
    (hfault : (r.fillFromStore sources store).fault = none)
    (hi : (r.fillFromStore sources store).request.temporal = some i) :
    ∃ s g, sources.find? DimensionSource.isTime = some s ∧ r.latest? sources store = some g ∧
      s.cover g = .ok i := by
  by_cases hstalls : r.Stalls sources store
  · rcases fillFromStore_of_stalls hstalls with ⟨-, hfill⟩ | ⟨g, hlatest, -, hfill⟩
    · rw [hfill] at hfault
      cases hfault
    · rw [hfill] at hfault hi
      have htime := (fillFromGranule_of_no_fault hfault).1
      rw [hr, hi] at htime
      obtain ⟨s, hs, hcover⟩ := cover_of_fillFrom htime
      exact ⟨s, g, hs, hlatest, hcover⟩
  · rw [fillFromStore_of_not_stalls hstalls, hr] at hi
    cases hi

end GridRequest

namespace Reader

variable {r : GridRequest} {sources : List DimensionSource} {store : GranuleStore}
  {format : Option String}

/-- An open time that a reader over records fills in is what the record covers that values are taken
from. -/
theorem fill_structured_temporal {i : Interval Instant} (hr : r.temporal = none)
    (hfault : ((structured sources store).fill format r).fault = none)
    (hi : ((structured sources store).fill format r).request.temporal = some i) :
    ∃ s g, sources.find? DimensionSource.isTime = some s ∧ r.latest? sources store = some g ∧
      s.cover g = .ok i := by
  cases hneeded : needsDefaults format with
  | false =>
    rw [fill_of_not_needed hneeded, hr] at hi
    cases hi
  | true =>
    rw [fill_structured hneeded] at hfault hi
    exact GridRequest.fillFromStore_temporal hr hfault hi

/-- A time that is filled in is the latest of the matching records wherever the keys put these in an
order, as they do if the records hold nothing but times in its attribute and elevations of one kind.
Few records are inserted one after the other: then times alone are enough, and in general the time
is the latest exactly if some matching record of the latest time is lower than all that are stored
before it. -/
theorem fill_isLatest {s : DimensionSource} {i : Interval Instant}
    (hs : sources.find? DimensionSource.isTime = some s) (hr : r.temporal = none)
    (hfault : ((structured sources store).fill format r).fault = none)
    (hi : ((structured sources store).fill format r).request.temporal = some i) :
    let elevation := sources.find? DimensionSource.isElevation
    let found := store.found (r.granuleFilter (some s) elevation)
    let elevationKeys := elevation.toList.map fun e ↦ ⟨e.start, .descending⟩
    (OrdersOn (compareDescending s.start elevationKeys) found → IsLatest i.low s.start found) ∧
      (HoldTimes s.start found → (∀ k ∈ elevationKeys, GranuleStore.HoldOneKind k found) →
        IsLatest i.low s.start found) ∧
      (store.sorter.InsertsFew → found.length ≤ Sorter.few →
        (HoldTimes s.start found → IsLatest i.low s.start found) ∧
          (IsLatest i.low s.start found ↔
            ∃ before g after t, found = before ++ g :: after ∧ g.value? s.start = some t ∧
              IsLatest t s.start found ∧
                ∀ h ∈ before, compareDescending s.start elevationKeys g h = .lt)) := by
  intro elevation found elevationKeys
  obtain ⟨s', g, hs', hlatest, hcover⟩ := fill_structured_temporal hr hfault hi
  obtain rfl := Option.some.inj (hs.symm.trans hs')
  rw [GridRequest.latest?, GridRequest.defaultsQuery, hs] at hlatest
  have hlow := (DimensionSource.cover_eq_ok_iff.mp hcover).1
  obtain ⟨sorted, hsort, hfirst⟩ :=
    GranuleStore.exists_sort_of_head?_select_one (List.cons_ne_nil _ _) hlatest
  have hordered (horders : OrdersOn (compareDescending s.start elevationKeys) found) :
      IsLatest i.low s.start found := by
    obtain ⟨sorted', hsort', hsorts⟩ := store.sorter.sorts horders
    obtain rfl := Option.some.inj (hsort.symm.trans hsort')
    exact isLatest_of_stablySorts hsorts hfirst hlow
  refine ⟨hordered, fun htimes hkeys ↦ hordered (htimes.ordersOn hkeys), fun hinserts hfew ↦ ?_⟩
  obtain rfl := Option.some.inj (hsort.symm.trans (hinserts _ _ hfew))
  exact ⟨fun htimes ↦ isLatest_of_holdTimes htimes hfirst hlow, isLatest_iff hfirst hlow⟩

/-- Records that hold times alone, or none, give the latest of them wherever it is stored, and as
there are few of them, whatever their elevations are. -/
theorem fill_isLatest_among_times :
    let sources : List DimensionSource := [.single "time" "ingestion", .single "elevation" "depth"]
    let dated (id : String) (t : Instant) : Granule :=
      (Granule.ofId id).withAttribute "ingestion" (.time t)
    let latest : Instant := { day := 1, second := 0, nano := 0 }
    let store : GranuleStore := .ofList [dated "first" .epoch,
      (dated "second" latest).withAttribute "depth" (.number (.zero false)), Granule.ofId "third",
      (dated "fourth" latest).withAttribute "depth" (.text "deep"), dated "fifth" .epoch]
    let outcome := (structured sources store).fill (some "image/tiff") .unspecified
    outcome.fault = none ∧ outcome.request.temporal = some (.slice latest) ∧
      IsLatest latest "ingestion" (store.found .all) := by
  intro sources dated latest store outcome
  have hs : sources.find? DimensionSource.isTime = some (.single "time" "ingestion") := by
    decide +kernel +revert
  have hfault : outcome.fault = none := by decide +kernel +revert
  have htemporal : outcome.request.temporal = some (.slice latest) := by decide +kernel +revert
  have hlength : (store.found .all).length ≤ Sorter.few := by decide +kernel +revert
  have htimes : HoldTimes "ingestion" (store.found .all) := by
    unfold HoldTimes
    decide +kernel +revert
  have hfew := (fill_isLatest hs rfl hfault htemporal).2.2 Sorter.standard_insertsFew hlength
  exact ⟨hfault, htemporal, hfew.1 htimes⟩

/-- A time after a text that was stored after an earlier time is not reached: the earlier one is
filled in. -/
theorem fill_not_latest_behind_text :
    let s : DimensionSource := .single "time" "ingestion"
    let first : Instant := { day := 18262, second := 0, nano := 0 }
    let store : GranuleStore := .ofList [
      (Granule.ofId "g1").withAttribute "ingestion" (.time first),
      (Granule.ofId "g2").withAttribute "ingestion" (.text "2020-01-02"),
      (Granule.ofId "g3").withAttribute "ingestion"
        (.time { day := 18264, second := 0, nano := 0 })]
    let outcome := (structured [s] store).fill (some "image/tiff") .unspecified
    outcome.fault = none ∧ outcome.request.temporal = some (.slice first) ∧
      ¬ IsLatest first s.start (store.found
        (GridRequest.unspecified.granuleFilter (some s) none)) := by
  refine ⟨by decide +kernel, by decide +kernel, ?_⟩
  intro hlatest
  let third : Instant := { day := 18264, second := 0, nano := 0 }
  have hle := hlatest ((Granule.ofId "g3").withAttribute "ingestion" (.time third))
    (GranuleStore.mem_found.mpr ⟨.tail _ (.tail _ (.head _)), rfl⟩) third (by decide +kernel)
  exact absurd hle (by decide)

end Reader

end CoverageSubset

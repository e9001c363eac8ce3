import CoverageSubset.Proofs.Defaults

/-!
# What a failed filling leaves

Filling in default values fails on a record that holds no usable value where one is needed. Time is
filled in before elevation, so the request is left as it was exactly if no time was filled in; else
the time of the record stays behind, and nothing else has changed.
-/

namespace CoverageSubset

namespace GridRequest

variable {r : GridRequest} {g : Granule} {time elevation : Option DimensionSource}
  {sources : List DimensionSource} {store : GranuleStore} {f : DefaultsFault}

/-- A dimension that is filled in holds what was given or else what the record covers. -/
theorem eq_or_cover_of_fillFrom {α : Type} [AttributeKind α] {source : Option DimensionSource}
    {given got : Option (Interval α)} (h : fillFrom g source given = .ok got) :
    got = given.or (source.bind fun s ↦ (s.cover g).toOption) := by
  rcases fillFrom_eq_ok_iff.mp h with ⟨i, rfl, rfl⟩ | ⟨rfl, rfl, rfl⟩ |
    ⟨s, i, rfl, rfl, hcover, rfl⟩
  · rfl
  · rfl
  · rw [Option.none_or, Option.bind_some, hcover]
    rfl

private theorem with_temporal_eq_self_iff {t : Option (Interval Instant)} :
    { r with temporal := t } = r ↔ t = r.temporal := by
  cases r
  simp

/-- A failed filling from a record leaves the time that the record has for the request. -/
theorem fillFromGranule_of_fault (h : (r.fillFromGranule g time elevation).fault = some f) :
    (r.fillFromGranule g time elevation).request =
      { r with temporal := r.temporal.or (time.bind fun s ↦ (s.cover g).toOption) } := by
  revert h
  rw [fillFromGranule]
  cases htime : fillFrom g time r.temporal with
  | error u =>
    -- Time has failed, so the record had none to leave.
    obtain ⟨hopen, s, rfl, hcover⟩ := fillFrom_eq_error_iff.mp htime
    intro _
    rw [hopen, Option.bind_some, hcover]
    exact (with_temporal_eq_self_iff.mpr hopen.symm).symm
  | ok temporal =>
    rw [← eq_or_cover_of_fillFrom htime]
    cases fillFrom g elevation r.elevation with
    | error u => simp
    | ok filled => simp

end GridRequest

namespace Reader

variable {reader : Reader} {format : Option String} {r : GridRequest} {f : DefaultsFault}

/-- The interval of time of the record that default values are taken from. -/
def recordTime? (reader : Reader) (r : GridRequest) : Option (Interval Instant) :=
  match reader with
  | standard _ _ => none
  | structured sources store =>
    (r.latest? sources store).bind fun g ↦
      (sources.find? DimensionSource.isTime).bind fun s ↦ (s.cover g).toOption

private theorem fillFromStore_request_eq_of_fault {sources : List DimensionSource}
    {store : GranuleStore} (h : (r.fillFromStore sources store).fault = some f) :
    (r.fillFromStore sources store).request =
      { r with temporal := r.temporal.or ((structured sources store).recordTime? r) } := by
  have hstalls : r.Stalls sources store := by
    by_contra hnot
    rw [GridRequest.fillFromStore_of_not_stalls hnot] at h
    cases h
  rcases GridRequest.fillFromStore_of_stalls hstalls with ⟨hselect, hfill⟩ | ⟨g, hlatest, -, hfill⟩
  · have hnone : r.latest? sources store = none := by
      rw [GridRequest.latest?, hselect, Option.bind_none]
    rw [hfill, recordTime?, hnone, Option.bind_none, Option.or_none]
  · rw [hfill] at h ⊢
    rw [GridRequest.fillFromGranule_of_fault h, recordTime?, hlatest, Option.bind_some]

/-- A failed filling leaves the time of the record in a request that was open in time. -/
theorem fill_request_eq_of_fault (h : (reader.fill format r).fault = some f) :
    (reader.fill format r).request =
      { r with temporal := r.temporal.or (reader.recordTime? r) } := by
  cases hneeded : needsDefaults format with
  | false =>
    rw [fill_of_not_needed hneeded] at h
    cases h
  | true =>
    cases reader with
    | standard times elevations =>
      rw [fill_standard hneeded] at h
      cases h
    | structured sources store =>
      rw [fill_structured hneeded] at h ⊢
      exact fillFromStore_request_eq_of_fault h

/-- A failed filling leaves the request as it was exactly if that had a time, or the record has
none; else the time of the record is filled in, and nothing else. -/
theorem fill_keeps_request_iff (h : (reader.fill format r).fault = some f) :
    (reader.fill format r).request = { r with temporal := r.temporal.or (reader.recordTime? r) } ∧
      ((reader.fill format r).request = r ↔
        r.temporal.isSome = true ∨ reader.recordTime? r = none) := by
  have hrequest := fill_request_eq_of_fault h
  refine ⟨hrequest, ?_⟩
  rw [hrequest, GridRequest.with_temporal_eq_self_iff]
  cases r.temporal with
  | none => simp
  | some i => simp

/-- A record with a text for its time fails before anything is filled in, and one without an
elevation leaves a request that has a time as it was. -/
theorem fill_keeps_request_without_time :
    let sources : List DimensionSource := [.single "time" "ingestion", .single "elevation" "depth"]
    let start : Instant := { day := 18262, second := 0, nano := 0 }
    let vague : GranuleStore :=
      .ofList [(Granule.ofId "vague").withAttribute "ingestion" (.text "soon")]
    let flat : GranuleStore :=
      .ofList [(Granule.ofId "flat").withAttribute "ingestion" (.time start)]
    let dated : GridRequest := { GridRequest.unspecified with temporal := some (.slice start) }
    let failed := (structured sources vague).fill (some "image/tiff") .unspecified
    let failedLater := (structured sources flat).fill (some "image/tiff") dated
    (failed.fault = some (.unusable ⟨"vague", "time", "ingestion"⟩) ∧
      (structured sources vague).recordTime? .unspecified = none ∧
        failed.request = .unspecified) ∧
      failedLater.fault = some (.unusable ⟨"flat", "elevation", "depth"⟩) ∧
        failedLater.request = dated := by
  intro sources start vague flat dated failed failedLater
  have hfault : failed.fault = some (.unusable ⟨"vague", "time", "ingestion"⟩) := by
    decide +kernel +revert
  have hnone : (structured sources vague).recordTime? .unspecified = none := by
    decide +kernel +revert
  have hlater : failedLater.fault = some (.unusable ⟨"flat", "elevation", "depth"⟩) := by
    decide +kernel
  exact ⟨⟨hfault, hnone, (fill_keeps_request_iff hfault).2.mpr (.inr hnone)⟩, hlater,
    (fill_keeps_request_iff hlater).2.mpr (.inl rfl)⟩

/-- A record with a time and no elevation leaves its time in a request that was open in both. -/
theorem fill_leaves_time_without_elevation :
    let sources : List DimensionSource := [.single "time" "ingestion", .single "elevation" "depth"]
    let start : Instant := { day := 18262, second := 0, nano := 0 }
    let store : GranuleStore :=
      .ofList [(Granule.ofId "flat").withAttribute "ingestion" (.time start)]
    let failed := (structured sources store).fill (some "image/tiff") .unspecified
    failed.fault = some (.unusable ⟨"flat", "elevation", "depth"⟩) ∧
      failed.request.temporal = some (.slice start) ∧
      failed.request ≠ .unspecified := by
  intro sources start store failed
  have htemporal : failed.request.temporal = some (.slice start) := by decide +kernel +revert
  refine ⟨by decide +kernel, htemporal, ?_⟩
  intro hsame
  rw [hsame] at htemporal
  cases htemporal

end Reader

end CoverageSubset

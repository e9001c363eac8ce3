import CoverageSubset.Proofs.CoverageSet.Description
import CoverageSubset.Proofs.CoverageSet.Identifier

/-!
# When a request is answered

A request is answered exactly if it names some series and nothing else, its directives ask for times
and for elevations without a fault, and the granules of each series are there. Otherwise the first
of these that fails is reported, and of several identifiers, or of several series, the first one.
That a series has an identifier is checked as well, but this cannot fail: an identifier finds only
what it belongs to, so what is listed goes by the identifiers of the request.
-/

namespace CoverageSubset

namespace Coverage

variable {c : Coverage} {archive : GranuleArchive} {wanted : GridRequest} {e : DescriptionFault}

/-- A series can be described exactly if its granules are there. -/
theorem exists_describe_eq_ok_iff (h : c.isSeries = true) :
    (∃ part, c.describe archive wanted = .ok part) ↔
      ∃ store, archive[c.fullName]? = some store := by
  simp only [describe_eq_ok_iff, seriesId_eq_ok_iff, h, true_and]
  constructor
  · rintro ⟨-, store, -, hstore, -⟩
    exact ⟨store, hstore⟩
  · rintro ⟨store, hstore⟩
    exact ⟨_, store, _, hstore, rfl, rfl⟩

/-- What a series cannot be described without is its granules. -/
theorem describe_eq_error_iff (h : c.isSeries = true) :
    c.describe archive wanted = .error e ↔
      archive[c.fullName]? = none ∧ e = .noGranules c.fullName := by
  simp only [describe, store, seriesId, h, ite_true]
  cases archive[c.fullName]? with
  | none => simp [bind, Except.bind, eq_comm]
  | some store => simp [bind, Except.bind, Except.mapError]

end Coverage

namespace DescriptionRequest

variable {r : DescriptionRequest} {catalogue : Catalogue} {archive : GranuleArchive}
  {wanted : GridRequest} {coverages : List Coverage} {e : DescriptionFault}

/-! ### The identifiers -/

/-- The request names some series, and nothing else. -/
def NamesSeries (r : DescriptionRequest) (catalogue : Catalogue) : Prop :=
  r.seriesIds ≠ [] ∧ ∀ id ∈ r.seriesIds, ∃ v, catalogue.series? id = some v

/-- The series that the request names, one for each identifier. -/
def namedSeries (r : DescriptionRequest) (catalogue : Catalogue) : List Coverage :=
  r.seriesIds.filterMap catalogue.series?

private theorem isSeries_of_mem_namedSeries {v : Coverage} (hv : v ∈ r.namedSeries catalogue) :
    v.isSeries = true := by
  obtain ⟨id, -, hid⟩ := List.mem_filterMap.mp hv
  exact Catalogue.isSeries_of_series?_eq_some hid

private theorem named_eq_ok_iff_namesSeries :
    r.named catalogue = .ok coverages ↔
      r.NamesSeries catalogue ∧ coverages = r.namedSeries catalogue := by
  rw [named_eq_ok_iff, forall₂_eq_some_iff, NamesSeries, namedSeries, and_assoc]

/-- The series of a request are not there exactly if it names none, or an identifier is that of
none. -/
theorem named_eq_error_iff :
    r.named catalogue = .error e ↔
      r.seriesIds = [] ∧ e = .noId ∨
        ∃ id, r.seriesIds.find? (fun id ↦ (catalogue.series? id).isNone) = some id ∧
          e = .unknownSeries id := by
  rw [named]
  split
  · next h => simp [List.isEmpty_iff.mp h, eq_comm]
  · next h =>
    rw [or_iff_right (fun hnil ↦ h (List.isEmpty_iff.mpr hnil.1)),
      mapM_eq_error_iff (fun id ↦ (catalogue.series? id).isNone) (fun id _ ↦ ?_)]
    · refine exists_congr fun id ↦ and_congr_right fun hid ↦ ?_
      have hnone := List.find?_some hid
      rw [Option.isNone_iff_eq_none.mp hnone, Except.error.injEq, eq_comm]
    · cases catalogue.series? id <;> simp

/-! ### The directives -/

/-- The directives of the request, read with the labels of the catalogue. -/
abbrev subsetting (r : DescriptionRequest) (catalogue : Catalogue) : Subsetting :=
  ⟨r.directives, catalogue.prefixes⟩

private theorem wanted_eq_error_iff :
    r.wanted catalogue = .error e ↔
      (∃ f, (r.subsetting catalogue).requested? Instant = .error f ∧ e = .badSubset f) ∨
        ∃ temporal f, (r.subsetting catalogue).requested? Instant = .ok temporal ∧
          (r.subsetting catalogue).requested? Double = .error f ∧ e = .badSubset f := by
  simp only [DescriptionRequest.wanted, bind_eq_error_iff, mapError_eq_ok_iff,
    mapError_eq_error_iff, reduceCtorEq,
    and_false, exists_false, or_false, eq_comm (a := e), exists_and_left]

/-! ### The granules -/

/-- The archive has granules of each series. -/
def HasGranules (r : DescriptionRequest) (catalogue : Catalogue) (archive : GranuleArchive) :
    Prop :=
  ∀ v ∈ r.namedSeries catalogue, ∃ store, archive[v.fullName]? = some store

private theorem exists_parts_eq_ok_iff :
    (∃ parts, (r.namedSeries catalogue).mapM (fun c ↦ c.describe archive wanted) = .ok parts) ↔
      r.HasGranules catalogue archive := by
  rw [exists_mapM_eq_ok_iff]
  exact forall₂_congr fun v hv ↦ Coverage.exists_describe_eq_ok_iff (isSeries_of_mem_namedSeries hv)

private theorem parts_eq_error_iff :
    (r.namedSeries catalogue).mapM (fun c ↦ c.describe archive wanted) = .error e ↔
      ∃ v, (r.namedSeries catalogue).find? (fun c ↦ (archive[c.fullName]?).isNone) = some v ∧
        e = .noGranules v.fullName := by
  rw [mapM_eq_error_iff (fun c ↦ (archive[c.fullName]?).isNone) fun v hv ↦ ?_]
  · refine exists_congr fun v ↦ and_congr_right fun hv ↦ ?_
    have hnone := List.find?_some hv
    rw [Coverage.describe_eq_error_iff (isSeries_of_mem_namedSeries (List.mem_of_find?_eq_some hv))]
    exact and_iff_right (Option.isNone_iff_eq_none.mp hnone)
  · simp [Coverage.describe_eq_error_iff (isSeries_of_mem_namedSeries hv)]

/-! ### The answer -/

/-- Everything that an answer needs is there. -/
structure IsAnswerable (r : DescriptionRequest) (catalogue : Catalogue) (archive : GranuleArchive) :
    Prop where
  named : r.NamesSeries catalogue
  times : ∃ temporal, (r.subsetting catalogue).requested? Instant = .ok temporal
  elevations : ∃ elevation, (r.subsetting catalogue).requested? Double = .ok elevation
  granules : r.HasGranules catalogue archive

/-- The first thing that an answer needs and that is not there is reported. -/
inductive IsRefused (r : DescriptionRequest) (catalogue : Catalogue) (archive : GranuleArchive) :
  Fault → Prop where
  | noId (hnil : r.seriesIds = []) : IsRefused r catalogue archive (.missingParameter "eoId")
  | unknownSeries {id : String}
    (hid : r.seriesIds.find? (fun id ↦ (catalogue.series? id).isNone) = some id) :
      IsRefused r catalogue archive (.noSuchCoverage id)
  | badTimes {f : SubsetFault} (hnamed : r.NamesSeries catalogue)
      (htimes : (r.subsetting catalogue).requested? Instant = .error f) :
        IsRefused r catalogue archive f.toFault
  | badElevations {f : SubsetFault} {temporal : Option (Interval Instant)}
    (hnamed : r.NamesSeries catalogue)
      (htimes : (r.subsetting catalogue).requested? Instant = .ok temporal)
      (helevations : (r.subsetting catalogue).requested? Double = .error f) :
        IsRefused r catalogue archive f.toFault
  | noGranules {v : Coverage} {temporal : Option (Interval Instant)}
    {elevation : Option (Interval Double)}
      (hnamed : r.NamesSeries catalogue)
      (htimes : (r.subsetting catalogue).requested? Instant = .ok temporal)
      (helevations : (r.subsetting catalogue).requested? Double = .ok elevation)
      (hv : (r.namedSeries catalogue).find? (fun v ↦ (archive[v.fullName]?).isNone) = some v) :
      IsRefused r catalogue archive (.internal
        ("Failed to load the coverage granules for coverage " ++ v.fullName))

/-- A request is answered exactly if everything that this needs is there. -/
theorem exists_describe_eq_ok_iff :
    (∃ d, r.describe catalogue archive = .ok d) ↔ r.IsAnswerable catalogue archive := by
  simp only [describe_eq_ok_iff, named_eq_ok_iff_namesSeries, wanted_eq_ok_iff, ← mapM_eq_ok_iff]
  constructor
  · rintro ⟨-, -, wanted, parts, ⟨hnamed, rfl⟩, ⟨temporal, elevation, ht, he, -⟩, hparts, -⟩
    exact ⟨hnamed, ⟨temporal, ht⟩, ⟨elevation, he⟩, exists_parts_eq_ok_iff.mp ⟨parts, hparts⟩⟩
  · rintro ⟨hnamed, ⟨temporal, ht⟩, ⟨elevation, he⟩, hgranules⟩
    obtain ⟨parts, hparts⟩ := exists_parts_eq_ok_iff.mpr hgranules
    exact ⟨_, _, _, parts, ⟨hnamed, rfl⟩, ⟨temporal, elevation, ht, he, rfl⟩, hparts, rfl⟩

/-- A request is refused exactly if a step fails, and all steps before that succeed. -/
theorem describe_eq_error_iff :
    r.describe catalogue archive = .error e ↔
      r.named catalogue = .error e ∨
        r.NamesSeries catalogue ∧
          (r.wanted catalogue = .error e ∨
            ∃ wanted, r.wanted catalogue = .ok wanted ∧
              (r.namedSeries catalogue).mapM (fun c ↦ c.describe archive wanted) = .error e) := by
  simp only [describe, bind_eq_error_iff, named_eq_ok_iff_namesSeries, reduceCtorEq, and_false,
    exists_false, or_false, and_assoc, exists_and_left, exists_eq_left]

/-- A request is refused exactly with what is reported first. -/
theorem exists_describe_eq_error_iff {f : Fault} :
    (∃ e, r.describe catalogue archive = .error e ∧ e.toFault = f) ↔
      r.IsRefused catalogue archive f := by
  simp only [describe_eq_error_iff, named_eq_error_iff, wanted_eq_error_iff, wanted_eq_ok_iff,
    parts_eq_error_iff]
  constructor
  · rintro ⟨e, h, rfl⟩
    rcases h with (⟨hnil, rfl⟩ | ⟨id, hid, rfl⟩) |
      ⟨hnamed, (⟨f, ht, rfl⟩ | ⟨temporal, f, ht, he, rfl⟩) |
      ⟨wanted, ⟨temporal, elevation, ht, he, rfl⟩, v, hv, rfl⟩⟩
    · exact .noId hnil
    · exact .unknownSeries hid
    · exact .badTimes hnamed ht
    · exact .badElevations hnamed ht he
    · exact .noGranules hnamed ht he hv
  · rintro (hnil | hid | ⟨hnamed, ht⟩ | ⟨hnamed, ht, he⟩ | ⟨hnamed, ht, he, hv⟩)
    · exact ⟨_, .inl (.inl ⟨hnil, rfl⟩), rfl⟩
    · exact ⟨_, .inl (.inr ⟨_, hid, rfl⟩), rfl⟩
    · exact ⟨_, .inr ⟨hnamed, .inl (.inl ⟨_, ht, rfl⟩)⟩, rfl⟩
    · exact ⟨_, .inr ⟨hnamed, .inl (.inr ⟨_, _, ht, he, rfl⟩)⟩, rfl⟩
    · exact ⟨_, .inr ⟨hnamed, .inr ⟨_, ⟨_, _, ht, he, rfl⟩, _, hv, rfl⟩⟩, rfl⟩

/-! ### What is listed -/

/-- The listing goes by an identifier and has granules of the series that this finds, with their
identifiers. -/
structure IsListing (catalogue : Catalogue) (archive : GranuleArchive) (id : String)
    (l : CoverageGranules) : Prop where
  seriesId : l.seriesId = id
  granules : ∃ v store, catalogue.series? id = some v ∧ archive[v.fullName]? = some store ∧
    l.granules.Sublist store.granules ∧ l.granuleIds = l.granules.map fun g ↦ v.granuleId g.id

/-- The description goes by an identifier and has the period of the series that this finds. -/
structure IsSeriesDescription (catalogue : Catalogue) (archive : GranuleArchive) (id : String)
    (s : SeriesDescription) : Prop where
  seriesId : s.seriesId = id
  period : ∃ v store, catalogue.series? id = some v ∧ archive[v.fullName]? = some store ∧
    s.period = v.period store

/-- A listing that is cut still goes by its identifier and has granules of its series. -/
theorem IsListing.take {id : String} {l : CoverageGranules} (h : IsListing catalogue archive id l)
    (n : Nat) :
    IsListing catalogue archive id (l.take n) where
  seriesId := h.seriesId
  granules := by
    obtain ⟨v, store, hv, hstore, hgranules, hids⟩ := h.granules
    refine ⟨v, store, hv, hstore, (List.take_sublist n _).trans hgranules, ?_⟩
    rw [CoverageGranules.take, hids, List.map_take]

/-- The part on a series goes by the identifier that names it. -/
theorem isListing_of_describe {id : String} {v : Coverage} {part : SeriesPart}
    (hv : catalogue.series? id = some v) (hpart : v.describe archive wanted = .ok part) :
    IsListing catalogue archive id part.listed ∧
      IsSeriesDescription catalogue archive id part.described := by
  obtain ⟨store, id', hstore, hid', rfl⟩ := Coverage.describe_eq_ok_iff.mp hpart
  have hid : v.seriesId = .ok id := (Catalogue.series?_eq_some_iff.mp hv).1
  -- What the identifier finds has one identifier only, so the part goes by it.
  obtain rfl : id' = id := Except.ok.inj (hid'.symm.trans hid)
  refine ⟨⟨rfl, v, store, hv, hstore, ?_, rfl⟩, rfl, v, store, hv, hstore, rfl⟩
  rw [Coverage.matching, GranuleStore.select_ofFilter, Option.getD_some]
  exact List.filter_sublist

private theorem isListing_of_parts {ids : List String} {parts : List SeriesPart}
    (hnamed : List.Forall₂ (fun id v ↦ catalogue.series? id = some v) ids coverages)
    (hparts : List.Forall₂ (fun v part ↦ v.describe archive wanted = .ok part) coverages parts) :
    List.Forall₂ (IsListing catalogue archive) ids (parts.map SeriesPart.listed) ∧
      List.Forall₂ (IsSeriesDescription catalogue archive) ids
        (parts.map SeriesPart.described) := by
  have hboth :=
    (forall₂_comp hnamed hparts).imp fun id part ⟨v, hv, hpart⟩ ↦ isListing_of_describe hv hpart
  constructor
  · exact List.forall₂_map_right_iff.mpr (hboth.imp fun _ _ h ↦ h.1)
  · exact List.forall₂_map_right_iff.mpr (hboth.imp fun _ _ h ↦ h.2)

/-- The coverages that are listed go by the first identifiers of the request. -/
theorem isListing_of_mem_coverages {d : Description} (h : r.describe catalogue archive = .ok d) :
    ∃ front, front <+: r.seriesIds ∧
      List.Forall₂ (IsListing catalogue archive) front d.coverages := by
  obtain ⟨coverages, wanted, parts, hnamed, -, hparts, rfl⟩ := describe_eq_ok_iff.mp h
  have hlisted := (isListing_of_parts (named_eq_ok_iff.mp hnamed).2 hparts).1
  simp only [assemble]
  split
  · exact CoverageGranules.forall₂_limit (fun _ _ n hl ↦ hl.take n) hlisted _
  · exact ⟨[], List.nil_prefix, .nil⟩

/-- The series that are described go by the identifiers of the request. -/
theorem isSeriesDescription_of_mem_series {d : Description}
    (h : r.describe catalogue archive = .ok d) :
    if Section.series.isIncluded r.sections then
      List.Forall₂ (IsSeriesDescription catalogue archive) r.seriesIds d.series
    else d.series = [] := by
  obtain ⟨coverages, wanted, parts, hnamed, -, hparts, rfl⟩ := describe_eq_ok_iff.mp h
  have hdescribed := (isListing_of_parts (named_eq_ok_iff.mp hnamed).2 hparts).2
  simp only [assemble]
  split
  · exact hdescribed
  · rfl

/-- A request is answered or refused by what it names and asks for and what is there, and what it
lists goes by its identifiers. -/
structure AnswersExactly (r : DescriptionRequest) (catalogue : Catalogue)
    (archive : GranuleArchive) : Prop where
  answered : (∃ d, r.describe catalogue archive = .ok d) ↔ r.IsAnswerable catalogue archive
  refused : ∀ f : Fault, (∃ e, r.describe catalogue archive = .error e ∧ e.toFault = f) ↔
    r.IsRefused catalogue archive f
  /-- What is found by an identifier has this very identifier. -/
  found : ∀ id v, catalogue.series? id = some v ↔
    v.seriesId = .ok id ∧
      ∃ before after, catalogue.coverages = before ++ v :: after ∧ ∀ w ∈ before, w.stem ≠ v.stem
  listed : ∀ d, r.describe catalogue archive = .ok d →
    ∃ front, front <+: r.seriesIds ∧ List.Forall₂ (IsListing catalogue archive) front d.coverages
  described : ∀ d, r.describe catalogue archive = .ok d →
    if Section.series.isIncluded r.sections then
      List.Forall₂ (IsSeriesDescription catalogue archive) r.seriesIds d.series
    else d.series = []

/-- Every request is answered exactly if what it needs is there. -/
theorem describe_answersExactly (r : DescriptionRequest) (catalogue : Catalogue)
    (archive : GranuleArchive) :
    r.AnswersExactly catalogue archive where
  answered := exists_describe_eq_ok_iff
  refused _ := exists_describe_eq_error_iff
  found _ _ := Catalogue.series?_eq_some_iff
  listed _ := isListing_of_mem_coverages
  described _ := isSeriesDescription_of_mem_series

/-- An identifier of no series is reported before directives that cannot be read and granules that
are missing. -/
example :
    let catalogue : Catalogue :=
      ⟨none, [], [⟨"sst", some "eo", true, true, ⟨some ⟨true, "t", none⟩, none, []⟩⟩]⟩
    let r : DescriptionRequest :=
      ⟨["eo__sst_dss", "eo__sst", "eo__ice_dss"], 0, none, [.slice "time" "noon"]⟩
    (r.describe catalogue ∅).map Description.matched = .error (.unknownSeries "eo__sst") := by
  decide +kernel

end DescriptionRequest

end CoverageSubset

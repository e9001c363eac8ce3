import CoverageSubset.Catalogue.Basic
import CoverageSubset.CoverageSet.Budget
import CoverageSubset.CoverageSet.Identifier
import CoverageSubset.CoverageSet.Section
import CoverageSubset.GridRequest

/-!
# Descriptions of coverage sets

A request names some series. Of each, the granules that meet the requested times and elevations are
listed, as many as the limit admits, and the period is given that all its granules span, whether
they were requested or not. All granules that meet the request are counted, listed or not. The
requested intervals are not looked up in a domain.

The identifiers are checked first, then the directives, time before elevation, and then whether the
granules of each series are there.
-/

namespace CoverageSubset

/-- A request for a description. -/
structure DescriptionRequest where
  seriesIds : List String
  /-- How many granules to list; zero leaves it to the service. -/
  count : Nat
  sections : Option (List Section)
  directives : List Directive

/-- The period that the granules of a series span. -/
structure SeriesDescription where
  seriesId : String
  period : Option (Interval Instant)

/-- A description of a set of coverages. -/
structure Description where
  /-- How many granules meet the request. -/
  matched : Nat
  /-- How many of them are returned. -/
  returned : Nat
  coverages : List CoverageGranules
  series : List SeriesDescription

/-- The granules of published coverages, by full name. -/
abbrev GranuleArchive := Std.ExtTreeMap String GranuleStore

/-- Why a description cannot be given. -/
inductive DescriptionFault where
  /-- The request names no series. -/
  | noId
  /-- An identifier of no series. -/
  | unknownSeries (id : String)
  /-- A directive that cannot be resolved. -/
  | badSubset (fault : SubsetFault)
  /-- A series whose granules are not there. -/
  | noGranules (fullName : String)
  /-- A coverage that is no series. -/
  | notSeries (fault : NoSeries)
deriving DecidableEq

/-- The fault as the service reports it. -/
def DescriptionFault.toFault : DescriptionFault → Fault
  | noId => .missingParameter "eoId"
  | unknownSeries id => .noSuchCoverage id
  | badSubset fault => fault.toFault
  | noGranules fullName => .internal ("Failed to load the coverage granules for coverage " ++
    fullName)
  | notSeries fault => fault.toFault

/-- The part of a description that is about one series. -/
structure SeriesPart where
  listed : CoverageGranules
  described : SeriesDescription

namespace Coverage

/-- The granules of the coverage. -/
def store (c : Coverage) (archive : GranuleArchive) : Except DescriptionFault GranuleStore :=
  match archive[c.fullName]? with
  | some store => .ok store
  | none => .error (.noGranules c.fullName)

/-- The granules of the coverage that meet a request. They are not sorted, so the query is
answered. -/
def matching (c : Coverage) (wanted : GridRequest) (store : GranuleStore) : List Granule :=
  (store.select (.ofFilter (wanted.granuleFilter c.time? c.elevation?))).getD []

/-- The period that all granules of the coverage span. -/
def period (c : Coverage) (store : GranuleStore) : Option (Interval Instant) := do
  let source ← c.time?
  let times : TimeDomain := source.domain ((store.select .all).getD [])
  let low ← times.lowest?
  let high ← times.highest?
  some ⟨low, high⟩

/-- Describes one series. -/
def describe (c : Coverage) (archive : GranuleArchive) (wanted : GridRequest) :
    Except DescriptionFault SeriesPart := do
  let store ← c.store archive
  let granules := c.matching wanted store
  let id ← c.seriesId.mapError .notSeries
  .ok ⟨⟨id, granules.map fun g ↦ c.granuleId g.id, granules⟩, ⟨id, c.period store⟩⟩

end Coverage

namespace DescriptionRequest

/-- The coverages that the request names. -/
def named (r : DescriptionRequest) (catalogue : Catalogue) :
    Except DescriptionFault (List Coverage) :=
  if r.seriesIds.isEmpty then .error .noId
  else
    r.seriesIds.mapM fun id ↦
      match catalogue.series? id with
      | some c => .ok c
      | none => .error (.unknownSeries id)

/-- The times and elevations that the request asks for. -/
def wanted (r : DescriptionRequest) (catalogue : Catalogue) :
    Except DescriptionFault GridRequest := do
  let s : Subsetting := ⟨r.directives, catalogue.prefixes⟩
  let temporal ← (s.requested? Instant).mapError .badSubset
  let elevation ← (s.requested? Double).mapError .badSubset
  .ok { GridRequest.unspecified with temporal, elevation }

/-- The description made of the parts on its series (specification 12.6, `number_matched` and
`number_returned`). -/
def assemble (r : DescriptionRequest) (defaultCount : Option Nat) (parts : List SeriesPart) :
    Description :=
  let listed := parts.map SeriesPart.listed
  let most := listingLimit r.count defaultCount
  let matched := CoverageGranules.total listed
  { matched
    returned := most.elim matched (min matched)
    coverages :=
      if Section.coverages.isIncluded r.sections then CoverageGranules.limit most listed else []
    series := if Section.series.isIncluded r.sections then parts.map SeriesPart.described else [] }

/-- Answers a request (specification 12.6, `describe_coverage_set`). -/
def describe (r : DescriptionRequest) (catalogue : Catalogue) (archive : GranuleArchive) :
    Except DescriptionFault Description := do
  let coverages ← r.named catalogue
  let wanted ← r.wanted catalogue
  let parts ← coverages.mapM fun c ↦ c.describe archive wanted
  .ok (r.assemble catalogue.defaultCount parts)

end DescriptionRequest

end CoverageSubset

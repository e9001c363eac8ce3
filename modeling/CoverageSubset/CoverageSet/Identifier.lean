import CoverageSubset.Catalogue.Basic
import CoverageSubset.Fault

/-!
# Identifiers of datasets and granules

A structured coverage that is published as a dataset and has an enabled time dimension is a series
of datasets. Its identifier is its stem, which has no colon in it for the workspace, and an ending;
the identifier of a granule is the stem, a separator and the name of the record. An identifier is
looked up by its stem among all coverages, and only then must the coverage found be a series.
-/

namespace CoverageSubset

/-- The end of the identifiers of series. -/
def seriesEnding : String := "_dss"

/-- What separates the stem from the name of a record. -/
def granuleSeparator : String := "_granule_"

/-- A coverage that is no series. -/
structure NoSeries where
  fullName : String
deriving DecidableEq

/-- The fault as the service reports it. -/
def NoSeries.toFault (f : NoSeries) : Fault :=
  .invalidParameter "eoId" ("Specified coverage " ++ f.fullName ++ " is not a valid EO dataset")

namespace Coverage

/-- The workspace, two underscores and the name, or the name alone. -/
def stem (c : Coverage) : String :=
  match c.workspace with
  | some workspace => workspace ++ "__" ++ c.name
  | none => c.name

/-- The coverage is a series of datasets (specification 12.6, a valid dataset). -/
def isSeries (c : Coverage) : Bool := c.isDataset && c.time?.isSome && c.isStructured

/-- The identifier of a series (specification 12.6, the dataset id). -/
def seriesId (c : Coverage) : Except NoSeries String :=
  if c.isSeries then .ok (c.stem ++ seriesEnding) else .error ⟨c.fullName⟩

/-- The identifier of a granule (specification 12.6, the granule id). -/
def granuleId (c : Coverage) (name : String) : String := c.stem ++ granuleSeparator ++ name

end Coverage

/-- The series of an identifier: the first coverage of its stem, if that is a series (specification
12.6, `dataset_coverage`). -/
def Catalogue.series? (c : Catalogue) (id : String) : Option Coverage :=
  (Text.beforeEnd? seriesEnding id).bind fun stem ↦
    (c.coverages.find? fun v ↦ v.stem == stem).filter Coverage.isSeries

/-- Only a series is found by an identifier. -/
theorem Catalogue.isSeries_of_series?_eq_some {c : Catalogue} {id : String} {v : Coverage}
    (h : c.series? id = some v) : v.isSeries = true := by
  obtain ⟨stem, -, h⟩ := Option.bind_eq_some_iff.1 h
  exact (Option.filter_eq_some_iff.1 h).2

end CoverageSubset

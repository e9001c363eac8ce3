import CoverageSubset.CoverageSet.Description
import CoverageSubset.Document.Requests

/-!
# Catalogues and coverage sets in documents

The document forms of a catalogue, of requests for a description and of descriptions. A custom
dimension has its name beside the fields of its set-up. A section is its name, or an object of one
null field of that name.
-/

namespace CoverageSubset

/-! ### Catalogues -/

/-- The fields of a set-up. -/
def DimensionSetup.fields (s : DimensionSetup) : List (String × Document) :=
  [("enabled", .bool s.isEnabled), ("start_attribute", .text s.start),
    ("end_attribute", Document.ofText? s.stop)]

/-- The document form of the dimensions of a coverage. -/
def CoverageDimensions.toDocument (d : CoverageDimensions) : Document :=
  let setup (s : DimensionSetup) : Document := .object s.fields
  .object [("time", Document.ofOption setup d.time),
    ("elevation", Document.ofOption setup d.elevation),
    ("custom", .list (d.custom.map fun c ↦ .object (("name", .text c.name) :: c.setup.fields)))]

/-- The document form of a coverage. -/
def Coverage.toDocument (c : Coverage) : Document :=
  .object [("name", .text c.name), ("workspace", Document.ofText? c.workspace),
    ("dataset", .bool c.isDataset),
    ("structured", .bool c.isStructured), ("dimensions", c.dimensions.toDocument)]

/-- The document form of a catalogue. -/
def Catalogue.toDocument (c : Catalogue) : Document :=
  .object [("count_default", Document.ofOption Document.ofNat c.defaultCount),
    ("axis_prefixes", Document.ofTexts c.axisPrefixes),
      ("coverages", .list (c.coverages.map Coverage.toDocument))]

/-! ### Coverage sets -/

/-- Reads a section. -/
def Section.ofDocument? (d : Document) : Option Section :=
  let named (s : String) : Option Section := (Section.ofName s).toOption
  match d, d.single? with
  | .text s, _ => named s
  | _, some (s, .null) => named s
  | _, _ => none

namespace DescriptionRequest

/-- The document form of a request. -/
def toDocument (r : DescriptionRequest) : Document :=
  .object [("eo_ids", Document.ofTexts r.seriesIds), ("count", Document.ofNat r.count),
    ("sections",
      Document.ofOption (fun sections ↦ Document.ofTexts (sections.map Section.name)) r.sections),
    ("subsets", .list (r.directives.map Directive.toDocument))]

/-- Reads a request. -/
def ofDocument? (d : Document) : Option DescriptionRequest := do
  let [seriesIds, count, sections, directives] ← d.record? ["eo_ids", "count", "sections",
    "subsets"] | none
  let seriesIds ← Document.required (Document.list? Document.text?) seriesIds
  let count ← Document.defaulted 0 Document.word? count
  let sections ← Document.optional (Document.list? Section.ofDocument?) sections
  let directives ← Document.defaulted [] (Document.list? Directive.ofDocument?) directives
  some ⟨seriesIds, count, sections, directives⟩

end DescriptionRequest

/-- The document form of the granules listed for a coverage: their identifiers. -/
def CoverageGranules.toDocument (l : CoverageGranules) : Document :=
  .object [("dataset_id", .text l.seriesId), ("granule_ids", Document.ofTexts l.granuleIds)]

/-- The document form of the description of a series. -/
def SeriesDescription.toDocument (s : SeriesDescription) : Document :=
  .object [("dataset_id", .text s.seriesId),
    ("time_period", Document.ofOption Interval.toDocument s.period)]

/-- The document form of a description. -/
def Description.toDocument (d : Description) : Document :=
  .object [("number_matched", Document.ofNat d.matched),
    ("number_returned", Document.ofNat d.returned),
    ("coverage_descriptions", .list (d.coverages.map CoverageGranules.toDocument)),
    ("dataset_series_descriptions", .list (d.series.map SeriesDescription.toDocument))]

end CoverageSubset

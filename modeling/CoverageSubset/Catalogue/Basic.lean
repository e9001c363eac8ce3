import CoverageSubset.AxisLabel
import CoverageSubset.Granule

/-!
# Catalogues

What a service publishes: coverages with the set-up of their dimensions, prefixes of axis labels,
and how many granules a description lists unless the request says so. A coverage goes by its full
name, which has the workspace in front, and is also found by its plain name if no full name fits.

A valid catalogue has no coverage with a blank name and no full name twice. The first coverage at
fault is reported.
-/

namespace CoverageSubset

/-- How a dimension is set up. -/
structure DimensionSetup where
  isEnabled : Bool
  start : String
  stop : Option String
deriving DecidableEq

/-- A dimension with a name of its own. -/
structure CustomDimension where
  name : String
  setup : DimensionSetup
deriving DecidableEq

/-- The dimensions of a coverage. -/
structure CoverageDimensions where
  time : Option DimensionSetup
  elevation : Option DimensionSetup
  custom : List CustomDimension
deriving DecidableEq

/-- A published coverage (specification 11.3, `CoverageConfig`). -/
structure Coverage where
  name : String
  workspace : Option String
  /-- The coverage is published as a series of datasets. -/
  isDataset : Bool
  /-- The coverage has records of its granules. -/
  isStructured : Bool
  dimensions : CoverageDimensions
deriving DecidableEq

/-- What a service publishes (specification 11.3, `EoConfig`). -/
structure Catalogue where
  /-- How many granules a description lists, if the request does not say so. -/
  defaultCount : Option Nat
  /-- The prefixes of axis labels beside the built-in ones. -/
  axisPrefixes : List String
  coverages : List Coverage
deriving DecidableEq

/-- The source of an enabled dimension. -/
def DimensionSetup.source? (s : DimensionSetup) (name : String) : Option DimensionSource :=
  if s.isEnabled then some ⟨name, s.start, s.stop⟩ else none

namespace CoverageDimensions

/-- No dimensions. -/
def none : CoverageDimensions := ⟨.none, .none, []⟩

/-- The custom dimensions that are enabled. -/
def enabledCustom (d : CoverageDimensions) : List CustomDimension :=
  d.custom.filter fun c ↦ c.setup.isEnabled

end CoverageDimensions

namespace Coverage

/-- The workspace, a colon and the name, or the name alone. -/
def fullName (c : Coverage) : String :=
  match c.workspace with
  | some workspace => workspace ++ ":" ++ c.name
  | none => c.name

/-- The source of the time dimension, if it is enabled (specification 11.3, `time_descriptor`). -/
def time? (c : Coverage) : Option DimensionSource := c.dimensions.time.bind fun s ↦ s.source? "time"

/-- The source of the elevation dimension, if it is enabled (specification 11.3,
`elevation_descriptor`). -/
def elevation? (c : Coverage) : Option DimensionSource :=
  c.dimensions.elevation.bind fun s ↦ s.source? "elevation"

/-- The names of the enabled custom dimensions (specification 11.3, `custom_dimension_names`). -/
def customNames (c : Coverage) : List String := c.dimensions.enabledCustom.map CustomDimension.name

/-- The sources of all enabled dimensions: time, elevation, then the custom ones (specification
11.3, `dimension_descriptors`). -/
def sources (c : Coverage) : List DimensionSource :=
  c.time?.toList ++ c.elevation?.toList ++ c.dimensions.custom.filterMap fun d ↦
    d.setup.source? d.name

end Coverage

/-- Why a text is no catalogue. -/
inductive CatalogueFault where
  /-- The text does not have the form of one. -/
  | malformed
  /-- A coverage with a blank name. -/
  | blankName
  /-- A coverage with the full name of another. -/
  | repeatedName (fullName : String)
deriving DecidableEq

/-- The text of a fault. -/
def CatalogueFault.message : CatalogueFault → String
  | malformed => "Invalid EO configuration"
  | blankName => "Coverage with empty name in EO configuration"
  | repeatedName fullName => "Duplicate coverage in EO configuration: " ++ fullName

namespace Catalogue

/-- The catalogue of a service that publishes nothing. -/
def empty : Catalogue := ⟨none, [], []⟩

/-- Checks coverages from the first on, given the full names before them. -/
def checkNames (seen : List String) : List Coverage → Except CatalogueFault Unit
  | [] => .ok ()
  | c :: rest =>
    if Text.strip c.name = "" then .error .blankName
    else if c.fullName ∈ seen then .error (.repeatedName c.fullName)
    else checkNames (c.fullName :: seen) rest

/-- The catalogue, if it is valid. -/
def checked (c : Catalogue) : Except CatalogueFault Catalogue :=
  (checkNames [] c.coverages).map fun _ ↦ c

/-- The coverage of a full name, or else the first one of a plain name. -/
def find? (c : Catalogue) (name : String) : Option Coverage :=
  (c.coverages.find? fun v ↦ v.fullName == name).or (c.coverages.find? fun v ↦ v.name == name)

/-- The prefixes that are stripped from axis labels. -/
def prefixes (c : Catalogue) : AxisPrefixes := .withExtra c.axisPrefixes

end Catalogue

end CoverageSubset

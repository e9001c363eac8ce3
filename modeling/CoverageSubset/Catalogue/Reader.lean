import CoverageSubset.Catalogue.Basic
import CoverageSubset.Yaml.Reader
import CoverageSubset.Yaml.Record

/-!
# Reading catalogues

The notation of a catalogue in YAML. A text without a document is the empty catalogue. In a custom
dimension, all values but its name are bare values, and even those of other names than its own must
be readable.
-/

namespace CoverageSubset

/-- Reads a set-up from its fields. -/
def DimensionSetup.ofFields? (text? : Yaml.Node → Option String)
    (enabled start stop : Option Yaml.Node) :
    Option DimensionSetup := do
  let isEnabled ← Yaml.defaulted true Yaml.Node.truth? enabled
  let start ← Yaml.required text? start
  let stop ← Yaml.optional text? stop
  some ⟨isEnabled, start, stop⟩

/-- Reads a set-up. -/
def DimensionSetup.ofNode? (n : Yaml.Node) : Option DimensionSetup := do
  let [enabled, start, stop] ← n.record? ["enabled", "start_attribute", "end_attribute"] | none
  ofFields? Yaml.Node.text? enabled start stop

/-- How deep lists and mappings nest in a value of a custom dimension: a catalogue has at most 128
levels, and the dimension is at the sixth. -/
def CustomDimension.valueDepth : Nat := 122

/-- Reads a custom dimension. -/
def CustomDimension.ofNode? (n : Yaml.Node) : Option CustomDimension := do
  let pairs ← n.pairs?
  if pairs.any fun (key, value) ↦ key != "name" && !value.isBareWithin valueDepth then none
  else do
    let [name, enabled, start, stop] ←
      Yaml.Node.namedFields? ["name", "enabled", "start_attribute", "end_attribute"] pairs | none
    let name ← Yaml.required Yaml.Node.text? name
    let setup ← DimensionSetup.ofFields? Yaml.Node.bareText? enabled start stop
    some ⟨name, setup⟩

/-- Reads the dimensions of a coverage. -/
def CoverageDimensions.ofNode? (n : Yaml.Node) : Option CoverageDimensions := do
  let [time, elevation, custom] ← n.record? ["time", "elevation", "custom"] | .none
  let time ← Yaml.optional DimensionSetup.ofNode? time
  let elevation ← Yaml.optional DimensionSetup.ofNode? elevation
  let custom ← Yaml.defaulted [] (Yaml.list? CustomDimension.ofNode?) custom
  some ⟨time, elevation, custom⟩

/-- Reads a coverage. -/
def Coverage.ofNode? (n : Yaml.Node) : Option Coverage := do
  let [name, workspace, dataset, structured, dimensions] ←
    n.record? ["name", "workspace", "dataset", "structured", "dimensions"] | none
  let name ← Yaml.required Yaml.Node.text? name
  let workspace ← Yaml.optional Yaml.Node.text? workspace
  let isDataset ← Yaml.defaulted false Yaml.Node.truth? dataset
  let isStructured ← Yaml.defaulted false Yaml.Node.truth? structured
  let dimensions ← Yaml.defaulted CoverageDimensions.none CoverageDimensions.ofNode? dimensions
  some ⟨name, workspace, isDataset, isStructured, dimensions⟩

namespace Catalogue

/-- Reads a catalogue, valid or not. -/
def ofNode? (n : Yaml.Node) : Option Catalogue := do
  let [defaultCount, axisPrefixes, coverages] ← n.record? ["count_default", "axis_prefixes",
    "coverages"] | none
  let defaultCount ← Yaml.optional Yaml.Node.word? defaultCount
  let axisPrefixes ← Yaml.defaulted [] (Yaml.list? Yaml.Node.text?) axisPrefixes
  let coverages ← Yaml.defaulted [] (Yaml.list? Coverage.ofNode?) coverages
  some ⟨defaultCount, axisPrefixes, coverages⟩

/-- Reads the text of a valid catalogue (specification 11.3, `from_yaml_str`). -/
def ofText (s : String) : Except CatalogueFault Catalogue :=
  match Yaml.read? s with
  | none => .error .malformed
  | some none => .ok empty
  | some (some n) =>
    match ofNode? n with
    | none => .error .malformed
    | some c => c.checked

end Catalogue

end CoverageSubset

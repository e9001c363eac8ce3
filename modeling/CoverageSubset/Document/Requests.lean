import CoverageSubset.Document.Values
import CoverageSubset.GridRequest

/-!
# Requests in documents

The document forms of subset directives, of resolved requests and of faults. The kind of a directive
is a field beside its others; in the list form, it is the first item.
-/

namespace CoverageSubset

namespace Directive

/-- The document form of a directive. -/
def toDocument : Directive → Document
  | trim axis low high =>
    .object [("kind", .text "trim"), ("dimension", .text axis), ("low", .text low),
      ("high", .text high)]
  | slice axis point => .object [("kind", .text "slice"), ("dimension", .text axis),
    ("slice_point", .text point)]

/-- Reads a directive of a kind, given how its other fields are found. -/
def ofFields? (kind : String) (fields? : List String → Option (List (Option Document))) :
    Option Directive :=
  if kind = "trim" then do
    let [axis, low, high] ← fields? ["dimension", "low", "high"] | none
    let axis ← Document.required Document.text? axis
    let low ← Document.required Document.text? low
    let high ← Document.required Document.text? high
    some (trim axis low high)
  else if kind = "slice" then do
    let [axis, point] ← fields? ["dimension", "slice_point"] | none
    let axis ← Document.required Document.text? axis
    let point ← Document.required Document.text? point
    some (slice axis point)
  else none

/-- Reads a directive. -/
def ofDocument? : Document → Option Directive
  | .object fields => do
    let [kind] ← Document.namedFields? ["kind"] fields | none
    let kind ← Document.required Document.text? kind
    ofFields? kind fun names ↦ Document.namedFields? names fields
  | .list (.text kind :: items) => ofFields? kind fun names ↦ Document.orderedFields? names items
  | _ => none

end Directive

/-- The document form of the values of custom dimensions. -/
def Subsetting.CustomValues.toDocument (values : Subsetting.CustomValues) : Document :=
  .object (values.toList.map fun (name, vs) ↦ (name, .list (vs.map CustomValue.toDocument)))

/-- The document form of a resolved request. -/
def GridRequest.toDocument (r : GridRequest) : Document :=
  .object [("temporal_subset", Document.ofOption Interval.toDocument r.temporal),
    ("elevation_subset", Document.ofOption Interval.toDocument r.elevation),
    ("dimensions_subset", Subsetting.CustomValues.toDocument r.custom),
    ("spatial_subset", Document.ofOption Envelope.toDocument r.spatial)]

/-- The exception report of a fault. -/
def Fault.report (f : Fault) : Document :=
  .object [("exceptionCode", .text f.code.name), ("locator", Document.ofText? f.locator),
    ("text", .text f.message)]

end CoverageSubset

import CoverageSubset.AxisLabel
import CoverageSubset.CustomValue
import CoverageSubset.Domain.Basic
import CoverageSubset.Fault
import Std.Data.ExtTreeMap

/-!
# Resolving the directives of a request

A directive is one subset of a request, as it is written: an axis label and either one value or a
low and a high value, all of them still texts. The directives of a request are read for one
dimension at a time. For time and for elevation at most one directive may name the dimension, and
its literals give the requested interval. Against a domain, an interval must be a slice, and it
moves to the nearest offered value; without a directive the greatest offered value is taken. Custom
dimensions only take slices, whose values are not looked up in a domain.

A label that names no axis is a fault wherever it stands, up to the point where reading stops.
-/

namespace CoverageSubset

/-- One subset of a request (specification 6, the parsed subset requests). -/
inductive Directive where
  /-- A closed interval. -/
  | trim (axis low high : String)
  /-- A single value. -/
  | slice (axis point : String)
deriving DecidableEq

namespace Directive

/-- The axis label, as it is written. -/
def axis : Directive → String
  | trim axis _ _ => axis
  | slice axis _ => axis

/-- The written form. -/
def written : Directive → String
  | trim axis low high => axis ++ "(" ++ low ++ "," ++ high ++ ")"
  | slice axis point => axis ++ "(" ++ point ++ ")"

/-- The directive asks for an interval. -/
def isTrim : Directive → Bool
  | trim _ _ _ => true
  | slice _ _ => false

end Directive

/-- The dimensions with a meaning of their own. -/
inductive Dimension where
  | time
  | elevation
deriving DecidableEq

namespace Dimension

/-- The dimension in a sentence's first word. -/
def label : Dimension → String
  | time => "Time"
  | elevation => "Elevation"

/-- The dimension as a name. -/
def name : Dimension → String
  | time => "time"
  | elevation => "elevation"

/-- The axis names that stand for the dimension. -/
def aliases : Dimension → List String
  | time => timeAliases
  | elevation => elevationAliases

end Dimension

/-- Why the directives of a request cannot be resolved (specification 4.1, the failure
conditions). -/
inductive SubsetFault where
  /-- A label with nothing left to name an axis. -/
  | emptyLabel (label : String)
  /-- A literal that is no time, without the blanks at its ends. -/
  | badTime (literal : String)
  /-- A literal that is no elevation. -/
  | badElevation (literal : String)
  /-- A second directive for a dimension. -/
  | repeated (dimension : Dimension)
  /-- An interval whose low end is above its high end. -/
  | reversed (low high : String)
  /-- An interval where only slices are offered. -/
  | trimmed (dimension : Dimension)
  /-- An interval on a custom dimension. -/
  | trimmedCustom (name : String) (directive : Directive)
deriving DecidableEq

namespace SubsetFault

/-- The fault as the service reports it. -/
def toFault : SubsetFault → Fault
  | emptyLabel label =>
    .invalidAxisLabel Fault.subsetLocator ("Empty/invalid axis label provided: " ++ label)
  | badTime literal =>
    .invalidSubsetting Fault.subsetLocator ("Invalid time format: " ++ literal)
  | badElevation literal =>
    .invalidSubsetting Fault.subsetLocator ("Invalid elevation value: " ++ literal)
  | repeated dimension =>
    .invalidSubsetting Fault.subsetLocator
      (dimension.label ++ " dimension trimming/slicing specified twice in the request")
  | reversed low high =>
    .invalidSubsetting Fault.subsetLocator ("Low greater than High: " ++ low ++ ", " ++ high)
  | trimmed dimension => .trimmingNotSupported Fault.subsetLocator dimension.name
  | trimmedCustom name directive =>
    .invalidSubsetting Fault.subsetLocator
      ("Invalid element found while attempting to parse dimension subsetting request: " ++
        "trimming is not allowed on custom dimension " ++ name ++ " (" ++ directive.written ++ ")")

end SubsetFault

/-- A kind of value that a dimension is requested in: the dimension and its literals. -/
class Requestable (α : Type) where
  dimension : Dimension
  ofLiteral : String → Except SubsetFault α

instance : Requestable Instant where
  dimension := .time
  ofLiteral s :=
    match Instant.ofLiteral? s with
    | some t => .ok t
    | none => .error (.badTime (Text.strip s))

instance : Requestable Double where
  dimension := .elevation
  ofLiteral s :=
    match doubleOfLiteral? s with
    | some x => if x.isNaN then .error (.badElevation s) else .ok x
    | none => .error (.badElevation s)

/-- The directives of one request and the prefixes of its axis labels. -/
structure Subsetting where
  directives : List Directive
  prefixes : AxisPrefixes := .standard

namespace Subsetting

/-- The name of the axis that a directive is about (specification 4.1, `parseDimensionName`). -/
def axisName (ps : AxisPrefixes) (d : Directive) : Except SubsetFault String :=
  match ps.name? d.axis with
  | some name => .ok name
  | none => .error (.emptyLabel d.axis)

variable {α : Type} [AxisValue α] [Requestable α]

/-- The interval that a directive writes (specification 4.1, trim and slice directives). -/
def interval : Directive → Except SubsetFault (Interval α)
  | .trim _ low high => do
    let a : α ← Requestable.ofLiteral low
    let b ← Requestable.ofLiteral high
    if (compare a b).isGT then .error (.reversed low high) else .ok ⟨a, b⟩
  | .slice _ point => do
    let v ← Requestable.ofLiteral point
    .ok (.slice v)

/-- Reads the directives from the first on, given the interval found before them. -/
def findInterval (ps : AxisPrefixes) (found : Option (Interval α)) :
    List Directive → Except SubsetFault (Option (Interval α))
  | [] => .ok found
  | d :: rest => do
    let name ← axisName ps d
    if matchesAlias name (Requestable.dimension α).aliases then
      if found.isSome then .error (.repeated (Requestable.dimension α))
      else do
        let i ← interval d
        findInterval ps (some i) rest
    else findInterval ps found rest

/-- The interval that the request asks for, if it does (specification 4.1, the scan of all
directives). -/
def requested? (α : Type) [AxisValue α] [Requestable α] (s : Subsetting) :
    Except SubsetFault (Option (Interval α)) :=
  findInterval s.prefixes none s.directives

/-- The slice of a domain that the request gets. Without the dimension, the directives are not read
(specification 4.1, `extractTemporalSubset` and `extractElevationSubset`). -/
def resolve? [Std.TransOrd α] (s : Subsetting) :
    Option (Domain α) → Except SubsetFault (Option (Interval α))
  | none => .ok none
  | some domain => do
    match ← s.requested? α with
    | some i =>
      if i.isDegenerate then .ok (some (domain.snap i.low))
      else .error (.trimmed (Requestable.dimension α))
    | none => .ok (domain.highest?.map .slice)

/-- The values of the custom dimensions of a request, by name. -/
abbrev CustomValues := Std.ExtTreeMap String (List CustomValue)

/-- Reads the directives from the first on, given the values found before them. -/
def findCustom (ps : AxisPrefixes) (known : List String) (found : CustomValues) :
    List Directive → Except SubsetFault CustomValues
  | [] => .ok found
  | d :: rest => do
    let name ← axisName ps d
    if known.contains name then
      match d with
      | .slice _ point => findCustom ps known (found.insert name [.ofLiteral point]) rest
      | .trim _ _ _ => .error (.trimmedCustom name d)
    else findCustom ps known found rest

/-- The values that the request asks for on the known custom dimensions; the last slice of a name
counts. With no such dimension, the directives are not read (specification 4.1,
`extractCustomDimensionsSubset`). -/
def customValues (s : Subsetting) (known : List String) : Except SubsetFault CustomValues :=
  if known.isEmpty then .ok ∅ else findCustom s.prefixes known ∅ s.directives

end Subsetting

end CoverageSubset

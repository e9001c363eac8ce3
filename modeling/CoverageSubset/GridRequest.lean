import CoverageSubset.GranuleQuery
import CoverageSubset.Subsetting

/-!
# Resolved requests

What is asked of a coverage once the directives are resolved: an interval in time and in elevation,
the values of custom dimensions, and an envelope. The granule filter of a request holds the
conditions on elevation, time and space, in that order; a dimension contributes only if it has both
an interval and a source.
-/

namespace CoverageSubset

/-- What is asked of a coverage (specification 12.4, `GridCoverageRequest`). -/
structure GridRequest where
  temporal : Option (Interval Instant)
  elevation : Option (Interval Double)
  custom : Subsetting.CustomValues
  spatial : Option Envelope

namespace GridRequest

/-- The request that asks for nothing in particular. -/
def unspecified : GridRequest := ⟨none, none, ∅, none⟩

/-- Resolves directives against the domains of a coverage. -/
def resolve (s : Subsetting) (times : Option TimeDomain) (elevations : Option ElevationDomain)
    (customNames : List String) : Except SubsetFault GridRequest := do
  let temporal ← s.resolve? times
  let elevation ← s.resolve? elevations
  let custom ← s.customValues customNames
  .ok ⟨temporal, elevation, custom, none⟩

/-- The request with another envelope. -/
def withSpatial (r : GridRequest) (e : Envelope) : GridRequest := { r with spatial := some e }

/-- The condition of one dimension. -/
def dimensionFilter {α : Type} [AttributeKind α] (i : Option (Interval α))
    (s : Option DimensionSource) :
    List GranuleFilter :=
  match i, s with
  | some i, some s => [.inInterval s i]
  | _, _ => []

/-- The condition on the records that the request is about (specification 12.4, the combined granule
filter). -/
def granuleFilter (r : GridRequest) (time elevation : Option DimensionSource) : GranuleFilter :=
  .conjunction (dimensionFilter r.elevation elevation ++ dimensionFilter r.temporal time ++
    (r.spatial.map GranuleFilter.within).toList)

end GridRequest

end CoverageSubset

import CoverageSubset.Catalogue.Basic
import CoverageSubset.Defaults

/-!
# Resolution of a request against a coverage

The domains of a coverage come from its granules, through the sources of its enabled dimensions. The
directives are resolved against them, the envelope is taken as it is, and then the values that the
output format needs are filled in: from the granules of a structured coverage, from the domains of
any other.
-/

namespace CoverageSubset

/-- Why a request cannot be resolved against a coverage. -/
inductive ResolutionFault where
  | badSubset (fault : SubsetFault)
  /-- Default values are needed and not filled in. -/
  | noDefaults (fault : DefaultsFault)
deriving DecidableEq

/-- The fault as the service reports it, if it does. -/
def ResolutionFault.toFault? : ResolutionFault → Option Fault
  | badSubset fault => some fault.toFault
  | noDefaults fault => fault.toFault?

namespace Coverage

/-- The times that the coverage offers. -/
def times? (c : Coverage) (gs : List Granule) : Option TimeDomain := c.time?.map fun s ↦ s.domain gs

/-- The elevations that the coverage offers. -/
def elevations? (c : Coverage) (gs : List Granule) : Option ElevationDomain :=
  c.elevation?.map fun s ↦ s.domain gs

/-- What gives the default values of the coverage. -/
def reader (c : Coverage) (store : GranuleStore) : Reader :=
  if c.isStructured then .structured c.sources store
  else .standard (c.times? store.granules) (c.elevations? store.granules)

/-- Resolves a request: its directives, its envelope and the output format (specification 12.7, from
the subsets to the request). -/
def resolve (c : Coverage) (store : GranuleStore) (s : Subsetting) (envelope : Option Envelope)
    (format : Option String) : Except ResolutionFault GridRequest := do
  let times := c.times? store.granules
  let elevations := c.elevations? store.granules
  let r ← (GridRequest.resolve s times elevations c.customNames).mapError .badSubset
  let r := envelope.elim r r.withSpatial
  let outcome := (c.reader store).fill format r
  match outcome.fault with
  | some f => .error (.noDefaults f)
  | none => .ok outcome.request

end Coverage

end CoverageSubset

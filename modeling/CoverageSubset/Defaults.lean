import CoverageSubset.GridRequest

/-!
# Default values

A flat output format needs one time and one elevation, so what a request leaves open is filled in. A
reader that only knows its domains gives the greatest offered value. A reader over records gives the
values of the record that matches the request and comes first when the latest times, then the
greatest elevations, are sorted to the front. Nothing is filled in without a format or for the one
that carries every dimension.

A record that holds no usable value in a needed attribute is a fault. Time is filled in before
elevation, so a fault in elevation leaves the time that was filled in. Records that cannot be sorted
stop the program before anything is filled in.
-/

namespace CoverageSubset

/-- What a coverage's reader knows of its dimensions. -/
inductive Reader where
  /-- Only the domains. -/
  | standard (times : Option TimeDomain) (elevations : Option ElevationDomain)
  /-- Records and the sources of their dimensions. -/
  | structured (sources : List DimensionSource) (store : GranuleStore)

/-- A record that holds no usable value in an attribute of a dimension. -/
structure UnusableAttribute where
  granule : String
  dimension : String
  source : String
deriving DecidableEq

/-- The fault as the service reports it. -/
def UnusableAttribute.toFault (u : UnusableAttribute) : Fault :=
  .internal ("Granule " ++ u.granule ++ " has no usable " ++ u.dimension ++
    " value in attribute " ++ u.source)

/-- Why default values are not filled in. -/
inductive DefaultsFault where
  | unusable (value : UnusableAttribute)
  /-- The records that match could not be sorted. This stops the program and is not reported. -/
  | unsorted
deriving DecidableEq

/-- The fault as the service reports it, if it does. -/
def DefaultsFault.toFault? : DefaultsFault → Option Fault
  | unusable value => some value.toFault
  | unsorted => none

/-- The format that carries every dimension. -/
def fullFormat : String := "NETCDFOutputFormat"

/-- The output format needs one time and one elevation (specification 12.4, `set_defaults`). -/
def needsDefaults : Option String → Bool
  | none => false
  | some format => Text.lowercaseAscii format != Text.lowercaseAscii fullFormat

namespace DimensionSource

variable {α : Type} [AttributeKind α]

/-- The value of a record in an attribute of the dimension. -/
def read (s : DimensionSource) (g : Granule) (name : String) : Except UnusableAttribute α :=
  match g.value? name with
  | some v => .ok v
  | none => .error ⟨g.id, s.name, name⟩

/-- What a record covers along the dimension. Its ends are taken as they are stored (specification
12.4, the attributes of the first granule). -/
def cover (s : DimensionSource) (g : Granule) : Except UnusableAttribute (Interval α) := do
  let low ← s.read g s.start
  match s.stop with
  | none => .ok ⟨low, low⟩
  | some stop => do
    let high ← s.read g stop
    .ok ⟨low, high⟩

end DimensionSource

/-- The request after default values were asked for, and the fault if there was one. -/
structure DefaultsOutcome where
  request : GridRequest
  fault : Option DefaultsFault

namespace GridRequest

/-- Fills in the greatest offered values (specification 12.4, standard readers). -/
def fillFromDomains (r : GridRequest) (times : Option TimeDomain)
    (elevations : Option ElevationDomain) :
    GridRequest :=
  { r with
    temporal := r.temporal.or ((times.bind Domain.highest?).map .slice)
    elevation := r.elevation.or ((elevations.bind Domain.highest?).map .slice) }

/-- The query for the record whose values are taken (specification 12.4, descending by time, then
elevation). -/
def latestQuery (r : GridRequest) (time elevation : Option DimensionSource) : GranuleQuery where
  filter := r.granuleFilter time elevation
  keys := (time.toList ++ elevation.toList).map fun s ↦ ⟨s.start, .descending⟩
  most := some 1

/-- The interval of a dimension: the given one, or what a record covers if the dimension has a
source. -/
def fillFrom {α : Type} [AttributeKind α] (g : Granule) (s : Option DimensionSource) :
    Option (Interval α) → Except UnusableAttribute (Option (Interval α))
  | some i => .ok (some i)
  | none =>
    match s with
    | some s => (s.cover g).map some
    | none => .ok none

/-- Fills in the values of a record, time first. -/
def fillFromGranule (r : GridRequest) (g : Granule) (time elevation : Option DimensionSource) :
    DefaultsOutcome :=
  match fillFrom g time r.temporal with
  | .error u => ⟨r, some (.unusable u)⟩
  | .ok temporal =>
    let timed : GridRequest := { r with temporal := temporal }
    match fillFrom g elevation r.elevation with
    | .error u => ⟨timed, some (.unusable u)⟩
    | .ok filled => ⟨{ timed with elevation := filled }, none⟩

/-- Fills in the values of the latest record that matches (specification 12.4, structured
readers). -/
def fillFromStore (r : GridRequest) (sources : List DimensionSource) (store : GranuleStore) :
    DefaultsOutcome :=
  let time := sources.find? DimensionSource.isTime
  let elevation := sources.find? DimensionSource.isElevation
  let timeNeeded := r.temporal.isNone && time.isSome
  let elevationNeeded := r.elevation.isNone && elevation.isSome
  if !timeNeeded && !elevationNeeded then ⟨r, none⟩
  else
    match store.select (r.latestQuery time elevation) with
    | none => ⟨r, some .unsorted⟩
    | some [] => ⟨r, none⟩
    | some (g :: _) => r.fillFromGranule g time elevation

end GridRequest

namespace Reader

/-- The request with defaults for an output format (specification 12.4, `set_defaults`). -/
def fill (reader : Reader) (format : Option String) (r : GridRequest) : DefaultsOutcome :=
  if !needsDefaults format then ⟨r, none⟩
  else
    match reader with
    | standard times elevations => ⟨r.fillFromDomains times elevations, none⟩
    | structured sources store => r.fillFromStore sources store

variable {reader : Reader} {format : Option String} {r : GridRequest}

/-- Where no defaults are needed, a request stays as it is. -/
theorem fill_of_not_needed (h : needsDefaults format = false) :
    reader.fill format r = ⟨r, none⟩ := by
  simp [fill, h]

/-- Where defaults are needed, domains give their greatest values. -/
theorem fill_standard (h : needsDefaults format = true) (times : Option TimeDomain)
    (elevations : Option ElevationDomain) (r : GridRequest) :
    (standard times elevations).fill format r = ⟨r.fillFromDomains times elevations, none⟩ := by
  simp [fill, h]

/-- Where defaults are needed, records are searched for. -/
theorem fill_structured (h : needsDefaults format = true) (sources : List DimensionSource)
    (store : GranuleStore) (r : GridRequest) :
    (structured sources store).fill format r = r.fillFromStore sources store := by
  simp [fill, h]

end Reader

end CoverageSubset

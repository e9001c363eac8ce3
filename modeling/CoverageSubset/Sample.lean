import CoverageSubset.Document.Values
import CoverageSubset.Granule
import CoverageSubset.Instant.Civil

/-!
# Sample data

Days, levels and grids of records to try the service on, and a sample catalogue. A grid has a record
for each time and level, or for each time alone if there are no levels; its identifiers end in the
places of the time and the level.
-/

namespace CoverageSubset

/-- Why there is no sample. -/
inductive SampleFault where
  /-- Numbers that are no date. -/
  | invalidDate (year : Int) (month day : Nat)
  /-- A day after the last one. -/
  | afterLastDay
deriving DecidableEq

/-- The text of a fault. -/
def SampleFault.message : SampleFault → String
  | invalidDate year month day =>
    "invalid fixture date " ++ String.ofList (Text.signed year) ++ "-" ++
      String.ofList (Text.decimal month) ++ "-" ++
      String.ofList (Text.decimal day)
  | afterLastDay => "`DateTime + TimeDelta` overflowed"

namespace Sample

/-- Midnight of a date. -/
def midnight (year : Int) (month day : Nat) : Except SampleFault Instant :=
  match (CivilTime.midnight ⟨year, month, day⟩).toInstant? with
  | some t => .ok t
  | none => .error (.invalidDate year month day)

/-- The instant some days later. -/
def daysAfter (t : Instant) (days : Nat) : Except SampleFault Instant :=
  match Instant.make? (t.day + days) t.second t.nano with
  | some t => .ok t
  | none => .error .afterLastDay

/-- Instants one day apart. -/
def daily (first : Instant) (count : Nat) : Except SampleFault (List Instant) :=
  (List.range count).mapM (daysAfter first)

/-- Levels one step apart. -/
def levels (first step : Double) (count : Nat) : List Double :=
  (List.range count).map fun (i : Nat) ↦ first + step * Double.ofInt i

/-- An identifier with the place of a value in its list. -/
def placed (id : String) (place : Nat) : String := id ++ "." ++ String.ofList (Text.decimal place)

/-- The document form of a record with some attributes, of which the last of a name counts. -/
def gridRecord (id : String) (footprint : Envelope) (attributes : List (String × Document)) :
    Document :=
  let fields :=
    attributes.foldl (fun (map : Std.ExtTreeMap String Document) (name, d) ↦ map.insert name d) ∅
  .object [("id", .text id), ("footprint", footprint.toDocument),
    ("attributes", .object fields.toList)]

/-- The document form of a grid of records (specification 11.4, the shared fixtures). -/
def grid (id : String) (times : List Instant) (timeAttribute : String) (levels : List Double)
    (levelAttribute : String) (footprint : Envelope) : Document :=
  .list (times.zipIdx.flatMap fun (t, place) ↦
    let time : String × Document := (timeAttribute, .text t.withOffset)
    let timeId := placed id place
    if levels.isEmpty then [gridRecord timeId footprint [time]]
    else
      levels.zipIdx.map fun (z, place) ↦
        gridRecord (placed timeId place) footprint [time, (levelAttribute, .real z)])

/-- The last of the days in January. -/
def latest : Except SampleFault Instant := midnight 2020 1 10

/-- Some days in January. -/
def january : Except SampleFault (List Instant) := [1, 5, 10].mapM (midnight 2020 1)

/-- A catalogue of a series, a coverage that is no series and one without dimensions. -/
def catalogueText : String := "
count_default: 10
coverages:
  - name: sst
    workspace: eo
    dataset: true
    structured: true
    dimensions:
      time:
        start_attribute: ingestion
      elevation:
        start_attribute: depth
      custom:
        - name: SENSOR
          start_attribute: sensor
  - name: chl
    workspace: eo
    structured: true
    dimensions:
      time:
        start_attribute: ingestion
  - name: dem
"

end Sample

end CoverageSubset

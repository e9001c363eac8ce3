import CoverageSubset.Double.Round
import CoverageSubset.Instant.Basic

/-!
# Values on an axis

The kinds of value that a dimension can have: a total order, and a distance from one value to a
later one. Instants are apart by whole milliseconds, numbers by their rounded difference. Two
distances are compared only to tell which of two neighbours is strictly nearer; where a difference
is not a number, neither is.

The normal form of a subset of one dimension is a closed interval. A slice is an interval whose ends
are the same.
-/

namespace CoverageSubset

/-- A kind of value that can stand on an axis (specification 12.1, `Scalar`). -/
class AxisValue (α : Type) extends Ord α where
  /-- What lies between two values. -/
  Distance : Type
  /-- The distance to a value from an earlier one. -/
  since : α → α → Distance
  /-- The first distance is strictly shorter. -/
  shorter : Distance → Distance → Bool

instance : AxisValue Instant where
  Distance := Int
  since := Instant.millisSince
  shorter a b := decide (a < b)

instance : AxisValue Double where
  Distance := Double
  since a b := a - b
  shorter := Double.lt

namespace AxisValue

variable {α : Type} [AxisValue α]

/-- The first value is at most the second. -/
def atMost (a b : α) : Bool := (compare a b).isLE

/-- A greatest value of a list. -/
def greatest? : List α → Option α
  | [] => none
  | v :: vs => some (vs.foldl (fun m v ↦ if (compare m v).isGT then m else v) v)

end AxisValue

/-! ### Intervals -/

/-- A closed interval of an axis (specification 12.1, `ResolvedInterval`). -/
structure Interval (α : Type) where
  low : α
  high : α
deriving DecidableEq

namespace Interval

variable {α : Type}

/-- The interval that holds one value. -/
def slice (v : α) : Interval α := ⟨v, v⟩

/-- The ends are the same. -/
def isDegenerate [AxisValue α] (i : Interval α) : Bool := compare i.low i.high == .eq

end Interval

end CoverageSubset

import CoverageSubset.Granule

/-!
# Filters on granules

Conditions on the attributes and the footprint of a record. A condition on an attribute that is
missing, or that is of another kind than the bound, does not hold. A conjunction keeps no condition
that always holds, and has no shell around a single condition.
-/

namespace CoverageSubset

/-- A condition on records (specification 12.5, `GranuleFilter`). -/
inductive GranuleFilter where
  /-- Every record. -/
  | all
  /-- The attribute lies between two bounds, both included. -/
  | between (name : String) (low high : Attribute)
  /-- The attribute is at least the bound. -/
  | atLeast (name : String) (bound : Attribute)
  /-- The attribute is at most the bound. -/
  | atMost (name : String) (bound : Attribute)
  /-- The footprint lies in the envelope. -/
  | within (envelope : Envelope)
  /-- All of some conditions. -/
  | conj (filters : List GranuleFilter)

namespace GranuleFilter

/-- The condition that always holds. -/
def isAll : GranuleFilter → Bool
  | all => true
  | _ => false

/-- All of some conditions, in the simplest form. -/
def conjunction (filters : List GranuleFilter) : GranuleFilter :=
  match filters.filter fun f ↦ !f.isAll with
  | [] => all
  | [f] => f
  | fs => conj fs

/-- What the source offers lies between two bounds (specification 12.5, the dimension filter
rules). -/
def dimension (s : DimensionSource) (low high : Attribute) : GranuleFilter :=
  match s.stop with
  | none => between s.start low high
  | some stop => conj [atLeast s.start low, atMost stop high]

/-- What the source offers lies in an interval. -/
def inInterval {α : Type} [AttributeKind α] (s : DimensionSource) (i : Interval α) :
    GranuleFilter :=
  dimension s (AttributeKind.toAttribute i.low) (AttributeKind.toAttribute i.high)

mutual

/-- The record meets the condition (specification 12.5, `evaluate`). -/
def matchesGranule (f : GranuleFilter) (g : Granule) : Bool :=
  match f with
  | all => true
  | between name low high => (g.attribute? name).any fun a ↦ low.atMost a && a.atMost high
  | atLeast name bound => (g.attribute? name).any fun a ↦ bound.atMost a
  | atMost name bound => (g.attribute? name).any fun a ↦ a.atMost bound
  | within envelope => g.footprint.any envelope.contains
  | conj filters => matchesEach filters g

/-- The record meets each of some conditions. -/
def matchesEach (filters : List GranuleFilter) (g : Granule) : Bool :=
  match filters with
  | [] => true
  | f :: fs => f.matchesGranule g && matchesEach fs g

end

/-- A record meets some conditions if it meets all of them. -/
theorem matchesEach_eq_all (fs : List GranuleFilter) (g : Granule) :
    matchesEach fs g = fs.all fun f ↦ f.matchesGranule g := by
  induction fs with
  | nil => rfl
  | cons f fs ih => rw [matchesEach, ih, List.all_cons]

end GranuleFilter

end CoverageSubset

import CoverageSubset.Domain.Basic
import CoverageSubset.Envelope
import CoverageSubset.Text.Lowercase
import Std.Data.ExtTreeMap

/-!
# Granules

The records of a structured coverage: an identifier, perhaps a footprint, and attributes by name. A
dimension source names the attributes that hold the values of a dimension, either one attribute or
the two ends of a span. From the records of a coverage it makes the domain of that dimension:
records without a usable start add nothing, and a record without a usable end adds its start alone.
-/

namespace CoverageSubset

/-- The value of an attribute. -/
inductive Attribute where
  | time (t : Instant)
  | number (x : Double)
  | text (s : String)
deriving DecidableEq

namespace Attribute

/-- The time, if it is one. -/
def time? : Attribute → Option Instant
  | time t => some t
  | _ => none

/-- The number, if it is one. -/
def number? : Attribute → Option Double
  | number x => some x
  | _ => none

/-- The order of two values of one kind; values of different kinds have none. -/
def compare? : Attribute → Attribute → Option Ordering
  | time a, time b => some (compare a b)
  | number a, number b => some (compare a b)
  | text a, text b => some (compare a b)
  | _, _ => none

/-- The first value is at most the second, and of its kind. -/
def atMost (a b : Attribute) : Bool :=
  match a.compare? b with
  | some o => o.isLE
  | none => false

end Attribute

/-- A kind of attribute that can hold the values of a dimension. -/
class AttributeKind (α : Type) where
  /-- The value of an attribute of this kind. -/
  ofAttribute? : Attribute → Option α
  /-- The attribute that holds a value. -/
  toAttribute : α → Attribute

instance : AttributeKind Instant := ⟨Attribute.time?, .time⟩
instance : AttributeKind Double := ⟨Attribute.number?, .number⟩

/-- A record of a structured coverage. -/
structure Granule where
  id : String
  footprint : Option Envelope
  attributes : Std.ExtTreeMap String Attribute

/-- The attributes that hold the values of a dimension (specification 11.3, the dimension
descriptors). -/
structure DimensionSource where
  /-- The name of the dimension. -/
  name : String
  /-- The attribute of its value, or of the low end of its span. -/
  start : String
  /-- The attribute of the high end of its span. -/
  stop : Option String
deriving DecidableEq

namespace Granule

/-- A record without footprint and attributes. -/
def ofId (id : String) : Granule := ⟨id, none, ∅⟩

/-- The record with another footprint. -/
def withFootprint (g : Granule) (e : Envelope) : Granule := { g with footprint := some e }

/-- The record with an attribute set. -/
def withAttribute (g : Granule) (name : String) (a : Attribute) : Granule :=
  { g with attributes := g.attributes.insert name a }

/-- The attribute of a name. -/
def attribute? (g : Granule) (name : String) : Option Attribute := g.attributes[name]?

/-- The value of a kind in the attribute of a name. -/
def value? {α : Type} [AttributeKind α] (g : Granule) (name : String) : Option α :=
  (g.attribute? name).bind AttributeKind.ofAttribute?

/-- The attribute of a name is the one that was set last for it. -/
theorem attribute?_withAttribute (g : Granule) (name : String) (a : Attribute) (n : String) :
    (g.withAttribute name a).attribute? n = if name = n then some a else g.attribute? n := by
  rw [withAttribute, attribute?, attribute?, Std.ExtTreeMap.getElem?_insert]
  simp only [Std.compare_eq_iff_eq]

/-- The value of a name is read from the attribute that was set last for it. -/
theorem value?_withAttribute {α : Type} [AttributeKind α] (g : Granule) (name : String)
    (a : Attribute) (n : String) :
    (g.withAttribute name a).value? n =
      if name = n then (AttributeKind.ofAttribute? a : Option α) else g.value? n := by
  rw [value?, attribute?_withAttribute]
  split <;> rfl

end Granule

namespace DimensionSource

/-- A source without an attribute for the high end. -/
def single (name start : String) : DimensionSource := ⟨name, start, none⟩

/-- The source with an attribute for the high end. -/
def withStop (s : DimensionSource) (stop : String) : DimensionSource := { s with stop := some stop }

/-- The dimension is time, by its name in any ASCII case. -/
def isTime (s : DimensionSource) : Bool := Text.lowercaseAscii s.name == "time"

/-- The dimension is elevation, by its name in any ASCII case. -/
def isElevation (s : DimensionSource) : Bool := Text.lowercaseAscii s.name == "elevation"

variable {α : Type} [AxisValue α] [AttributeKind α]

/-- What one record offers along the dimension. -/
def entry? (s : DimensionSource) (g : Granule) : Option (DomainEntry α) :=
  (g.value? s.start).map fun (low : α) ↦
    match s.stop.bind fun stop ↦ g.value? stop with
    | some high => .between low high
    | none => .point low

/-- What some records offer along the dimension (specification 12.1, `from_granules`). -/
def domain [Std.TransOrd α] (s : DimensionSource) (gs : List Granule) : Domain α :=
  .ofList (gs.filterMap s.entry?)

end DimensionSource

end CoverageSubset

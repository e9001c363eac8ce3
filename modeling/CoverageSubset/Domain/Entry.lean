import CoverageSubset.AxisValue

/-!
# Entries of a domain

What a coverage offers along a dimension comes as single points and closed spans. Entries are
ordered by their low end, then their high end, and a point comes before the span of the same ends. A
span may have been written with its ends the wrong way round; it then contains nothing, but still
has a low and a high end.
-/

namespace CoverageSubset

/-- One entry of a domain (specification 12.1, `DomainValue`). -/
inductive DomainEntry (α : Type) where
  /-- A single value. -/
  | point (value : α)
  /-- All values from a low to a high end, both included. -/
  | span (low high : α)
deriving DecidableEq

namespace DomainEntry

variable {α : Type}

/-- The low end. -/
def low : DomainEntry α → α
  | point v => v
  | span a _ => a

/-- The high end. -/
def high : DomainEntry α → α
  | point v => v
  | span _ b => b

/-- The entry is a span. -/
def isSpan : DomainEntry α → Bool
  | point _ => false
  | span _ _ => true

/-- Entries are equal if their ends and kinds are. -/
theorem ext_iff {a b : DomainEntry α} :
    a = b ↔ a.low = b.low ∧ a.high = b.high ∧ a.isSpan = b.isSpan := by
  cases a <;> cases b <;> simp [low, high, isSpan]

/-- The ends: one for a point, two for a span. -/
def ends : DomainEntry α → List α
  | point v => [v]
  | span a b => [a, b]

variable [AxisValue α]

/-- The span between two values, whichever is lower. -/
def between (a b : α) : DomainEntry α := if (compare a b).isGT then span b a else span a b

/-- A value equals the point or lies in the span (specification 4.1, containment). -/
def contains (e : DomainEntry α) (v : α) : Bool :=
  match e with
  | point w => compare w v == .eq
  | span a b => AxisValue.atMost a v && AxisValue.atMost v b

instance : Ord (DomainEntry α) :=
  ⟨compareLex (compareOn low) (compareLex (compareOn high) (compareOn isSpan))⟩

theorem compare_def (a b : DomainEntry α) :
    compare a b = (compare a.low b.low).then
      ((compare a.high b.high).then (compare a.isSpan b.isSpan)) := rfl

variable [Std.TransOrd α]

instance : Std.TransOrd (DomainEntry α) :=
  inferInstanceAs (Std.TransCmp (compareLex (compareOn low)
    (compareLex (compareOn high) (compareOn isSpan))))

instance [Std.LawfulEqOrd α] : Std.LawfulEqOrd (DomainEntry α) where
  compare_self := Std.ReflCmp.compare_self
  eq_of_compare {a b} h := by
    rw [compare_def] at h
    simp only [Ordering.then_eq_eq, Std.LawfulEqCmp.compare_eq_iff_eq] at h
    exact ext_iff.2 h

end DomainEntry

end CoverageSubset

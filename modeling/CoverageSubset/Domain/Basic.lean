import CoverageSubset.Domain.Entry
import Std.Data.ExtTreeSet

/-!
# Domains

The values a coverage offers along one dimension: a finite set of entries, kept in order and without
repetition, so that two collections of the same entries are the same domain. The boundaries of a
domain are the ends of its entries, again in order and without repetition.

A value that a domain offers is kept. Any other value moves to a boundary: to the last boundary
below it or the first above it, whichever is strictly nearer, and to the lower of the two if neither
is. Before the first and after the last boundary there is no choice, and an empty domain has nothing
to offer.
-/

namespace CoverageSubset

/-- The entries that a coverage offers along a dimension (specification 12.1, `Domain`). -/
structure Domain (α : Type) [AxisValue α] where
  set : Std.ExtTreeSet (DomainEntry α)

/-- What a coverage offers in time. -/
abbrev TimeDomain := Domain Instant

/-- What a coverage offers in elevation. -/
abbrev ElevationDomain := Domain Double

namespace Domain

variable {α : Type} [AxisValue α] [Std.TransOrd α]

/-- The domain of some entries. -/
def ofList (entries : List (DomainEntry α)) : Domain α := ⟨Std.ExtTreeSet.ofList entries⟩

/-- The domain of single values. -/
def ofPoints (values : List α) : Domain α := ofList (values.map .point)

/-- The domain that offers nothing. -/
def empty : Domain α := ofList []

/-- The entries in order. -/
def entries (d : Domain α) : List (DomainEntry α) := d.set.toList

/-- The number of entries. -/
def size (d : Domain α) : Nat := d.entries.length

/-- The domain offers nothing. -/
def isEmpty (d : Domain α) : Bool := d.entries.isEmpty

/-- The ends of all entries in order, each once (specification 12.1, `flatten`). -/
def boundaries (d : Domain α) : List α :=
  (Std.ExtTreeSet.ofList (d.entries.flatMap DomainEntry.ends)).toList

/-- Some entry contains the value (specification 12.1, `contains_point`). -/
def offers (d : Domain α) (v : α) : Bool := d.entries.any (·.contains v)

/-- The low end of the first entry (specification 12.1, `min_value`). -/
def lowest? (d : Domain α) : Option α := d.entries.head?.map DomainEntry.low

/-- The greatest high end (specification 12.1, `max_value`). -/
def highest? (d : Domain α) : Option α := AxisValue.greatest? (d.entries.map DomainEntry.high)

/-! ### The nearest offered value -/

/-- Of the neighbours below and above a value, the one to take (specification 4.1, ties go to the
preceding point). -/
def nearer? (v : α) : Option α → Option α → Option α
  | none, above => above
  | some below, none => some below
  | some below, some above =>
    if AxisValue.shorter (AxisValue.since above v) (AxisValue.since v below) then some above
      else some below

/-- The offered value nearest to a value (specification 4.1 and 12.1, `nearest`). -/
def nearest? (d : Domain α) (v : α) : Option α :=
  if d.offers v then some v
  else
    let (below, above) := d.boundaries.span fun b ↦ AxisValue.atMost b v
    nearer? v below.getLast? above.head?

/-- The slice at the offered value nearest to a value, or at the value itself if nothing is offered
(specification 12.1, `snap`). -/
def snap (d : Domain α) (v : α) : Interval α := .slice ((d.nearest? v).getD v)

/-! ### Sets of entries -/

/-- The entries are strictly increasing. -/
theorem pairwise_entries (d : Domain α) : d.entries.Pairwise fun a b ↦ compare a b = .lt :=
  Std.ExtTreeSet.ordered_toList

/-- The boundaries are strictly increasing. -/
theorem pairwise_boundaries (d : Domain α) : d.boundaries.Pairwise fun a b ↦ compare a b = .lt :=
  Std.ExtTreeSet.ordered_toList

variable [Std.LawfulEqOrd α]

/-- The entries are those that were given. -/
theorem mem_entries_ofList [DecidableEq α] {es : List (DomainEntry α)} {e : DomainEntry α} :
    e ∈ (ofList es).entries ↔ e ∈ es := by
  rw [entries, ofList, Std.ExtTreeSet.mem_toList, Std.ExtTreeSet.mem_ofList, List.contains_iff_mem]

/-- Domains of the same entries are equal. -/
theorem ext {d d' : Domain α} (h : ∀ e, e ∈ d.entries ↔ e ∈ d'.entries) : d = d' := by
  cases d
  cases d'
  congr 1
  exact Std.ExtTreeSet.ext_mem fun e ↦ by simpa [entries, Std.ExtTreeSet.mem_toList] using h e

end Domain

end CoverageSubset

import CoverageSubset.Granule

/-!
# Limits on listed granules

A description lists at most so many granules over all coverages. Coverages are listed in order, each
taking its whole size from what is left. The one that uses it up is the last, and lists no more than
was left for it; so a coverage is listed even if nothing is left, as long as it is the first.
-/

namespace CoverageSubset

/-- The granules that a description lists for one coverage, with their identifiers. -/
structure CoverageGranules where
  seriesId : String
  granuleIds : List String
  granules : List Granule

namespace CoverageGranules

/-- How many granules are listed. -/
def size (l : CoverageGranules) : Nat := l.granules.length

/-- How many granules are listed for some coverages. -/
def total : List CoverageGranules → Nat
  | [] => 0
  | l :: rest => l.size + total rest

/-- The first so many granules. -/
def take (l : CoverageGranules) (n : Nat) : CoverageGranules :=
  { l with granuleIds := l.granuleIds.take n, granules := l.granules.take n }

/-- The granules as far as a budget goes. -/
def cut (l : CoverageGranules) (budget : Int) : CoverageGranules :=
  if budget < l.size then l.take budget.toNat else l

/-- Lists coverages until a budget is used up (specification 12.6, the truncation rule). -/
def spend (budget : Int) : List CoverageGranules → List CoverageGranules
  | [] => []
  | l :: rest => l.cut budget :: if budget - l.size ≤ 0 then [] else spend (budget - l.size) rest

/-- Lists coverages within a limit, if there is one. -/
def limit : Option Nat → List CoverageGranules → List CoverageGranules
  | none, ls => ls
  | some most, ls => spend most ls

end CoverageGranules

/-- The limit of a description: the count of the request, unless it is zero, or else the default
(specification 12.6, `max_coverages`). -/
def listingLimit (count : Nat) (defaultCount : Option Nat) : Option Nat :=
  if 0 < count then some count else defaultCount

end CoverageSubset

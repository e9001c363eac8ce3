import CoverageSubset.GranuleFilter
import CoverageSubset.Sorting

/-!
# Queries on granules

A query selects the records that meet a filter, sorts them by some attributes and takes the first
few (specification, section 12.5). For each sort key, records without the attribute come last,
whether the key ascends or descends. Values of different kinds are held to be equal, so they need
not be in any order: two values that one of another kind ties with may be different. Then the order
of the records is open, and sorting may give up.
-/

namespace CoverageSubset

/-- The direction of a sort key. -/
inductive SortOrder where
  | ascending
  | descending
deriving DecidableEq

/-- An attribute to sort by (specification 12.5, `SortBy`). -/
structure SortKey where
  name : String
  order : SortOrder
deriving DecidableEq

/-- A selection of records (specification 12.5, `GranuleQuery`). -/
structure GranuleQuery where
  filter : GranuleFilter
  keys : List SortKey
  most : Option Nat

/-- The records of one coverage, in the order in which they are stored (specification 12.5,
`InMemoryGranuleSource`). -/
structure GranuleStore where
  granules : List Granule
  /-- The sort that queries use. -/
  sorter : Sorter Granule

namespace SortKey

/-- The order of two values under a key. -/
def compareValues (k : SortKey) (a b : Attribute) : Ordering :=
  let o := (a.compare? b).getD .eq
  match k.order with
  | .ascending => o
  | .descending => o.swap

/-- The order of two records under a key. -/
def compareGranules (k : SortKey) (g h : Granule) : Ordering :=
  match g.attribute? k.name, h.attribute? k.name with
  | some a, some b => k.compareValues a b
  | some _, none => .lt
  | none, some _ => .gt
  | none, none => .eq

/-- The order of two records under several keys, the first first. -/
def compareAll (keys : List SortKey) (g h : Granule) : Ordering :=
  keys.foldr (fun k o ↦ (k.compareGranules g h).then o) .eq

end SortKey

namespace GranuleStore

/-- Records that are sorted by the sort of the program. -/
def ofList (gs : List Granule) : GranuleStore := ⟨gs, .standard⟩

/-- The records that meet a filter, in the order of the store. -/
def found (s : GranuleStore) (f : GranuleFilter) : List Granule :=
  s.granules.filter f.matchesGranule

/-- The records that a query selects, unless sorting them gives up. Without keys nothing is sorted
(specification 12.5, filter, stable multi-key sort, limit). -/
def select (s : GranuleStore) (q : GranuleQuery) : Option (List Granule) :=
  let found := s.found q.filter
  let sorted :=
    if q.keys.isEmpty then some found else s.sorter.sort (SortKey.compareAll q.keys) found
  sorted.map fun gs ↦ q.most.elim gs gs.take

/-- How many records a query selects. -/
def count (s : GranuleStore) (q : GranuleQuery) : Option Nat := (s.select q).map List.length

end GranuleStore

/-- The query for every record in the order of the store. -/
def GranuleQuery.all : GranuleQuery := ⟨.all, [], none⟩

/-- The query for the records that meet a filter. -/
def GranuleQuery.ofFilter (f : GranuleFilter) : GranuleQuery := ⟨f, [], none⟩

end CoverageSubset

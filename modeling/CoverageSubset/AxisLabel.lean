import CoverageSubset.Text.Ends
import CoverageSubset.Text.Lowercase

/-!
# Axis labels

A request names an axis by a plain label or by a URI that ends in the label. The first known prefix
that a label starts with is stripped, once; what is left names the axis and must not be empty. The
built-in prefixes come first, then those a service adds, without the empty one and without
repetition.

A few axis names stand for time or elevation, in any case.
-/

namespace CoverageSubset

/-- The URI prefixes that are stripped from axis labels, in the order in which they are tried
(specification 12.2, `AxisLabelParser`). -/
structure AxisPrefixes where
  list : List String
deriving DecidableEq

namespace AxisPrefixes

/-- The prefixes of the standard axis definitions. -/
def builtin : List String :=
  ["http://www.opengis.net/def/axis/OGC/0/", "http://opengis.net/def/axis/OGC/0/",
    "http://opengis.net/def/crs/ISO/2004/"]

/-- Adds a prefix at the end, unless it is empty or already known. -/
def add (known : List String) (p : String) : List String :=
  if p = "" ∨ p ∈ known then known else known ++ [p]

/-- The built-in prefixes and then some others. -/
def withExtra (extra : List String) : AxisPrefixes := ⟨extra.foldl add builtin⟩

/-- The built-in prefixes alone. -/
def standard : AxisPrefixes := ⟨builtin⟩

/-- The label without the first prefix it starts with. -/
def strip (ps : AxisPrefixes) (label : String) : String :=
  (ps.list.findSome? fun p ↦ Text.afterStart? p label).getD label

/-- The name of the axis that a label denotes, if there is one (specification 12.2,
`parse_dimension_name`). -/
def name? (ps : AxisPrefixes) (label : String) : Option String :=
  if ps.strip label = "" then none else some (ps.strip label)

end AxisPrefixes

/-- The name is one of the aliases, which are in lower case. -/
def matchesAlias (name : String) (aliases : List String) : Bool :=
  aliases.contains (Text.lowercase name)

/-- The names of the time axis (specification 12.2, `TIME_NAMES`). -/
def timeAliases : List String := ["t", "time", "temporal", "phenomenontime"]

/-- The names of the elevation axis (specification 12.2, `ELEVATION_NAMES`). -/
def elevationAliases : List String := ["elevation"]

end CoverageSubset

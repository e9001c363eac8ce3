import CoverageSubset.Document.Values
import CoverageSubset.GranuleQuery

/-!
# Granules in documents

The document forms of records, of the sources of their dimensions, and of filters and queries on
them. An attribute is a bare value: a text that reads as a stored timestamp is a time, any other
text is itself.
-/

namespace CoverageSubset

namespace Attribute

/-- The document form of an attribute. -/
def toDocument : Attribute → Document
  | time t => .text t.zulu
  | number x => .real x
  | text s => .text s

/-- Reads an attribute. -/
def ofDocument? : Document → Option Attribute
  | .text s => some ((Instant.ofTimestamp? s).elim (text s) time)
  | d => d.number?.map number

end Attribute

namespace Granule

/-- The document form of a record. -/
def toDocument (g : Granule) : Document :=
  .object [("id", .text g.id), ("footprint", Document.ofOption Envelope.toDocument g.footprint),
    ("attributes", .object (g.attributes.toList.map fun (name, a) ↦ (name, a.toDocument)))]

/-- Reads a record. An attribute that is repeated has its last value. -/
def ofDocument? (d : Document) : Option Granule := do
  let [id, footprint, attributes] ← d.record? ["id", "footprint", "attributes"] | none
  let id ← Document.required Document.text? id
  let footprint ← Document.optional Envelope.ofDocument? footprint
  let attributes ← Document.defaulted [] (Document.fields? Attribute.ofDocument?) attributes
  some ⟨id, footprint, attributes.foldl (fun map (name, a) ↦ map.insert name a) ∅⟩

end Granule

namespace DimensionSource

/-- The document form of a dimension source. -/
def toDocument (s : DimensionSource) : Document :=
  .object [("name", .text s.name), ("start_attribute", .text s.start),
    ("end_attribute", Document.ofText? s.stop)]

/-- Reads a dimension source. -/
def ofDocument? (d : Document) : Option DimensionSource := do
  let [name, start, stop] ← d.record? ["name", "start_attribute", "end_attribute"] | none
  let name ← Document.required Document.text? name
  let start ← Document.required Document.text? start
  let stop ← Document.optional Document.text? stop
  some ⟨name, start, stop⟩

end DimensionSource

namespace GranuleFilter

mutual

/-- The document form of a filter. -/
def toDocument : GranuleFilter → Document
  | all => .text "include"
  | between name low high =>
    .object [("between",
      .object [("property", .text name), ("low", low.toDocument), ("high", high.toDocument)])]
  | atLeast name bound =>
    .object [("greater_or_equal", .object [("property", .text name), ("value", bound.toDocument)])]
  | atMost name bound => .object
    [("less_or_equal", .object [("property", .text name), ("value", bound.toDocument)])]
  | within envelope => .object [("within", envelope.toDocument)]
  | conj filters => .object [("and", .list (toDocuments filters))]

/-- The document forms of some filters. -/
def toDocuments : List GranuleFilter → List Document
  | [] => []
  | f :: fs => f.toDocument :: toDocuments fs

end

end GranuleFilter

/-- The name of a direction. -/
def SortOrder.name : SortOrder → String
  | ascending => "Ascending"
  | descending => "Descending"

/-- The document form of a sort key. -/
def SortKey.toDocument (k : SortKey) : Document :=
  .object [("property", .text k.name), ("order", .text k.order.name)]

/-- The document form of a query. -/
def GranuleQuery.toDocument (q : GranuleQuery) : Document :=
  .object [("filter", q.filter.toDocument), ("sort_by", .list (q.keys.map SortKey.toDocument)),
    ("max_features", Document.ofOption Document.ofNat q.most)]

end CoverageSubset

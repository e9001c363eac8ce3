import CoverageSubset.CustomValue
import CoverageSubset.Document.Record
import CoverageSubset.Domain.Basic
import CoverageSubset.Envelope
import CoverageSubset.Instant.Written

/-!
# Values in documents

The document forms of axis values, intervals, domains, envelopes and the values of custom
dimensions. Instants are texts, written in UTC and read as stored timestamps; numbers are numbers.
An entry of a domain is an object of one field, whose name tells a point from a span.
-/

namespace CoverageSubset

/-- A kind of axis value with a document form. -/
class AxisDocument (α : Type) where
  toDocument : α → Document
  ofDocument? : Document → Option α

instance : AxisDocument Instant where
  toDocument t := .text t.zulu
  ofDocument? d := d.text?.bind Instant.ofTimestamp?

instance : AxisDocument Double where
  toDocument := .real
  ofDocument? := Document.number?

namespace Interval

variable {α : Type} [AxisDocument α]

/-- The document form of an interval. -/
def toDocument (i : Interval α) : Document :=
  .object [("low", AxisDocument.toDocument i.low), ("high", AxisDocument.toDocument i.high)]

/-- Reads an interval. -/
def ofDocument? (d : Document) : Option (Interval α) := do
  let [low, high] ← d.record? ["low", "high"] | none
  let low ← Document.required AxisDocument.ofDocument? low
  let high ← Document.required AxisDocument.ofDocument? high
  some ⟨low, high⟩

end Interval

namespace DomainEntry

variable {α : Type} [AxisDocument α]

/-- The document form of an entry. -/
def toDocument : DomainEntry α → Document
  | point v => .object [("scalar", AxisDocument.toDocument v)]
  | span low high =>
    .object [("range",
      .object [("min", AxisDocument.toDocument low), ("max", AxisDocument.toDocument high)])]

/-- Reads an entry. -/
def ofDocument? (d : Document) : Option (DomainEntry α) :=
  match d.single? with
  | some ("scalar", d) => (AxisDocument.ofDocument? d).map point
  | some ("range", .object fields) => do
    let [low, high] ← Document.namedFields? ["min", "max"] fields | none
    let low ← Document.required AxisDocument.ofDocument? low
    let high ← Document.required AxisDocument.ofDocument? high
    some (span low high)
  | _ => none

end DomainEntry

/-- The document form of a domain: its entries in order. -/
def Domain.toDocument {α : Type} [AxisValue α] [Std.TransOrd α] [AxisDocument α] (d : Domain α) :
    Document :=
  .list (d.entries.map DomainEntry.toDocument)

namespace Envelope

/-- The document form of an envelope. -/
def toDocument (e : Envelope) : Document :=
  .object [("min_x", .real e.minX), ("min_y", .real e.minY), ("max_x", .real e.maxX),
    ("max_y", .real e.maxY)]

/-- Reads an envelope, whose minima may exceed its maxima. -/
def ofDocument? (d : Document) : Option Envelope := do
  let [minX, minY, maxX, maxY] ← d.record? ["min_x", "min_y", "max_x", "max_y"] | none
  let minX ← Document.required Document.number? minX
  let minY ← Document.required Document.number? minY
  let maxX ← Document.required Document.number? maxX
  let maxY ← Document.required Document.number? maxY
  some ⟨minX, minY, maxX, maxY⟩

end Envelope

/-- The document form of a value of a custom dimension: its kind and the value. -/
def CustomValue.toDocument (v : CustomValue) : Document :=
  let tagged (kind : String) (d : Document) : Document :=
    .object [("type", .text kind), ("value", d)]
  match v with
  | date t => tagged "date" (.text t.zulu)
  | integer n => tagged "integer" (.integer n)
  | double x => tagged "double" (.real x)
  | text s => tagged "text" (.text s)

end CoverageSubset

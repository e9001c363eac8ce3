import CoverageSubset.Domain.Entry
import CoverageSubset.Double.Layout
import CoverageSubset.Double.Literal
import CoverageSubset.Instant.Literal
import CoverageSubset.Instant.Written

/-!
# Values of custom dimensions

The value of a custom dimension has no declared kind: it is a time if it reads as one, else a 32-bit
integer, else a double, else a text. A bare year of four digits is therefore a time and not a
number. Blanks around a time or number do not count, but a text keeps them.
-/

namespace CoverageSubset

/-- The value of a custom dimension (specification 12.3, `CustomValue`). -/
inductive CustomValue where
  | date (t : Instant)
  | integer (n : Int)
  | double (x : Double)
  | text (s : String)
deriving DecidableEq

/-- The digits of an integer without its sign: at least one, all ASCII. -/
def wholeDigits? (cs : List Char) : Option Nat :=
  if cs.isEmpty || !cs.all Char.isDigit then none else some (Text.digitsValue cs)

/-- Reads a 32-bit integer with an optional sign. -/
def integerOfTrimmed? (cs : List Char) : Option Int :=
  let (negative, ds) := Double.splitSign cs
  (wholeDigits? ds).bind fun n ↦
    let value : Int := if negative then -(n : Int) else n
    if -2147483648 ≤ value ∧ value ≤ 2147483647 then some value else none

/-- Reads a 32-bit integer between blanks (specification 12.3, `parse_as_integer`). -/
def integerOfLiteral? (s : String) : Option Int := integerOfTrimmed? (Text.trim s.toList)

/-- Reads a double between blanks (specification 12.3, `parse_as_double`). -/
def doubleOfLiteral? (s : String) : Option Double := Double.ofLiteral? (Text.trim s.toList)

/-- Reads two doubles with a slash between them as a span, in the order in which they are written
(specification 12.3, `parse_as_double_range`). -/
def spanOfLiteral? (s : String) : Option (DomainEntry Double) :=
  match s.toList.splitOn '/' with
  | [low, high] => do
    let low ← Double.ofLiteral? (Text.trim low)
    let high ← Double.ofLiteral? (Text.trim high)
    some (.span low high)
  | _ => none

namespace CustomValue

/-- Types a value by the first kind whose literals it is one of (specification 4.1, the order of the
parsers). -/
def ofLiteral (s : String) : CustomValue :=
  match Instant.ofLiteral? s with
  | some t => date t
  | none =>
    match integerOfLiteral? s with
    | some n => integer n
    | none =>
      match doubleOfLiteral? s with
      | some x => double x
      | none => text s

/-- The value as a text. -/
def written : CustomValue → String
  | date t => t.withOffset
  | integer n => String.ofList (Text.signed n)
  | double x => x.write Double.plain
  | text s => s

end CustomValue

end CoverageSubset

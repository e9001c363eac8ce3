import CoverageSubset.Double.Literal
import CoverageSubset.Text.Digits
import CoverageSubset.Yaml.Reader

/-!
# What unquoted scalars mean

An unquoted scalar may stand for null, a truth value or a number, and is a text otherwise. Whole
numbers have a sign and decimal digits, or digits of base 16, 8 or 2 after a mark; a leading zero
makes decimal digits a text. Whole numbers of more than 64 and at most 128 bits are read but nothing
can hold them. All other numbers are doubles, as far as they are in range.
-/

namespace CoverageSubset.Yaml

/-- What a scalar stands for. -/
inductive Meaning where
  | null
  | truth (b : Bool)
  /-- A whole number. -/
  | whole (n : Int)
  /-- A number that is no whole number. -/
  | real
  /-- The text itself. -/
  | text
deriving DecidableEq

/-- A truth value in one of its three spellings. -/
def truth? (s : String) : Option Bool :=
  if ["true", "True", "TRUE"].contains s then some true
  else if ["false", "False", "FALSE"].contains s then some false
  else none

/-- The digits after a plus or minus sign, or all of them. -/
def withoutSign : List Char → List Char
  | '+' :: cs => cs
  | '-' :: cs => cs
  | cs => cs

/-- Decimal digits that start with a superfluous zero, after a sign or not. -/
def hasLeadingZero (cs : List Char) : Bool :=
  match withoutSign cs with
  | '0' :: ds => !ds.isEmpty && ds.all Char.isDigit
  | _ => false

/-- The number that digits without a sign denote, in the base of their mark. -/
def magnitude? : List Char → Option Nat
  | '0' :: 'x' :: ds => Text.inBase? 16 ds
  | '0' :: 'o' :: ds => Text.inBase? 8 ds
  | '0' :: 'b' :: ds => Text.inBase? 2 ds
  | ds => Text.inBase? 10 ds

/-- The whole number that a text denotes. -/
def whole? (cs : List Char) : Option Int :=
  if hasLeadingZero cs then none
  else
    match cs with
    | '-' :: ds => (magnitude? ds).map fun n ↦ -(n : Int)
    | '+' :: ds => (magnitude? ds).map fun n ↦ (n : Int)
    | ds => (magnitude? ds).map fun n ↦ (n : Int)

/-- A whole number of at most so many bits, one less if it is negative. -/
def fits (bits : Nat) (n : Int) : Bool := -(Int.pow 2 (bits - 1)) ≤ n && n < Int.pow 2 bits

/-- The names of what is no finite number. -/
def isNamedNumber (s : String) : Bool :=
  [".inf", ".Inf", ".INF", "+.inf", "+.Inf", "+.INF", "-.inf", "-.Inf", "-.INF", ".nan", ".NaN",
    ".NAN"].contains s

/-- The text denotes a number that is no whole number. -/
def isReal (s : String) : Bool :=
  isNamedNumber s ||
    !hasLeadingZero s.toList && ((Double.ofLiteral? s.toList).any Double.isFinite)

/-- What an unquoted text stands for. -/
def Meaning.ofPlain (s : String) : Meaning :=
  if (Node.scalar s true).isNull then null
  else
    match truth? s with
    | some b => truth b
    | none =>
      match (whole? s.toList).filter (fits 128) with
      | some n => whole n
      | none => if isReal s then real else text

end CoverageSubset.Yaml

import CoverageSubset.Document.Basic
import CoverageSubset.Double.Round
import CoverageSubset.Text.Digits

/-!
# Numbers of a document

The value of a number in a JSON document. A number without point and exponent that fits 64 bits is
whole. Any other is read approximately: its digits form a whole number as long as they fit 64 bits,
and one multiplication or division by a power of ten gives the value. Digits that no longer fit
count only as places, those of a fraction not at all. A number with few digits and a small exponent
is therefore the nearest double, and one with many digits may be a neighbour of it. Minus zero is a
double.
-/

namespace CoverageSubset.Document

/-- The greatest whole number of 64 bits. -/
def greatestWord : Nat := 0xFFFFFFFFFFFFFFFF

/-- The parts of a number as they are written. -/
structure Numeral where
  negative : Bool
  whole : List Char
  /-- The digits after the point, if there is a point. -/
  fraction : Option (List Char)
  /-- The exponent, if there is one: it is negative, and its digits. -/
  exponent : Option (Bool × List Char)

/-- Appends a digit to a number that stays within 64 bits. -/
def appendDigit? (n : Nat) (c : Char) : Option Nat :=
  let m := 10 * n + (c.toNat - '0'.toNat)
  if m ≤ greatestWord then some m else none

/-- Appends digits as long as they fit: the number, and the digits left. -/
def appendDigits (n : Nat) : List Char → Nat × List Char
  | [] => (n, [])
  | c :: cs => (appendDigit? n c).elim (n, c :: cs) fun m ↦ appendDigits m cs

/-- The double nearest to a power of ten. -/
def powerOfTen (n : Nat) : Double := Double.ofQuotient false (Nat.pow 10 n) 1

/-- A positive number times a power of ten, by one multiplication or by divisions; nothing if it is
too large. -/
def scaleByTen? (x : Double) (exponent : Int) : Nat → Option Double
  | 0 => some x
  | n + 1 =>
    if exponent.natAbs ≤ 308 then
      if 0 ≤ exponent then
        let y := x * powerOfTen exponent.natAbs
        if y.isFinite then some y else none
      else some (x.divFinite (powerOfTen exponent.natAbs))
    else if x.magnitude = 0 then some x
    else if 0 ≤ exponent then none
    else scaleByTen? (x.divFinite (powerOfTen 308)) (exponent + 308) n

/-- The number with its sign. -/
def signedReal (negative : Bool) (x : Double) : Document := .real (if negative then x.neg else x)

/-- A whole number times a power of ten; nothing if it is too large. Four divisions make every
number zero. -/
def realOf? (negative : Bool) (digits : Nat) (exponent : Int) : Option Document :=
  (scaleByTen? (Double.ofQuotient false digits 1) exponent 5).map (signedReal negative)

/-- A written exponent, within 32 bits. -/
def exponentOf? (ds : List Char) : Option Int :=
  let n := Text.digitsValue ds
  if n ≤ 2147483647 then some n else none

/-- The value of a number; nothing if it is beyond every double. -/
def Numeral.value? (n : Numeral) : Option Document :=
  let (digits, places) := appendDigits 0 n.whole
  match n.fraction, n.exponent, places with
  | none, none, [] =>
    if n.negative then
      if digits = 0 ∨ 0x8000000000000000 <
        digits then some (signedReal true (.ofQuotient false digits 1))
      else some (.integer (-digits))
    else some (.integer digits)
  | fraction, exponent, _ =>
    let fraction := fraction.getD []
    let (digits, unused) := appendDigits digits fraction
    let base : Int := (places.length : Int) - (fraction.length - unused.length : Nat)
    match exponent with
    | none => realOf? n.negative digits base
    | some (down, ds) =>
      match exponentOf? ds with
      | some e => realOf? n.negative digits (if down then base - e else base + e)
      | none => if digits = 0 ∨ down then some (signedReal n.negative (Double.zero false)) else none

end CoverageSubset.Document

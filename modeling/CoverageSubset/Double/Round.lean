import CoverageSubset.Double.Basic

/-!
# Rounding to the nearest double

Every inexact result goes through one function: the double nearest to a quotient of whole numbers,
ties to the even significand, with gradual underflow and overflow to infinity. Sums, products and
quotients of doubles are taken exactly and rounded once.
-/

namespace CoverageSubset.Double

/-- The whole number nearest to a quotient, a tie going to the even one. -/
def nearestWhole (num den : Nat) : Nat :=
  let q := num / den
  let r := num % den
  if 2 * r < den then q
  else if den < 2 * r then q + 1
  else if q % 2 = 0 then q
  else q + 1

/-- The exponent of the unit in which a positive quotient has 53 bits, or that of the subnormal
numbers. -/
def unitExponent (num den : Nat) : Int :=
  let guess : Int := (num.log2 : Int) - den.log2 - 52
  let short :=
    if 0 ≤ guess then decide (num < den * Nat.pow 2 (guess.toNat + 52))
    else decide (num * Nat.pow 2 (-guess).toNat < den * Nat.pow 2 52)
  max (if short then guess - 1 else guess) (-1074)

/-- The magnitude of the double nearest to a quotient with a positive denominator. -/
def nearestMagnitude (num den : Nat) : Nat :=
  if num = 0 then 0 else
  let e := unitExponent num den
  let whole :=
    if 0 ≤ e then nearestWhole num (den * Nat.pow 2 e.toNat) else nearestWhole
      (num * Nat.pow 2 (-e).toNat) den
  (e + 1074).toNat * Nat.pow 2 52 + whole

/-- The double nearest to a quotient with a positive denominator. -/
def ofQuotient (negative : Bool) (num den : Nat) : Double :=
  ofMagnitude negative (nearestMagnitude num den)

/-- The double nearest to a whole number; zero is positive. -/
def ofInt (n : Int) : Double := ofQuotient (decide (n < 0)) n.natAbs 1

/-- The double nearest to a whole number times a power of two; zero takes the given sign. -/
def ofDyadic (zeroNegative : Bool) (n : Int) (e : Int) : Double :=
  let negative := if n = 0 then zeroNegative else decide (n < 0)
  if 0 ≤ e then ofQuotient negative (n.natAbs * Nat.pow 2 e.toNat) 1
  else ofQuotient negative n.natAbs (Nat.pow 2 (-e).toNat)

/-- The exact value of a finite number as a whole number times a power of two. -/
def dyadic (x : Double) : Int × Int :=
  let (m, e) := x.scaled
  (if x.negative then -(m : Int) else m, e)

/-- The sum; infinities of opposite signs have none, and an exact zero is positive unless both terms
are negative zeros. -/
def add (a b : Double) : Double :=
  if a.isNaN || b.isNaN then notANumber false
  else if !a.isFinite then
    if !b.isFinite && a.negative != b.negative then notANumber false else a
  else if !b.isFinite then b
  else
    let (m, e) := a.dyadic
    let (n, f) := b.dyadic
    let low := min e f
    ofDyadic (a.negative && b.negative)
      (m * Int.pow 2 (e - low).toNat + n * Int.pow 2 (f - low).toNat) low

/-- The difference. -/
def sub (a b : Double) : Double := a.add b.neg

/-- The product; zero times infinity has none. -/
def mul (a b : Double) : Double :=
  let negative := a.negative != b.negative
  if a.isNaN || b.isNaN then notANumber false
  else if !a.isFinite || !b.isFinite then
    if a.magnitude = 0 || b.magnitude = 0 then notANumber false else infinity negative
  else
    let (m, e) := a.dyadic
    let (n, f) := b.dyadic
    ofDyadic negative (m * n) (e + f)

/-- A finite number divided by a finite number that is not zero. -/
def divFinite (a b : Double) : Double :=
  let negative := a.negative != b.negative
  let (m, e) := a.scaled
  let (n, f) := b.scaled
  if f ≤ e then ofQuotient negative (m * Nat.pow 2 (e - f).toNat) n
  else ofQuotient negative m (n * Nat.pow 2 (f - e).toNat)

instance : Add Double := ⟨add⟩
instance : Sub Double := ⟨sub⟩
instance : Mul Double := ⟨mul⟩

/-- A tie goes to the even neighbour. -/
example : nearestWhole 5 2 = 2 ∧ nearestWhole 7 2 = 4 ∧ nearestWhole 8 3 = 3 := by decide

/-- One third has 53 ones and zeros in turn. -/
example : (ofQuotient false 1 3).toBits = 0x3FD5555555555555 := by decide +kernel

/-- Half of the least number is a tie that goes to zero; anything above it goes up. -/
example :
    (ofQuotient false 1 (2 ^ 1075)).toBits = 0 ∧
    (ofQuotient true 3 (2 ^ 1076)).toBits = 2 ^ 63 + 1 := by
  decide +kernel

/-- A whole number beyond every double becomes infinity. -/
example : ofQuotient false (2 ^ 1024) 1 = infinity false := by decide +kernel

end CoverageSubset.Double

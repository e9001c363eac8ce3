import CoverageSubset.Double.Basic

/-!
# The fewest digits that read back

A finite positive number stands for every real that rounds to it: an interval around it, with its
ends when the significand is even. `shortest` gives the decimal with the fewest digits in that
interval and, of those, one nearest to the number; a parameter says which of two equally near ones
is taken. On the grid of decimals with a given number of digits only the two neighbours of the
number can be such a decimal, so the search tries the neighbours of one grid after the other.
-/

namespace CoverageSubset.Double

/-- Which of two equally near decimals is taken. -/
inductive Tie where
  /-- The one with an even last digit. -/
  | even
  /-- The greater one. -/
  | up
deriving DecidableEq

/-- A decimal `digits · 10 ^ exponent`. -/
structure Decimal where
  digits : Nat
  exponent : Int
deriving DecidableEq, Repr

/-- A positive number and the reals that round to it, all over one denominator. -/
structure RoundingInterval where
  value : Nat
  low : Nat
  high : Nat
  unit : Nat
  closed : Bool

/-- The interval of a finite number. Below a power of two the gap to the next number is half as
wide. -/
def interval (x : Double) : RoundingInterval :=
  let (m, e) := x.scaled
  let narrow := m = 0x10000000000000 ∧ -1074 < e
  let up := Nat.pow 2 e.toNat
  ⟨4 * m * up, (4 * m - if narrow then 1 else 2) * up, (4 * m + 2) * up, 4 * Nat.pow 2 (-e).toNat,
    m % 2 = 0⟩

/-- A quotient lies in the interval. -/
def RoundingInterval.contains (i : RoundingInterval) (num den : Nat) : Bool :=
  if i.closed then decide (i.low * den ≤ num * i.unit) && decide (num * i.unit ≤ i.high * den)
  else decide (i.low * den < num * i.unit) && decide (num * i.unit < i.high * den)

/-- The power of ten of the first digit of a positive quotient. -/
def leadingPower (num den : Nat) : Int :=
  if den ≤ num then ((Nat.toDigits 10 (num / den)).length : Int) - 1
  else -((Nat.toDigits 10 ((num + den - 1) / num - 1)).length : Int)

/-- A decimal without the zeros at its end. -/
def Decimal.trimmed (d : Decimal) : Nat → Decimal
  | 0 => d
  | n + 1 => if d.digits % 10 = 0 ∧
    d.digits ≠ 0 then Decimal.trimmed ⟨d.digits / 10, d.exponent + 1⟩ n else d

/-- The best neighbour of a number on the grid of multiples of `10 ^ k`, if one rounds to the
number. -/
def onGrid? (tie : Tie) (i : RoundingInterval) (k : Int) : Option Decimal :=
  let p := Nat.pow 10 k.toNat
  let s := Nat.pow 10 (-k).toNat
  let lower := i.value * s / (i.unit * p)
  let lowIn := lower ≠ 0 ∧ i.contains (lower * p) s
  let highIn := i.contains ((lower + 1) * p) s
  let below := i.value * s - lower * p * i.unit
  let above := (lower + 1) * p * i.unit - i.value * s
  let upper := above < below ∨ above = below ∧ (tie = .up ∨ lower % 2 = 1)
  if lowIn ∧ highIn then some ⟨if upper then lower + 1 else lower, k⟩
  else if lowIn then some ⟨lower, k⟩
  else if highIn then some ⟨lower + 1, k⟩
  else none

/-- The first grid with a hit, from the one with `digits` digits on. Seventeen digits always
suffice. -/
def searchGrids (tie : Tie) (i : RoundingInterval) (first : Int) : Nat → Nat → Decimal
  | _, 0 => ⟨i.value * Nat.pow 10 (-(first - 16)).toNat / (i.unit * Nat.pow 10 (first - 16).toNat),
    first - 16⟩
  | digits, n + 1 =>
    match onGrid? tie i (first - digits + 1) with
    | some d => d.trimmed 17
    | none => searchGrids tie i first (digits + 1) n

/-- The fewest digits that read back as the magnitude of a finite number; zero has the digit
zero. -/
def shortest (tie : Tie) (x : Double) : Decimal :=
  if x.magnitude = 0 then ⟨0, 0⟩
  else
    let i := x.interval
    searchGrids tie i (leadingPower i.value i.unit) 1 17

/-- Three tenths has one digit, and the number after it seventeen. -/
example : shortest .even ⟨false, 0x3FD3333333333333, by decide⟩ = ⟨3, -1⟩ ∧
    shortest .even ⟨false, 0x3FD3333333333334, by decide⟩ = ⟨30000000000000004, -17⟩ := by
  decide +kernel

/-- The least positive number. -/
example : shortest .even ⟨false, 1, by decide⟩ = ⟨5, -324⟩ := by decide +kernel

end CoverageSubset.Double

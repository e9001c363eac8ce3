import CoverageSubset.Double.Round
import CoverageSubset.Text.Digits

/-!
# Number literals

The literals of a double: an optional sign, then `inf`, `infinity` or `nan` in any ASCII case, or
digits with an optional point and an optional exponent, where the point needs a digit on one of its
sides. The value is the nearest double, however many digits are written.
-/

namespace CoverageSubset.Double

/-- The double nearest to `digits · 10 ^ exponent`. Powers far outside the range of doubles are
never computed. -/
def ofDecimal (negative : Bool) (digits : Nat) (exponent : Int) : Double :=
  if digits = 0 then zero negative else
  let leading : Int := (Text.decimal digits).length + exponent
  if 310 < leading then infinity negative
  else if leading < -330 then zero negative
  else if 0 ≤ exponent then ofQuotient negative (digits * Nat.pow 10 exponent.toNat) 1
  else ofQuotient negative digits (Nat.pow 10 (-exponent).toNat)

/-- An optional sign: whether it is a minus, and what follows. -/
def splitSign : List Char → Bool × List Char
  | '-' :: rest => (true, rest)
  | '+' :: rest => (false, rest)
  | rest => (false, rest)

/-- The text names infinity or not-a-number, in any ASCII case. -/
def ofName? (negative : Bool) (cs : List Char) : Option Double :=
  let word := cs.map Char.toLower
  if word = ['i', 'n', 'f'] ∨ word =
    ['i', 'n', 'f', 'i', 'n', 'i', 't', 'y'] then some (infinity negative)
  else if word = ['n', 'a', 'n'] then some (notANumber negative)
  else none

/-- The exponent part of a literal, which runs to the end of the text: nothing, or `e`, a sign and
digits. -/
def exponentPart? : List Char → Option Int
  | [] => some 0
  | c :: rest =>
    if c = 'e' ∨ c = 'E' then
      let (negative, ds) := splitSign rest
      if ds.isEmpty || !ds.all Char.isDigit then none
      else
        let n : Int := Text.digitsValue ds
        some (if negative then -n else n)
    else none

/-- The part of a literal after its point: the digits of the fraction and what follows. -/
def splitFraction : List Char → List Char × List Char
  | '.' :: rest =>
    let ds := Text.leadingDigits rest
    (ds, rest.drop ds.length)
  | rest => ([], rest)

/-- The digits of a literal after its sign. -/
def ofDigits? (negative : Bool) (cs : List Char) : Option Double :=
  let whole := Text.leadingDigits cs
  let (fraction, rest) := splitFraction (cs.drop whole.length)
  if whole.isEmpty && fraction.isEmpty then none
  else do
    let exponent ← exponentPart? rest
    some (ofDecimal negative (Text.digitsValue (whole ++ fraction)) (exponent - fraction.length))

/-- Reads a whole text as a double. -/
def ofLiteral? (cs : List Char) : Option Double :=
  let (negative, rest) := splitSign cs
  (ofName? negative rest).orElse fun _ ↦ ofDigits? negative rest

/-- A digit on either side of the point is enough; a point alone is none. -/
example :
    (ofLiteral? ['.', '5']).isSome ∧ (ofLiteral? ['5', '.']).isSome ∧
    (ofLiteral? ['.']).isNone := by
  decide +kernel

/-- One tenth is the nearest double to a tenth. -/
example : (ofLiteral? ['0', '.', '1']).map toBits = some 0x3FB999999999999A := by decide +kernel

/-- An exponent needs digits. -/
example : ofLiteral? ['1', 'e'] = none ∧ ofLiteral? ['1', 'e', '+'] = none := by decide +kernel

end CoverageSubset.Double

import CoverageSubset.Double.Shortest
import CoverageSubset.Text.Digits

/-!
# Numbers as text

How the shortest digits of a number are laid out: with a point and zeros only, or with a power of
ten outside a range of sizes. A layout is a record of the choices of one output; `plain` is that of
messages and `document` that of JSON documents.
-/

namespace CoverageSubset.Double

/-- The choices of one output. -/
structure Layout where
  /-- Which of two equally near digit strings is written. -/
  tie : Tie
  /-- The least and the greatest power of ten of the first digit that is written without an
  exponent. -/
  positional : Option (Int × Int)
  /-- Whole numbers get a zero after the point. -/
  fraction : Bool
  /-- The text of numbers that are not finite: infinity, minus infinity, not-a-number. -/
  infinite : String
  minusInfinite : String
  notNumber : String

/-- Messages never use an exponent, write whole numbers without a point, and name what is not
finite. -/
def plain : Layout := ⟨.up, none, false, "inf", "-inf", "NaN"⟩

/-- Documents write every number with a point or an exponent, the latter below `10 ^ -5` and from
`10 ^ 16` on; they have no notation for what is not finite. -/
def document : Layout := ⟨.even, some (-5, 15), true, "null", "null", "null"⟩

/-- Digits without an exponent. -/
def positionalDigits (l : Layout) (ds : List Char) (exponent : Int) : List Char :=
  if 0 ≤ exponent then
    ds ++ List.replicate exponent.toNat '0' ++ (if l.fraction then ['.', '0'] else [])
  else
    let places := (-exponent).toNat
    if places < ds.length then ds.take (ds.length - places) ++ '.' :: ds.drop (ds.length - places)
    else '0' :: '.' :: (List.replicate (places - ds.length) '0' ++ ds)

/-- Digits with a point after the first and a signed exponent. -/
def scientificDigits (ds : List Char) (leading : Int) : List Char :=
  let exponent := (if leading < 0 then '-' else '+') :: Text.decimal leading.natAbs
  match ds with
  | [] => 'e' :: exponent
  | [d] => d :: 'e' :: exponent
  | d :: more => d :: '.' :: more ++ 'e' :: exponent

/-- The digits of a decimal in a layout. -/
def Decimal.write (l : Layout) (d : Decimal) : List Char :=
  let ds := Text.decimal d.digits
  let leading : Int := (ds.length : Int) - 1 + d.exponent
  match l.positional with
  | none => positionalDigits l ds d.exponent
  | some (least, greatest) =>
    if d.digits = 0 ∨ least ≤ leading ∧ leading ≤ greatest then positionalDigits l ds d.exponent
    else scientificDigits ds leading

/-- A number as text. The sign of zero is written. -/
def write (l : Layout) (x : Double) : String :=
  if x.isNaN then l.notNumber
  else if !x.isFinite then if x.negative then l.minusInfinite else l.infinite
  else
    let ds := (x.shortest l.tie).write l
    String.ofList (if x.negative then '-' :: ds else ds)

/-- The 64 bits in sixteen hexadecimal digits. -/
def hex (x : Double) : String := String.ofList (List.leftpad 16 '0' (Nat.toDigits 16 x.toBits))

end CoverageSubset.Double

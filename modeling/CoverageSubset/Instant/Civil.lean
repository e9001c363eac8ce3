import CoverageSubset.Instant.Basic
import CoverageSubset.Text.Ends
import CoverageSubset.Text.Digits

/-!
# Civil times and their fields

A date, a time of day and an offset from UTC, as they are written, and the instant they denote. A
second numbered 60 is a leap second in any minute. The readers of the fields are shared by the two
notations for time: a lenient number may follow blanks, a year may have a sign and then as many
digits as wanted, a fraction counts nine digits and skips the others.
-/

namespace CoverageSubset

/-- A date, a time of day and an offset east of UTC in seconds. -/
structure CivilTime where
  date : Date
  hour : Nat
  minute : Nat
  second : Nat
  nano : Nat
  offset : Int
deriving DecidableEq, Repr

namespace CivilTime

/-- Midnight in UTC. -/
def midnight (date : Date) : CivilTime := ⟨date, 0, 0, 0, 0, 0⟩

/-- The fields denote a date and a time of day. -/
def isValid (t : CivilTime) : Bool :=
  t.date.isValid && decide (-262143 ≤ t.date.year) && decide (t.date.year ≤ 262142) &&
    decide (t.hour < 24) && decide (t.minute < 60) && decide (t.second ≤ 60)

/-- The seconds from midnight in UTC, from before the day to after it. A leap second counts as the
one before. -/
def secondsFromMidnight (t : CivilTime) : Int :=
  t.hour * 3600 + t.minute * 60 + min t.second 59 - t.offset

/-- The instant that the fields denote, if they are valid and it is in range. -/
def toInstant? (t : CivilTime) : Option Instant :=
  if t.isValid then
    let s := t.secondsFromMidnight
    let nano := if t.second = 60 then t.nano + 1000000000 else t.nano
    Instant.make? (t.date.toDayNumber + s / 86400) (s % 86400).toNat nano
  else none

/-- A number of at most so many digits after any blanks. -/
def field? (most : Nat) (cs : List Char) : Option (Nat × List Char) :=
  Text.number? 1 most (Text.trimStart cs)

/-- A year after any blanks: four digits at most, or a sign and any number of digits. -/
def year? (cs : List Char) : Option (Int × List Char) :=
  match Text.trimStart cs with
  | '-' :: rest => (Text.number? 1 rest.length rest).map fun (n, rest) ↦ (-(n : Int), rest)
  | '+' :: rest => (Text.number? 1 rest.length rest).map fun (n, rest) ↦ ((n : Int), rest)
  | rest => (Text.number? 1 4 rest).map fun (n, rest) ↦ ((n : Int), rest)

/-- An optional fraction of a second in nanoseconds: nine digits count, the others are skipped. -/
def fraction? : List Char → Option (Nat × List Char)
  | '.' :: rest =>
    let ds := Text.leadingDigits rest
    if ds.isEmpty then none
    else
      let counted := ds.take 9
      some (Text.digitsValue counted * Nat.pow 10 (9 - counted.length), rest.drop ds.length)
  | rest => some (0, rest)

/-- Two digits. -/
def twoDigits? (cs : List Char) : Option (Nat × List Char) := Text.number? 2 2 cs

/-- The sign of an offset; the typographic minus counts as a minus. -/
def offsetSign? : List Char → Option (Int × List Char)
  | '+' :: rest => some (1, rest)
  | '-' :: rest => some (-1, rest)
  | '−' :: rest => some (-1, rest)
  | _ => none

/-- An offset from UTC in seconds: `Z`, or a sign, hours below 24 and minutes below 60 with what may
stand between them. -/
def offset? (separator : List Char → Option (List Char)) : List Char → Option (Int × List Char)
  | 'Z' :: rest => some (0, rest)
  | 'z' :: rest => some (0, rest)
  | cs => do
    let (sign, cs) ← offsetSign? cs
    let (hours, cs) ← twoDigits? cs
    let cs ← separator cs
    let (minutes, cs) ← twoDigits? cs
    if hours < 24 ∧ minutes < 60 then some (sign * (hours * 3600 + minutes * 60 : Nat),
      cs) else none

end CivilTime

end CoverageSubset

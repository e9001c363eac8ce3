import CoverageSubset.Instant.Civil

/-!
# Instants as text

The written form of an instant: date and time of day in full width, then the fraction of the second
with three, six or nine digits, the fewest that lose nothing, or without a fraction if there is
none. A year outside 0 to 9999 has a sign and at least four digits. A leap second is written as
second 60. The form ends in `Z` or in a zero offset.

Records store a time as a date and a time of day with an offset that is required. This notation is
lenient: blanks may stand before and after the fields, and the offset may be `UTC` in any case. A
text that is not of this form is no time but a text.
-/

namespace CoverageSubset.Instant

/-! ### Writing -/

/-- A year: four digits, or a sign and at least four. -/
def writtenYear (year : Int) : List Char :=
  if 0 ≤ year ∧ year ≤ 9999 then Text.padded 4 year.toNat
  else (if year < 0 then '-' else '+') :: Text.padded 4 year.natAbs

/-- The fraction of a second, given in nanoseconds. -/
def writtenFraction (nano : Nat) : List Char :=
  if nano = 0 then []
  else if nano % 1000000 = 0 then '.' :: Text.padded 3 (nano / 1000000)
  else if nano % 1000 = 0 then '.' :: Text.padded 6 (nano / 1000)
  else '.' :: Text.padded 9 nano

/-- A date in full width. -/
def writtenDate (d : Date) : List Char :=
  writtenYear d.year ++ '-' :: Text.padded 2 d.month ++ '-' :: Text.padded 2 d.day

/-- The time of day in full width. -/
def writtenTime (t : Instant) : List Char :=
  let second := if t.inLeapSecond then t.second % 60 + 1 else t.second % 60
  Text.padded 2 (t.second / 3600) ++ ':' :: Text.padded 2 (t.second / 60 % 60) ++
    ':' :: Text.padded 2 second ++
    writtenFraction (t.nano % 1000000000)

/-- The date of an instant. -/
def date (t : Instant) : Date := Date.ofDayNumber t.day

/-- The written form up to its end. -/
def writtenLocal (t : Instant) : List Char := writtenDate t.date ++ 'T' :: t.writtenTime

/-- The written form that ends in `Z`. -/
def zulu (t : Instant) : String := String.ofList (t.writtenLocal ++ ['Z'])

/-- The written form that ends in a zero offset. -/
def withOffset (t : Instant) : String :=
  String.ofList (t.writtenLocal ++ ['+', '0', '0', ':', '0', '0'])

/-! ### Reading stored times -/

open CivilTime

/-- What may stand between the hours and minutes of an offset: any colons and blanks. -/
def colonsAndBlanks (cs : List Char) : List Char := cs.dropWhile fun c ↦ c = ':' || Text.isBlank c

/-- An offset, or `UTC` in any ASCII case. -/
def utcOrOffset? (cs : List Char) : Option (Int × List Char) :=
  if (cs.take 3).map Char.toUpper = ['U', 'T', 'C'] then some (0, cs.drop 3)
  else CivilTime.offset? (fun cs ↦ some (colonsAndBlanks cs)) cs

/-- The fields of a stored time. -/
def timestamp? (cs : List Char) : Option CivilTime := do
  let (year, cs) ← year? cs
  let cs ← Text.char? '-' (Text.trimStart cs)
  let (month, cs) ← field? 2 cs
  let cs ← Text.char? '-' (Text.trimStart cs)
  let (day, cs) ← field? 2 cs
  let cs ← (Text.char? 'T' cs).or ((Text.char? 't' cs).or (Text.char? ' ' cs))
  let (hour, cs) ← field? 2 cs
  let cs ← Text.char? ':' (Text.trimStart cs)
  let (minute, cs) ← field? 2 cs
  let cs ← Text.char? ':' (Text.trimStart cs)
  let (second, cs) ← field? 2 cs
  let (nano, cs) ← fraction? cs
  let (offset, cs) ← utcOrOffset? (Text.trimStart cs)
  if (Text.trimStart cs).isEmpty then some ⟨⟨year, month, day⟩, hour, minute, second, nano,
    offset⟩ else none

/-- Reads a stored time. -/
def ofTimestamp? (s : String) : Option Instant := (timestamp? s.toList).bind toInstant?

end CoverageSubset.Instant

import CoverageSubset.Instant.Civil

/-!
# Time literals of a request

The forms in which a request may write a time, tried in turn on the text without the blanks at its
ends.

1. A date and a time with an offset, every field with its full width. 2. A date and a time without
an offset, which is then UTC; fields may be shorter and follow blanks. 3. A date, fields as in 2. 4.
A year of at least four digits, or such a year and a two-digit month: the first instant of the
period.

The last two may end in a `Z`.
-/

namespace CoverageSubset.Instant

open CivilTime

/-- A date and a time with an offset, in full width, up to the end of the text. -/
def zoned? (cs : List Char) : Option CivilTime := do
  let (year, cs) ← Text.number? 4 4 cs
  let cs ← Text.char? '-' cs
  let (month, cs) ← twoDigits? cs
  let cs ← Text.char? '-' cs
  let (day, cs) ← twoDigits? cs
  let cs ← (Text.char? 'T' cs).or ((Text.char? 't' cs).or (Text.char? ' ' cs))
  let (hour, cs) ← twoDigits? cs
  let cs ← Text.char? ':' cs
  let (minute, cs) ← twoDigits? cs
  let cs ← Text.char? ':' cs
  let (second, cs) ← twoDigits? cs
  let (nano, cs) ← fraction? cs
  let (offset, cs) ← CivilTime.offset? (Text.char? ':') cs
  if cs.isEmpty then some ⟨⟨year, month, day⟩, hour, minute, second, nano, offset⟩ else none

/-- A date with lenient fields, and what follows it. -/
def datePart? (cs : List Char) : Option (Date × List Char) := do
  let (year, cs) ← year? cs
  let cs ← Text.char? '-' cs
  let (month, cs) ← field? 2 cs
  let cs ← Text.char? '-' cs
  let (day, cs) ← field? 2 cs
  some (⟨year, month, day⟩, cs)

/-- A date and a time without an offset, up to the end of the text. -/
def unzoned? (cs : List Char) : Option CivilTime := do
  let (date, cs) ← datePart? cs
  let cs ← Text.char? 'T' cs
  let (hour, cs) ← field? 2 cs
  let cs ← Text.char? ':' cs
  let (minute, cs) ← field? 2 cs
  let cs ← Text.char? ':' cs
  let (second, cs) ← field? 2 cs
  let (nano, cs) ← fraction? cs
  if cs.isEmpty then some ⟨date, hour, minute, second, nano, 0⟩ else none

/-- A date up to the end of the text. -/
def date? (cs : List Char) : Option CivilTime := do
  let (date, cs) ← datePart? cs
  if cs.isEmpty then some (midnight date) else none

/-- A year of at least four digits, or such a year and a two-digit month. -/
def period? (cs : List Char) : Option CivilTime :=
  let year := Text.leadingDigits cs
  let first (month : Nat) : CivilTime := midnight ⟨Text.digitsValue year, month, 1⟩
  if year.length < 4 then none
  else
    match cs.drop year.length with
    | [] => some (first 1)
    | '-' :: month =>
      if month.length = 2 ∧ month.all Char.isDigit then some (first (Text.digitsValue month))
        else none
    | _ => none

/-- The text without one `Z` at its end. -/
def withoutZulu (cs : List Char) : List Char := if cs.getLast? = some 'Z' then cs.dropLast else cs

/-- Reads a time literal that has no blanks at its ends. The first form that denotes an instant
counts. -/
def ofTrimmed? (cs : List Char) : Option Instant :=
  let date := withoutZulu cs
  ((zoned? cs).bind toInstant?).or <|
    ((unzoned? cs).bind toInstant?).or <|
      ((date? date).bind toInstant?).or ((period? date).bind toInstant?)

/-- Reads a time literal of a request (specification 10, `parse_iso8601`). -/
def ofLiteral? (s : String) : Option Instant := ofTrimmed? (Text.trim s.toList)

/-- Short numbers are no years, and a year needs no month. -/
example : ofTrimmed? ['1', '5'] = none ∧ (ofTrimmed? ['2', '0', '2', '0']).isSome := by
  decide +kernel

end CoverageSubset.Instant

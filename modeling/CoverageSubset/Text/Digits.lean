/-!
# Digits

Runs of ASCII digits at the start of a text and their values, and whole numbers written with leading
zeros. A run is read greedily up to a given length; digits of other scripts are not digits here.
Digits of other bases take the letters up to F.
-/

namespace CoverageSubset.Text

/-- The digits at the start of a text. -/
def leadingDigits (cs : List Char) : List Char := cs.takeWhile Char.isDigit

/-- The number that a run of digits denotes. -/
def digitsValue (ds : List Char) : Nat := Nat.ofDigitChars 10 ds 0

/-- Reads a run of at least `least` and at most `most` digits: its value and what follows. -/
def number? (least most : Nat) (cs : List Char) : Option (Nat × List Char) :=
  let ds := leadingDigits (cs.take most)
  if ds.length < least then none else some (digitsValue ds, cs.drop ds.length)

/-- The value of a hexadecimal digit, in either case. -/
def hexDigit? (c : Char) : Option Nat :=
  if c.isDigit then some (c.toNat - '0'.toNat)
  else if 'a' ≤ c ∧ c ≤ 'f' then some (c.toNat - 'a'.toNat + 10)
  else if 'A' ≤ c ∧ c ≤ 'F' then some (c.toNat - 'A'.toNat + 10)
  else none

/-- The number that digits of a base up to sixteen denote; there must be one. -/
def inBase? (base : Nat) (ds : List Char) : Option Nat :=
  if ds.isEmpty then none
  else
    ds.foldl (fun n c ↦ do
      let n ← n
      let d ← hexDigit? c
      if d < base then some (base * n + d) else none) (some 0)

/-- Reads one given character. -/
def char? (c : Char) : List Char → Option (List Char)
  | d :: rest => if d = c then some rest else none
  | [] => none

/-- The decimal digits of a number, without leading zeros. -/
def decimal (n : Nat) : List Char := Nat.toDigits 10 n

/-- The decimal digits of a number, with leading zeros up to a width. -/
def padded (width n : Nat) : List Char := List.leftpad width '0' (decimal n)

/-- An integer as a reader writes it: a minus sign if it is negative, then its digits. -/
def signed (n : Int) : List Char :=
  if n < 0 then '-' :: decimal n.natAbs else decimal n.natAbs

/-- Reading the digits of a number gives the number back. -/
theorem digitsValue_decimal (n : Nat) : digitsValue (decimal n) = n :=
  Nat.ofDigitChars_toDigits (by decide) (by decide)

/-- The digits of a number are digits. -/
theorem isDigit_of_mem_decimal {n : Nat} {c : Char} (h : c ∈ decimal n) : c.isDigit = true :=
  Nat.isDigit_of_mem_toDigits (by decide) (by decide) h

/-- Each character of a run is a digit. -/
theorem isDigit_of_mem_leadingDigits {cs : List Char} {c : Char} (h : c ∈ leadingDigits cs) :
    c.isDigit = true := by
  induction cs with
  | nil => simp [leadingDigits] at h
  | cons d cs ih =>
    by_cases hd : d.isDigit = true
    · simp only [leadingDigits, List.takeWhile, hd, List.mem_cons] at h
      rcases h with rfl | h
      · exact hd
      · exact ih h
    · simp [leadingDigits, List.takeWhile, hd] at h

end CoverageSubset.Text

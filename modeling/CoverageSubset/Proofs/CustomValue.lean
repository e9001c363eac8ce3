import CoverageSubset.CustomValue
import CoverageSubset.Proofs.Double.Literals
import CoverageSubset.Proofs.Instant.Periods

/-!
# The kinds of digits

Digits of any number are typed by their value and, without a sign, by how many they are: four or
more that are a year in range are a time, before all numbers; what is no time is an integer as far
as 32 bits reach, and a double beyond. A sign excludes a time. Leading zeros count among the digits
but not in the value, and blanks around do not count at all.
-/

namespace CoverageSubset

open Text

/-- An integer of a sign and a magnitude. -/
def signedValue (negative : Bool) (n : Nat) : Int := if negative then -(n : Int) else n

/-- The integer has 32 bits. -/
def Fits32 (n : Int) : Prop := -2147483648 ≤ n ∧ n ≤ 2147483647

instance : DecidablePred Fits32 := fun _ ↦ inferInstanceAs (Decidable (_ ∧ _))

private theorem integerOfTrimmed?_of_splitSign {cs ds : List Char} {negative : Bool}
    (hsign : Double.splitSign cs = (negative, ds)) (hds : ∀ c ∈ ds, c.isDigit = true)
    (hne : ds ≠ []) :
    integerOfTrimmed? cs =
      if Fits32 (signedValue negative (digitsValue ds))
        then some (signedValue negative (digitsValue ds)) else none := by
  have hwhole : wholeDigits? ds = some (digitsValue ds) := by
    rw [wholeDigits?, if_neg]
    simpa [hne] using hds
  rw [integerOfTrimmed?, hsign]
  dsimp only
  rw [hwhole]
  rfl

namespace CustomValue

variable {s : String} {cs ds : List Char} {negative : Bool}

/-- The number that digits are typed as, if they are no time. -/
def ofNumber (negative : Bool) (n : Nat) : CustomValue :=
  if Fits32 (signedValue negative n) then .integer (signedValue negative n)
    else .double (Double.ofDecimal negative n 0)

private theorem ofLiteral_of_splitSign (htrim : trim s.toList = cs)
    (hsign : Double.splitSign cs = (negative, ds))
    (hds : ∀ c ∈ ds, c.isDigit = true) (hne : ds ≠ []) :
    ofLiteral s = (Instant.ofTrimmed? cs).elim (ofNumber negative (digitsValue ds)) date := by
  rw [ofLiteral, Instant.ofLiteral?, integerOfLiteral?, doubleOfLiteral?, htrim,
    integerOfTrimmed?_of_splitSign hsign hds hne, Double.ofLiteral?_of_splitSign hsign hds hne,
      ofNumber]
  cases Instant.ofTrimmed? cs with
  | some t => rfl
  | none => by_cases h : Fits32 (signedValue negative (digitsValue ds)) <;> simp [h]

/-! ### Numbers -/

/-- The value is the integer of a sign and a magnitude if that has 32 bits, and otherwise the double
nearest to it. -/
structure IsNumber (negative : Bool) (n : Nat) (v : CustomValue) : Prop where
  integer_iff : ∀ i, v = .integer i ↔ Fits32 (signedValue negative n) ∧ i = signedValue negative n
  double_iff : ∀ x, v = .double x ↔
    ¬ Fits32 (signedValue negative n) ∧ x = Double.ofDecimal negative n 0
  ne_date : ∀ t, v ≠ .date t
  ne_text : ∀ s, v ≠ .text s

private theorem isNumber_ofNumber (negative : Bool) (n : Nat) :
    IsNumber negative n (ofNumber negative n) := by
  rw [ofNumber]
  split
  · next h => constructor <;> simp [h, eq_comm]
  · next h => constructor <;> simp [h, eq_comm]

/-! ### Years -/

/-- The digits are a year: four of them at least, and in the range of instants. -/
def IsYear (ds : List Char) : Prop := 4 ≤ ds.length ∧ digitsValue ds ≤ 262142

/-- The value is the first instant of a year if the digits are one, and otherwise their number. -/
structure IsTypedAs (ds : List Char) (v : CustomValue) : Prop where
  date_iff : (∃ t, v = .date t) ↔ IsYear ds
  beginsYear : ∀ t, v = .date t → t.BeginsYear (digitsValue ds)
  isNumber : ¬ IsYear ds → IsNumber false (digitsValue ds) v
  ne_text : ∀ s, v ≠ .text s

/-- Digits are a year or a number. -/
theorem isTypedAs_of_isDigit (hds : ∀ c ∈ ds, c.isDigit = true) :
    IsTypedAs ds ((Instant.ofTrimmed? ds).elim (ofNumber false (digitsValue ds)) date) := by
  have hnumber := isNumber_ofNumber false (digitsValue ds)
  rw [Instant.ofTrimmed?_of_isDigit hds]
  by_cases hyear : IsYear ds
  · obtain ⟨t, ht⟩ := Instant.exists_beginsYear (Int.natCast_nonneg _) (Int.ofNat_le.mpr hyear.2)
    have hread := Instant.toInstant?_firstOfYear.mpr ⟨⟨by omega, Int.ofNat_le.mpr hyear.2⟩, ht⟩
    rw [if_pos hyear.1, hread]
    exact ⟨by simpa using hyear, by simpa using ht, absurd hyear, by simp⟩
  · have hread : (if 4 ≤ ds.length then (CivilTime.midnight ⟨digitsValue ds, 1, 1⟩).toInstant?
      else none) = none := by
      refine Option.eq_none_iff_forall_ne_some.mpr fun t ht ↦ hyear ?_
      obtain ⟨hlength, ht⟩ := Option.ite_none_right_eq_some.mp ht
      exact ⟨hlength, Int.ofNat_le.mp (Instant.toInstant?_firstOfYear.mp ht).1.2⟩
    rw [hread]
    exact ⟨by simpa [hyear] using hnumber.ne_date, fun t ht ↦ absurd ht (hnumber.ne_date t),
      fun _ ↦ hnumber, hnumber.ne_text⟩

/-- Digits between blanks are typed as a year, or else as a number, and digits after a sign as a
number with this sign; blanks around them make no difference. -/
theorem ofLiteral_typesDigits {front back : List Char} (hfront : ∀ c ∈ front, isBlank c = true)
    (hback : ∀ c ∈ back, isBlank c = true) (hds : ∀ c ∈ ds, c.isDigit = true) (hne : ds ≠ []) :
    IsTypedAs ds (ofLiteral (String.ofList (front ++ (ds ++ back)))) ∧
    IsNumber false (digitsValue ds) (ofLiteral (String.ofList (front ++ ('+' :: ds ++ back)))) ∧
    IsNumber true (digitsValue ds) (ofLiteral (String.ofList (front ++ ('-' :: ds ++ back)))) := by
  have hdigit : ∀ c ∈ ds, isBlank c = false := fun c hc ↦ isBlank_of_isDigit (hds c hc)
  have htrim {cs : List Char} (hcs : ∀ c ∈ cs, isBlank c = false) :
      trim (String.ofList (front ++ (cs ++ back))).toList = cs := by
    rw [String.toList_ofList, trim_append_of_blank hfront hcs hback]
  refine ⟨?plain, ?plus, ?minus⟩
  case plain =>
    have hsign : Double.splitSign ds = (false, ds) := by
      obtain ⟨c, cs, rfl⟩ := List.exists_cons_of_ne_nil hne
      exact Double.splitSign_of_isDigit (hds c List.mem_cons_self) cs
    rw [ofLiteral_of_splitSign (htrim hdigit) hsign hds hne]
    exact isTypedAs_of_isDigit hds
  case plus =>
    have hsign : Double.splitSign ('+' :: ds) = (false, ds) := rfl
    rw [ofLiteral_of_splitSign (htrim (List.forall_mem_cons.mpr ⟨rfl, hdigit⟩)) hsign hds hne,
      Instant.ofTrimmed?_of_sign (by simp) hds]
    exact isNumber_ofNumber false _
  case minus =>
    have hsign : Double.splitSign ('-' :: ds) = (true, ds) := rfl
    rw [ofLiteral_of_splitSign (htrim (List.forall_mem_cons.mpr ⟨rfl, hdigit⟩)) hsign hds hne,
      Instant.ofTrimmed?_of_sign (by simp) hds]
    exact isNumber_ofNumber true _

/-- Three thousand million between blanks, with zeros in front, is a double, and so is its
negative. -/
theorem ofLiteral_typesDigits_overflow :
    ofLiteral " 003000000000" = .double (Double.ofInt 3000000000) ∧
      ofLiteral " -003000000000" = .double (Double.ofInt (-3000000000)) := by
  have hfront : ∀ c ∈ [' '], isBlank c = true := List.all_eq_true.mp (by decide)
  have hds : ∀ c ∈ "003000000000".toList, c.isDigit = true :=
    List.all_eq_true.mp (by decide +kernel)
  have hback : ∀ c ∈ [], isBlank c = true := List.forall_mem_nil _
  obtain ⟨hplain, -, hminus⟩ := ofLiteral_typesDigits hfront hback hds (by decide +kernel)
  have hyear : ¬ IsYear "003000000000".toList := fun h ↦ absurd h.2 (by decide +kernel)
  exact ⟨((hplain.isNumber hyear).double_iff _).mpr (by decide +kernel),
    (hminus.double_iff _).mpr (by decide +kernel)⟩

end CustomValue

end CoverageSubset

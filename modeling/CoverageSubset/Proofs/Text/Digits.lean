import CoverageSubset.Text.Ends
import CoverageSubset.Text.Digits
import Mathlib.Algebra.Group.Nat.Defs
import Mathlib.Data.List.DropRight

/-!
# Reading digits back

A number is read exactly from a text that is a run of digits, of an admitted length and not to be
continued, and a rest. So numbers written with leading zeros up to the width that is read come back,
whatever follows them.
-/

namespace CoverageSubset.Text

/-- The text starts with a digit. -/
def startsWithDigit (cs : List Char) : Bool := cs.head?.any Char.isDigit

@[simp] theorem startsWithDigit_nil : startsWithDigit [] = false := rfl

@[simp] theorem startsWithDigit_cons (c : Char) (cs : List Char) :
    startsWithDigit (c :: cs) = c.isDigit := by
  simp [startsWithDigit]

/-- The codes of the digits. -/
theorem toNat_of_isDigit {c : Char} (h : c.isDigit = true) : 48 ≤ c.toNat ∧ c.toNat ≤ 57 := by
  simpa [Char.isDigit, UInt32.le_iff_toNat_le] using h

/-- A given character is read where it stands. -/
@[simp] theorem char?_cons_self (c : Char) (cs : List Char) : char? c (c :: cs) = some cs :=
  if_pos rfl

/-- A given character is read exactly from a text that starts with it. -/
theorem char?_eq_some_iff {c : Char} {cs rest : List Char} :
    char? c cs = some rest ↔ cs = c :: rest := by
  cases cs with
  | nil => simp [char?]
  | cons d cs => simp [char?]

/-- A text without blanks has none at its start. -/
theorem trimStart_of_not_blank {cs : List Char} (h : ∀ c ∈ cs, isBlank c = false) :
    trimStart cs = cs := by
  cases cs with
  | nil => rfl
  | cons c cs => exact trimStart_cons_of_not_blank (h c List.mem_cons_self)

private theorem trimStart_append_of_blank {front : List Char} (h : ∀ c ∈ front, isBlank c = true)
    (cs : List Char) :
    trimStart (front ++ cs) = trimStart cs :=
  List.dropWhile_append_of_pos h

/-- A text between blanks is left as it is, if it has no blanks of its own. -/
theorem trim_append_of_blank {front cs back : List Char} (hfront : ∀ c ∈ front, isBlank c = true)
    (hcs : ∀ c ∈ cs, isBlank c = false) (hback : ∀ c ∈ back, isBlank c = true) :
    trim (front ++ (cs ++ back)) = cs := by
  have hend : trimEnd (cs ++ back) = cs := by
    rw [trimEnd, List.reverse_append, trimStart_append_of_blank fun c hc ↦
      hback c (List.mem_reverse.mp hc),
      trimStart_of_not_blank fun c hc ↦ hcs c (List.mem_reverse.mp hc), List.reverse_reverse]
  rw [trim, trimStart_append_of_blank hfront]
  cases cs with
  | nil =>
    have hblank := trimStart_append_of_blank hback []
    rw [List.append_nil] at hblank
    rw [List.nil_append, hblank]
    rfl
  | cons c cs =>
    rw [List.cons_append, trimStart_cons_of_not_blank (hcs c List.mem_cons_self),
      ← List.cons_append, hend]

/-- A text without blanks is left as it is. -/
theorem trim_of_not_blank {cs : List Char} (h : ∀ c ∈ cs, isBlank c = false) : trim cs = cs := by
  have htrim :=
    trim_append_of_blank (List.forall_mem_nil (isBlank · = true)) h
      (List.forall_mem_nil (isBlank · = true))
  rwa [List.nil_append, List.append_nil] at htrim

/-- If a text has no blanks at its start, then its beginnings have none. -/
theorem trimStart_of_append {cs rest : List Char} (h : trimStart (cs ++ rest) = cs ++ rest) :
    trimStart cs = cs := by
  cases cs with
  | nil => rfl
  | cons c cs =>
    cases hc : isBlank c with
    | false => exact trimStart_cons_of_not_blank hc
    | true =>
      rw [List.cons_append, trimStart_cons_of_blank hc] at h
      have hsuffix : trimStart (cs ++ rest) <:+ cs ++ rest := List.dropWhile_suffix isBlank
      have hlength := hsuffix.length_le
      rw [h, List.length_cons] at hlength
      omega

/-- A trimmed text has no blanks at its start. -/
theorem trimStart_trim (cs : List Char) : trimStart (trim cs) = trim cs := by
  obtain ⟨tail, htail⟩ := List.dropWhile_suffix isBlank (l := (trimStart cs).reverse)
  have happend : trim cs ++ tail.reverse = trimStart cs := by
    rw [trim, trimEnd, trimStart, ← List.reverse_append, htail, List.reverse_reverse]
  have hstart : trimStart (trimStart cs) = trimStart cs := List.dropWhile_idempotent _ _
  rw [← happend] at hstart
  exact trimStart_of_append hstart

/-- A digit is no blank. -/
theorem isBlank_of_isDigit {c : Char} (h : c.isDigit = true) : isBlank c = false := by
  have hrange := toNat_of_isDigit h
  simp only [isBlank, Bool.or_eq_false_iff, Bool.and_eq_false_iff, decide_eq_false_iff_not,
    beq_eq_false_iff_ne]
  omega

/-- A text starts with the digits at its start. -/
theorem startsWithDigit_append {ds : List Char} (hds : ∀ c ∈ ds, c.isDigit = true)
    (hlength : 0 < ds.length) (rest : List Char) : startsWithDigit (ds ++ rest) = true := by
  match ds with
  | c :: ds => exact (startsWithDigit_cons c _).trans (hds c List.mem_cons_self)

/-- The digits of a number start with one. -/
theorem startsWithDigit_decimal (n : Nat) : startsWithDigit (decimal n) = true := by
  have h := startsWithDigit_append (fun _ ↦ isDigit_of_mem_decimal)
    (Nat.length_toDigits_pos : 0 < (decimal n).length) []
  rwa [List.append_nil] at h

/-- A text that starts with a digit has no blanks at its start. -/
theorem trimStart_of_startsWithDigit {cs : List Char} (h : startsWithDigit cs = true) :
    trimStart cs = cs := by
  match cs with
  | c :: cs =>
    exact trimStart_cons_of_not_blank (isBlank_of_isDigit (startsWithDigit_cons c cs ▸ h))

/-- Digits are a run of their own before a rest that starts with none. -/
theorem leadingDigits_append {ds rest : List Char} (hds : ∀ c ∈ ds, c.isDigit = true)
    (hrest : startsWithDigit rest = false) : leadingDigits (ds ++ rest) = ds := by
  rw [leadingDigits, List.takeWhile_append_of_pos hds]
  cases rest with
  | nil => simp
  | cons c rest => simp_all

/-- A text of digits is the run of digits at its start. -/
theorem leadingDigits_of_isDigit {ds : List Char} (hds : ∀ c ∈ ds, c.isDigit = true) :
    leadingDigits ds = ds := by
  have hrun := leadingDigits_append hds startsWithDigit_nil
  rwa [List.append_nil] at hrun

/-- A run is not made shorter by what follows the text. -/
theorem length_leadingDigits_le_append (cs rest : List Char) :
    (leadingDigits cs).length ≤ (leadingDigits (cs ++ rest)).length := by
  rw [leadingDigits, leadingDigits, List.takeWhile_append]
  split
  · next h => simp [h]
  · exact Nat.le_refl _

/-- The value of a run is less than the power of ten of its length. -/
theorem digitsValue_lt {ds : List Char} (hds : ∀ c ∈ ds, c.isDigit = true) :
    digitsValue ds < 10 ^ ds.length := by
  -- A number before the run is multiplied by the power, and the run adds less than the power to it.
  have hfrom (init : Nat) : Nat.ofDigitChars 10 ds init < (init + 1) * 10 ^ ds.length := by
    induction ds generalizing init with
    | nil => simp [Nat.ofDigitChars_nil]
    | cons c ds ih =>
      rw [List.forall_mem_cons] at hds
      have hc : c.toNat - '0'.toNat < 10 := by
        have := toNat_of_isDigit hds.1
        simp only [Char.reduceToNat]
        omega
      rw [Nat.ofDigitChars_cons]
      calc Nat.ofDigitChars 10 ds (10 * init + (c.toNat - '0'.toNat))
          < (10 * init + (c.toNat - '0'.toNat) + 1) * 10 ^ ds.length := ih hds.2 _
        _ ≤ ((init + 1) * 10) * 10 ^ ds.length := Nat.mul_le_mul_right _ (by omega)
        _ = (init + 1) * 10 ^ (c :: ds).length := by
          rw [List.length_cons, Nat.pow_succ', Nat.mul_assoc]
  simpa [digitsValue] using hfrom 0

section Number

variable {least most n : Nat} {cs ds rest : List Char}

private theorem leadingDigits_take_append (hds : ∀ c ∈ ds, c.isDigit = true)
    (hlength : ds.length ≤ most) (hrest : ds.length = most ∨ startsWithDigit rest = false) :
    leadingDigits ((ds ++ rest).take most) = ds := by
  rw [List.take_append, List.take_of_length_le hlength]
  apply leadingDigits_append hds
  rcases hrest with rfl | hrest
  · simp
  · cases h : most - ds.length with
    | zero => simp
    | succ k => cases rest <;> simp_all

private theorem exists_leadingDigits_take_append (most : Nat) (cs : List Char) :
    ∃ rest, leadingDigits (cs.take most) ++ rest = cs ∧
      ((leadingDigits (cs.take most)).length = most ∨ startsWithDigit rest = false) := by
  induction cs generalizing most with
  | nil => exact ⟨[], by rw [List.take_nil]; rfl, .inr rfl⟩
  | cons c cs ih =>
    cases most with
    | zero => exact ⟨c :: cs, rfl, .inl rfl⟩
    | succ most =>
      rw [List.take_succ_cons]
      by_cases hc : c.isDigit = true
      · obtain ⟨rest, hcs, hrest⟩ := ih most
        rw [leadingDigits, List.takeWhile_cons_of_pos hc, ← leadingDigits]
        exact ⟨rest, congrArg (c :: ·) hcs, hrest.imp_left (congrArg (· + 1))⟩
      · rw [leadingDigits, List.takeWhile_cons_of_neg hc]
        exact ⟨c :: cs, rfl, .inr ((startsWithDigit_cons c cs).trans (by simpa using hc))⟩

/-- A number is read exactly if the text is a run of digits and a rest: the run has an admitted
length, and has the greatest one if the rest would continue it. -/
theorem number?_eq_some_iff :
    number? least most cs = some (n, rest) ↔
      ∃ ds, cs = ds ++ rest ∧ (∀ c ∈ ds, c.isDigit = true) ∧ least ≤ ds.length ∧ ds.length ≤ most ∧
        digitsValue ds = n ∧ (ds.length = most ∨ startsWithDigit rest = false) := by
  constructor
  · intro h
    obtain ⟨tail, hcs, htail⟩ := exists_leadingDigits_take_append most cs
    have hmost : (leadingDigits (cs.take most)).length ≤ most :=
      (List.takeWhile_prefix _).length_le.trans (List.length_take_le most cs)
    have hds : ∀ c ∈ leadingDigits (cs.take most), c.isDigit = true :=
      fun _ ↦ isDigit_of_mem_leadingDigits
    rw [number?] at h
    generalize leadingDigits (cs.take most) = ds at *
    subst hcs
    rw [List.drop_left] at h
    obtain ⟨hleast, heq⟩ := Option.ite_none_left_eq_some.mp h
    obtain ⟨rfl, rfl⟩ := Prod.mk.inj (Option.some.inj heq)
    exact ⟨ds, rfl, hds, Nat.le_of_not_lt hleast, hmost, rfl, htail⟩
  · rintro ⟨ds, rfl, hds, hleast, hmost, rfl, hrest⟩
    rw [number?, leadingDigits_take_append hds hmost hrest, if_neg (by omega), List.drop_left]

/-- A number without a greatest length is read exactly from a whole run of digits. -/
theorem number?_length_eq_some_iff :
    number? 1 cs.length cs = some (n, rest) ↔
      ∃ ds, cs = ds ++ rest ∧ (∀ c ∈ ds, c.isDigit = true) ∧ 0 < ds.length ∧ digitsValue ds = n ∧
        startsWithDigit rest = false := by
  rw [number?_eq_some_iff]
  constructor
  · rintro ⟨ds, rfl, hds, hlength, -, hn, hall | hrest⟩
    · have : rest = [] := by simpa using hall
      exact ⟨ds, rfl, hds, hlength, hn, this ▸ rfl⟩
    · exact ⟨ds, rfl, hds, hlength, hn, hrest⟩
  · rintro ⟨ds, rfl, hds, hlength, hn, hrest⟩
    exact ⟨ds, rfl, hds, hlength, by simp, hn, .inr hrest⟩

end Number

/-! ### Leading zeros -/

section Padded

variable {width n : Nat} {rest : List Char}

/-- The characters of a padded number are digits. -/
theorem isDigit_of_mem_padded {c : Char} (h : c ∈ padded width n) : c.isDigit = true := by
  rw [padded, List.leftpad, List.mem_append, List.mem_replicate] at h
  rcases h with ⟨-, rfl⟩ | h
  · rfl
  · exact isDigit_of_mem_decimal h

/-- Leading zeros do not count. -/
theorem digitsValue_padded (width n : Nat) : digitsValue (padded width n) = n := by
  rw [padded, List.leftpad, digitsValue, Nat.ofDigitChars_append, Nat.ofDigitChars_replicate_zero]
  simpa [digitsValue] using digitsValue_decimal n

/-- A number that fits a width takes all of it. -/
theorem length_padded (hwidth : 0 < width) (hn : n < 10 ^ width) :
    (padded width n).length = width := by
  rw [padded, List.length_leftpad, Nat.max_eq_left]
  exact (Nat.length_toDigits_le_iff (by decide) hwidth).mpr hn

/-- A padded number is read back if its length is admitted and nothing continues it. -/
theorem number?_padded {least most : Nat} (hleast : least ≤ (padded width n).length)
    (hmost : (padded width n).length ≤ most)
    (hrest : (padded width n).length = most ∨ startsWithDigit rest = false) :
    number? least most (padded width n ++ rest) = some (n, rest) :=
  number?_eq_some_iff.mpr ⟨_, rfl, fun _ ↦ isDigit_of_mem_padded, hleast, hmost,
    digitsValue_padded width n, hrest⟩

/-- A padded number starts with a digit. -/
theorem startsWithDigit_padded (hwidth : 0 < width) (n : Nat) (rest : List Char) :
    startsWithDigit (padded width n ++ rest) = true := by
  apply startsWithDigit_append fun _ ↦ isDigit_of_mem_padded
  rw [padded, List.length_leftpad]
  omega

end Padded

end CoverageSubset.Text

import CoverageSubset.Proofs.Instant.Years

/-!
# Literals without a dash

Every form of a time literal but the last has a date in it, and so a dash after its first character.
A text without one is read as a period or not at all: digits alone are the first instant of a year
if there are four of them at least and the year is in range, and digits after a sign are no time.
-/

namespace CoverageSubset.Instant

open Text CivilTime

variable {cs ds : List Char} {t : Instant} {year : Int}

/-! ### First instants -/

/-- The instant is the first one of a year. -/
structure BeginsYear (t : Instant) (year : Int) : Prop where
  day_eq : t.day = Date.daysBeforeYear year
  second_eq : t.second = 0
  nano_eq : t.nano = 0

/-- The midnight that a year starts with is its first instant, if the year is in range. -/
theorem toInstant?_firstOfYear :
    (midnight ⟨year, 1, 1⟩).toInstant? = some t ↔
    (-262143 ≤ year ∧ year ≤ 262142) ∧ t.BeginsYear year := by
  have hfirst := Date.isValid_firstOfYear year
  have hday : Date.toDayNumber ⟨year, 1, 1⟩ = Date.daysBeforeYear year := by
    rw [Date.toDayNumber_eq hfirst]
    simp [Date.daysBeforeMonth, Date.daysInMonth]
  rw [toInstant?_eq_some_iff, isValid_iff, unixSeconds_eq_iff]
  simp only [midnight, secondsFromMidnight, instantNano, hfirst, hday, true_and]
  constructor
  · rintro ⟨⟨hlow, hhigh, -⟩, ⟨hday, hsecond⟩, hnano⟩
    exact ⟨⟨hlow, hhigh⟩, by omega, by omega, hnano⟩
  · rintro ⟨⟨hlow, hhigh⟩, hday, hsecond, hnano⟩
    exact ⟨⟨hlow, hhigh, by omega⟩, by omega, hnano⟩

/-- Every year in range, from the year zero on, has a first instant. -/
theorem exists_beginsYear (h0 : 0 ≤ year) (h : year ≤ 262142) :
    ∃ t : Instant, t.BeginsYear year := by
  have hbounds : -719528 ≤ Date.daysBeforeYear year ∧ Date.daysBeforeYear year ≤ 95026236 := by
    simp only [Date.daysBeforeYear, Date.leapYearsBefore]
    omega
  have hlow : Date.toDayNumber ⟨-262143, 1, 1⟩ ≤ Date.daysBeforeYear year := by
    change -96465292 ≤ _
    omega
  exact ⟨⟨Date.daysBeforeYear year, 0, 0, hlow, hbounds.2, by decide, by decide⟩, rfl, rfl, rfl⟩

/-! ### Texts without a dash -/

private theorem mem_tail_append {front more : List Char} {c : Char} (h : 0 < front.length) :
    c ∈ (front ++ c :: more).tail := by
  match front with
  | d :: front => exact List.mem_append_right front List.mem_cons_self

private theorem zoned?_eq_none (h : '-' ∉ cs.tail) : zoned? cs = none := by
  refine Option.eq_none_iff_forall_ne_some.mpr fun c hread ↦ h ?_
  obtain ⟨⟨year, afterYear⟩, hyear, hread⟩ := Option.bind_eq_some_iff.mp hread
  obtain ⟨more, hdash, -⟩ := Option.bind_eq_some_iff.mp hread
  obtain ⟨ds, rfl, -, hlength, -⟩ := number?_eq_some_iff.mp hyear
  rw [char?_eq_some_iff.mp hdash]
  exact mem_tail_append (by omega)

private theorem datePart?_eq_none (htrim : trimStart cs = cs) (h : '-' ∉ cs.tail) :
    datePart? cs = none := by
  refine Option.eq_none_iff_forall_ne_some.mpr fun p hread ↦ h ?_
  obtain ⟨-, sign, ds, more, -, rfl, -, hlength⟩ := exists_year_of_datePart? htrim hread
  rw [← List.append_assoc]
  exact mem_tail_append (by rw [List.length_append]; omega)

/-- A text without a dash after its first character, or a `Z` at its end, is read as a period. -/
theorem ofTrimmed?_of_no_dash (htrim : trimStart cs = cs) (hdash : '-' ∉ cs.tail)
    (hzulu : withoutZulu cs = cs) :
    ofTrimmed? cs = (period? cs).bind toInstant? := by
  rw [ofTrimmed?, hzulu, zoned?_eq_none hdash, unzoned?, date?, datePart?_eq_none htrim hdash]
  simp only [Option.bind_eq_bind, Option.bind_none, Option.none_or]

/-! ### Digits -/

private theorem not_mem_of_isDigit_eq_false (hds : ∀ c ∈ ds, c.isDigit = true) {c : Char}
    (hc : c.isDigit = false) : c ∉ ds :=
  fun hmem ↦ absurd (hds c hmem) (by simp [hc])

/-- Digits are read as a year if there are four at least. -/
theorem ofTrimmed?_of_isDigit (hds : ∀ c ∈ ds, c.isDigit = true) :
    ofTrimmed? ds =
      if 4 ≤ ds.length then (midnight ⟨digitsValue ds, 1, 1⟩).toInstant? else none := by
  rw [ofTrimmed?_of_no_dash, period?, leadingDigits_of_isDigit hds, List.drop_length]
  · split
    · next h => rw [if_neg (Nat.not_le_of_lt h), Option.bind_none]
    · next h => rw [if_pos (Nat.le_of_not_lt h), Option.bind_some]
  · exact trimStart_of_not_blank fun c hc ↦ isBlank_of_isDigit (hds c hc)
  · exact fun hmem ↦ not_mem_of_isDigit_eq_false hds rfl (List.mem_of_mem_tail hmem)
  · exact withoutZulu_of_getLast?_ne fun hlast ↦
      not_mem_of_isDigit_eq_false hds rfl (List.mem_of_getLast? hlast)

/-- Digits after a sign are not read. -/
theorem ofTrimmed?_of_sign {sign : Char} (hsign : sign ∈ ['-', '+'])
    (hds : ∀ c ∈ ds, c.isDigit = true) :
    ofTrimmed? (sign :: ds) = none := by
  have hnodigit : sign.isDigit = false ∧ isBlank sign = false ∧ sign ≠ 'Z' := by
    rcases List.mem_pair.mp hsign with rfl | rfl <;> decide
  have hrun : leadingDigits (sign :: ds) = [] := by simp [leadingDigits, hnodigit.1]
  rw [ofTrimmed?_of_no_dash, period?, hrun]
  · rfl
  · exact trimStart_cons_of_not_blank hnodigit.2.1
  · exact not_mem_of_isDigit_eq_false hds rfl
  · refine withoutZulu_of_getLast?_ne fun hlast ↦ ?_
    rcases List.mem_cons.mp (List.mem_of_getLast? hlast) with hZ | hmem
    · exact hnodigit.2.2 hZ.symm
    · exact not_mem_of_isDigit_eq_false hds rfl hmem

end CoverageSubset.Instant

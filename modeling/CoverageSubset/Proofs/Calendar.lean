import CoverageSubset.Calendar
import Mathlib.Tactic.IntervalCases

/-!
# Day numbers and dates

Every day number belongs to a date that exists, and the date gives the number back. A day number is
split into cycles of four hundred years, centuries, groups of four years, years and days, the years
counted from March: the last day of such a year is the leap day.

The day number of a date that exists is what one counts: the days of the years since 1970, with a
leap day for each leap year, the days of the months before, and the days of the month before.
-/

namespace CoverageSubset.Date

/-- A date exists exactly if its day is one of its month. -/
theorem isValid_iff {d : Date} :
    d.isValid = true ↔ 1 ≤ d.day ∧ d.day ≤ daysInMonth d.year d.month := by
  rw [isValid, Bool.and_eq_true, decide_eq_true_eq, decide_eq_true_eq]

private theorem daysInMonth_february (year : Int) :
    daysInMonth year 2 = 28 + (isLeapYear year).toNat := by
  rw [daysInMonth, if_pos rfl]
  cases isLeapYear year <;> rfl

/-- The months of the dates that exist are numbered from one to twelve. -/
theorem month_of_isValid {d : Date} (h : d.isValid = true) : 1 ≤ d.month ∧ d.month ≤ 12 := by
  rw [isValid_iff, daysInMonth] at h
  split at h
  · omega
  · split at h
    · omega
    · split at h <;> omega

/-- No month has more than 31 days. -/
theorem day_le_of_isValid {d : Date} (h : d.isValid = true) : d.day ≤ 31 := by
  rw [isValid_iff, daysInMonth] at h
  split at h
  · split at h <;> omega
  · split at h
    · omega
    · split at h <;> omega

/-! ### Years from March -/

/-- The parts of a day number: cycles, and in the cycle centuries, groups of four years, years and
days. The last group of a century has no leap day, except in the last century. -/
structure Splits (n cycle century group year day : Int) : Prop where
  sum : n + 719468 = 146097 * cycle + 36524 * century + 1461 * group + 365 * year + day
  century_nonneg : 0 ≤ century
  century_le : century ≤ 3
  group_nonneg : 0 ≤ group
  group_le : group ≤ 24
  year_nonneg : 0 ≤ year
  year_le : year ≤ 3
  day_nonneg : 0 ≤ day
  day_le : day ≤ 365
  leap : day = 365 → year = 3 ∧ (group < 24 ∨ century = 3)

private theorem exists_splits (n : Int) :
    ∃ cycle century group year day, Splits n cycle century group year day := by
  obtain ⟨rest, hrest⟩ : ∃ rest, rest = (n + 719468) % 146097 := ⟨_, rfl⟩
  obtain ⟨century, hcentury⟩ : ∃ century, century = min (rest / 36524) 3 := ⟨_, rfl⟩
  obtain ⟨group, hgroup⟩ : ∃ group, group = (rest - 36524 * century) / 1461 := ⟨_, rfl⟩
  obtain ⟨year, hyear⟩ : ∃ year, year = min ((rest - 36524 * century - 1461 * group) / 365) 3 :=
    ⟨_, rfl⟩
  refine ⟨(n + 719468) / 146097, century, group, year,
    rest - 36524 * century - 1461 * group - 365 * year, ?_⟩
  constructor <;> omega

/-- The date of a day of a year that starts in March. -/
def ofMarchYear (year day : Int) : Date :=
  let month := (5 * day + 2) / 153
  let dayOfMonth := day - (153 * month + 2) / 5 + 1
  if month < 10 then ⟨year, (month + 3).toNat, dayOfMonth.toNat⟩
  else ⟨year + 1, (month - 9).toNat, dayOfMonth.toNat⟩

section Splits

variable {n cycle century group year day : Int}

private theorem Splits.cycle_eq (h : Splits n cycle century group year day) :
    (n + 719468) / 146097 = cycle ∧
      (n + 719468) % 146097 = 36524 * century + 1461 * group + 365 * year + day := by
  have hsum := h.sum
  have hcentury := h.century_le
  have hgroup := h.group_le
  have hyear := h.year_le
  have hday := h.day_le
  have hlt : 36524 * century + 1461 * group + 365 * year + day < 146097 := by omega
  have hnonneg : 0 ≤ 36524 * century + 1461 * group + 365 * year + day := by
    have := h.century_nonneg
    have := h.group_nonneg
    have := h.year_nonneg
    have := h.day_nonneg
    omega
  omega

private theorem Splits.yearOfCycle_eq (h : Splits n cycle century group year day) :
    let z := 36524 * century + 1461 * group + 365 * year + day
    (z - z / 1460 + z / 36524 - z / 146096) / 365 = 100 * century + 4 * group + year := by
  obtain ⟨-, hc0, hc, hq0, hq, hy0, hy, hd0, hd, hleap⟩ := h
  intro z
  have hfour : z / 1460 =
      25 * century + group + (24 * century + group + 365 * year + day) / 1460 := by omega
  have hcentury : z / 36524 - z / 146096 = century := by
    rcases Int.lt_or_le (1461 * group + 365 * year + day) 36524 with hlt | hle
    · have h0 : z / 36524 = century := by omega
      have h1 : z / 146096 = 0 := by omega
      omega
    · -- Only the very last day of a cycle is that far into its century.
      obtain rfl : group = 24 := by omega
      obtain rfl : year = 3 := by omega
      obtain rfl : day = 365 := by omega
      obtain rfl : century = 3 := by omega
      decide
  -- What is left of the leap days is at most one, and it is one on a leap day.
  have hrest : (24 * century + group + 365 * year + day) / 1460 = 0 ∨
      (24 * century + group + 365 * year + day) / 1460 = 1 := by omega
  have hlow : 0 ≤ day - (24 * century + group + 365 * year + day) / 1460 := by omega
  have hhigh : day - (24 * century + group + 365 * year + day) / 1460 ≤ 364 := by omega
  omega

private theorem Splits.ofDayNumber_eq (h : Splits n cycle century group year day) :
    ofDayNumber n = ofMarchYear (400 * cycle + (100 * century + 4 * group + year)) day := by
  obtain ⟨hcycle, hrest⟩ := h.cycle_eq
  have hyear := h.yearOfCycle_eq
  have hy0 := h.year_nonneg
  have hy := h.year_le
  have hfour : (100 * century + 4 * group + year) / 4 = 25 * century + group := by omega
  have hcentury : (100 * century + 4 * group + year) / 100 = century := by
    have := h.group_nonneg
    have := h.group_le
    omega
  have hday : 36524 * century + 1461 * group + 365 * year + day -
      (365 * (100 * century + 4 * group + year) + (25 * century + group) - century) = day := by
        omega
  rw [ofDayNumber, ofMarchYear, hrest, hcycle]
  simp only [hyear, hfour, hcentury, hday]

end Splits

private theorem toDayNumber_ofMarchYear {year day : Int} (h0 : 0 ≤ day) (h : day ≤ 365) :
    (ofMarchYear year day).toDayNumber =
      365 * year + year / 4 - year / 100 + year / 400 + day - 719468 := by
  obtain ⟨month, hmonth⟩ : ∃ month, month = (5 * day + 2) / 153 := ⟨_, rfl⟩
  have hm0 : 0 ≤ month := by omega
  have hm : month ≤ 11 := by omega
  have hday : 0 ≤ day - (153 * month + 2) / 5 := by omega
  rw [ofMarchYear, ← hmonth]
  split
  · have hafter : ¬ (month + 3).toNat ≤ 2 := by omega
    have hback : (((month + 3).toNat : Int) + 9) % 12 = month := by omega
    simp only [toDayNumber]
    rw [if_neg hafter, hback]
    omega
  · have hbefore : (month - 9).toNat ≤ 2 := by omega
    have hback : (((month - 9).toNat : Int) + 9) % 12 = month := by omega
    simp only [toDayNumber]
    rw [if_pos hbefore, hback, Int.add_sub_cancel]
    omega

private theorem isValid_ofMarchYear {year day : Int} (h0 : 0 ≤ day) (h : day ≤ 365)
    (hleap : day = 365 → isLeapYear (year + 1) = true) : (ofMarchYear year day).isValid = true := by
  obtain ⟨month, hmonth⟩ : ∃ month, month = (5 * day + 2) / 153 := ⟨_, rfl⟩
  have hm0 : 0 ≤ month := by omega
  have hm : month ≤ 11 := by omega
  have hlast : day ≤ 336 + daysInMonth (year + 1) 2 := by
    rw [daysInMonth_february]
    by_cases hday : day = 365
    · rw [hleap hday]
      exact h
    · omega
  rw [isValid_iff, ofMarchYear, ← hmonth]
  rcases Int.lt_or_le month 11 with hlt | hle
  · clear hlast
    interval_cases month <;> simp [daysInMonth] <;> omega
  · obtain rfl : month = 11 := by omega
    simp only [Int.reduceLT, if_false, Int.reduceSub, Int.reduceToNat]
    omega

/-! ### Day numbers and dates -/

/-- The date of a day number exists, and has that number. -/
theorem isValid_ofDayNumber_and_toDayNumber (n : Int) :
    (ofDayNumber n).isValid = true ∧ (ofDayNumber n).toDayNumber = n := by
  obtain ⟨cycle, century, group, year, day, h⟩ := exists_splits n
  have hy0 := h.year_nonneg
  have hy := h.year_le
  have hq0 := h.group_nonneg
  have hq := h.group_le
  rw [h.ofDayNumber_eq]
  constructor
  · apply isValid_ofMarchYear h.day_nonneg h.day_le
    intro hday
    have hleap := h.leap hday
    have hc0 := h.century_nonneg
    have hc := h.century_le
    simp only [isLeapYear, Bool.and_eq_true, Bool.or_eq_true, decide_eq_true_eq]
    omega
  · rw [toDayNumber_ofMarchYear h.day_nonneg h.day_le]
    have hfour : (400 * cycle + (100 * century + 4 * group + year)) / 4 =
      100 * cycle + 25 * century + group := by omega
    have hcentury : (400 * cycle + (100 * century + 4 * group + year)) / 100 =
      4 * cycle + century := by omega
    have hcycle : (400 * cycle + (100 * century + 4 * group + year)) / 400 = cycle := by
      have := h.century_nonneg
      have := h.century_le
      omega
    have hsum := h.sum
    omega

/-- The year of a day in the range of instants is in range. -/
theorem year_ofDayNumber {n : Int} (hfirst : toDayNumber ⟨-262143, 1, 1⟩ ≤ n)
    (hlast : n ≤ toDayNumber ⟨262142, 12, 31⟩) :
    -262143 ≤ (ofDayNumber n).year ∧ (ofDayNumber n).year ≤ 262142 := by
  obtain ⟨cycle, century, group, year, day, h⟩ := exists_splits n
  replace hfirst : -96465292 ≤ n := hfirst
  replace hlast : n ≤ 95026236 := hlast
  rw [h.ofDayNumber_eq, ofMarchYear]
  obtain ⟨hsum, hc0, hc, hq0, hq, hy0, hy, hd0, hd, -⟩ := h
  -- The first year in range starts in January, after ten months from March, and the last one ends
  -- after these.
  have hhigh : 400 * cycle + (100 * century + 4 * group + year) + 1 ≤ 262142 ∨
      400 * cycle + (100 * century + 4 * group + year) = 262142 ∧ day ≤ 305 := by
    clear hfirst
    omega
  have hlow : -262143 ≤ 400 * cycle + (100 * century + 4 * group + year) ∨
      400 * cycle + (100 * century + 4 * group + year) = -262144 ∧ 306 ≤ day := by
    clear hlast hhigh
    omega
  clear hsum
  split <;> dsimp only
  · constructor
    · rcases hlow with hlow | ⟨-, hday⟩ <;> omega
    · rcases hhigh with hhigh | ⟨hhigh, -⟩ <;> omega
  · constructor
    · rcases hlow with hlow | ⟨hlow, -⟩ <;> omega
    · rcases hhigh with hhigh | ⟨-, hday⟩ <;> omega

/-- The day numbers of the dates that exist in the years 0 to 9999. -/
theorem toDayNumber_bounds {d : Date} (h : d.isValid = true) (hfirst : 0 ≤ d.year)
    (hlast : d.year ≤ 9999) :
    toDayNumber ⟨0, 1, 1⟩ ≤ d.toDayNumber ∧ d.toDayNumber ≤ toDayNumber ⟨9999, 12, 31⟩ := by
  obtain ⟨hm1, hm⟩ := month_of_isValid h
  obtain ⟨hd1, -⟩ := isValid_iff.mp h
  have hd := day_le_of_isValid h
  have hcentury (year : Int) : year / 4 = 25 * (year / 100) + year % 100 / 4 := by omega
  change -719528 ≤ d.toDayNumber ∧ d.toDayNumber ≤ 2932896
  rw [toDayNumber]
  split
  · have hmonth : ((d.month : Int) + 9) % 12 = d.month + 9 := by omega
    have := hcentury (d.year - 1)
    omega
  · have hmonth : ((d.month : Int) + 9) % 12 = d.month - 3 := by omega
    have := hcentury d.year
    omega

/-! ### Counting days -/

/-- The number of leap years before a year, counted from year one. -/
def leapYearsBefore (year : Int) : Int := (year - 1) / 4 - (year - 1) / 100 + (year - 1) / 400

/-- The days from the start of 1970 to the start of a year. -/
def daysBeforeYear (year : Int) : Int :=
  365 * (year - 1970) + (leapYearsBefore year - leapYearsBefore 1970)

/-- The days of a year before a month. -/
def daysBeforeMonth (year : Int) (month : Nat) : Nat :=
  ((List.range month).map (daysInMonth year)).sum

private theorem leapYearsBefore_add_one (year : Int) :
    leapYearsBefore (year + 1) = leapYearsBefore year + (isLeapYear year).toNat := by
  rw [leapYearsBefore, leapYearsBefore, isLeapYear]
  by_cases h4 : year % 4 = 0 <;> by_cases h100 : year % 100 = 0 <;> by_cases h400 :
    year % 400 = 0 <;>
    simp [h4, h100, h400] <;> omega

private theorem daysBeforeMonth_add_one (year : Int) (month : Nat) :
    daysBeforeMonth year (month + 1) = daysBeforeMonth year month + daysInMonth year month := by
  simp [daysBeforeMonth, List.range_succ]

private theorem daysBeforeMonth_add_three (year : Int) {k : Nat} (hk : k ≤ 9) :
    daysBeforeMonth year (k + 3) = 59 + (isLeapYear year).toNat + (153 * k + 2) / 5 := by
  induction k with
  | zero =>
    have hfirst : daysBeforeMonth year 2 = 31 := rfl
    rw [daysBeforeMonth_add_one, daysInMonth_february, hfirst]
    omega
  | succ k ih =>
    have hlt : k < 9 := hk
    have hlength : daysInMonth year (k + 3) = (153 * (k + 1) + 2) / 5 - (153 * k + 2) / 5 := by
      clear ih
      interval_cases k <;> rfl
    rw [Nat.add_right_comm, daysBeforeMonth_add_one, ih (Nat.le_of_lt hlt), hlength]
    omega

/-- The day number of a date that exists counts the days before its year, those of the year before
its month, and those of the month before it. -/
theorem toDayNumber_eq {d : Date} (h : d.isValid = true) :
    d.toDayNumber = daysBeforeYear d.year + daysBeforeMonth d.year d.month + (d.day - 1) := by
  obtain ⟨year, month, day⟩ := d
  obtain ⟨hm1, hm⟩ := month_of_isValid h
  replace hm1 : 1 ≤ month := hm1
  replace hm : month ≤ 12 := hm
  have hleap := leapYearsBefore_add_one year
  simp only [leapYearsBefore, Int.add_sub_cancel] at hleap
  simp only [toDayNumber, daysBeforeYear, leapYearsBefore]
  -- The day number counts from March, so January and February belong to the year before.
  rcases Nat.lt_or_ge month 3 with hlt | hge
  · obtain rfl | rfl : month = 1 ∨ month = 2 := by omega
    · have hbefore : daysBeforeMonth year 1 = 0 := rfl
      rw [hbefore, if_pos (by decide)]
      omega
    · have hbefore : daysBeforeMonth year 2 = 31 := rfl
      rw [hbefore, if_pos (by decide)]
      omega
  · obtain ⟨k, rfl⟩ := Nat.exists_eq_add_of_le' hge
    have hmarch : (((k + 3 : Nat) : Int) + 9) % 12 = k := by omega
    rw [daysBeforeMonth_add_three year (Nat.le_of_add_le_add_right hm), if_neg (by omega), hmarch]
    omega

end CoverageSubset.Date

import CoverageSubset.Proofs.Instant.Civil
import CoverageSubset.Proofs.Instant.FullWidth

/-!
# What time literals mean

A literal in full width with a plain year denotes the instant of its civil time: a date and a time
of day with a zone or without, a date, a month, a year. Each form is refused by the forms tried
before its own.
-/

namespace CoverageSubset

open Text CivilTime

/-! ### Civil times in range -/

private theorem Zone.seconds_bounds (z : Zone) : -86400 < z.seconds ∧ z.seconds < 86400 := by
  match z with
  | utc => decide
  | offset true hours minutes =>
    simp only [seconds]
    omega
  | offset false hours minutes =>
    simp only [seconds]
    omega

namespace FullTime

variable {t : FullTime} {offset : Int} {i : Instant}

/-- The fields of a full time are a date and a time of day. -/
theorem isValid_civil (t : FullTime) (offset : Int) : (t.civil offset).isValid = true := by
  have hsecond : t.second.val ≤ 60 := by omega
  exact CivilTime.isValid_iff.mpr
    ⟨t.isValid_date, t.first_le_year, t.year_le_last, t.hour.isLt, t.minute.isLt, hsecond⟩

/-- The decimals are less than a second. -/
theorem nanosOfDecimals_lt (t : FullTime) : nanosOfDecimals t.decimals < 1000000000 :=
  CivilTime.nanosOfDecimals_lt t.isDigit_of_mem_decimals t.length_decimals_le

private theorem exists_toInstant?_civil (h : t.date.HasPlainYear) (hlow : -86400 < offset)
    (hhigh : offset < 86400) :
    ∃ i, (t.civil offset).toInstant? = some i := by
  obtain ⟨hfirst, hlast⟩ := Date.toDayNumber_bounds t.isValid_date h.1 h.2
  replace hfirst : -719528 ≤ t.date.toDayNumber := hfirst
  replace hlast : t.date.toDayNumber ≤ 2932896 := hlast
  obtain ⟨s, hs⟩ : ∃ s, s = (t.civil offset).secondsFromMidnight := ⟨_, rfl⟩
  have hs' : s = t.hour * 3600 + t.minute * 60 + min (t.second : Nat) 59 - offset := hs
  have hdays : -1 ≤ s / 86400 ∧ s / 86400 ≤ 1 := by omega
  have hnano := t.nanosOfDecimals_lt
  have hday₁ : Date.toDayNumber ⟨-262143, 1, 1⟩ ≤ t.date.toDayNumber + s / 86400 := by
    change -96465292 ≤ _
    omega
  have hday₂ : t.date.toDayNumber + s / 86400 ≤ Date.toDayNumber ⟨262142, 12, 31⟩ := by
    change _ ≤ (95026236 : Int)
    omega
  have hnano' : (t.civil offset).instantNano < 2000000000 := by
    change (if t.second.val = 60 then nanosOfDecimals t.decimals + 1000000000
      else nanosOfDecimals t.decimals) < _
    split <;> omega
  refine ⟨⟨t.date.toDayNumber + s / 86400, (s % 86400).toNat, _, hday₁, hday₂, by omega, hnano'⟩,
    ?_⟩
  rw [toInstant?_eq_some_iff, ← hs]
  refine ⟨t.isValid_civil offset, ?_, rfl⟩
  simp only [Instant.unixSeconds, civil]
  omega

private theorem toInstant?_civil_eq (hsecond : t.second.val ≤ 59)
    (h : (t.civil offset).toInstant? = some i) :
    i.unixSeconds =
        (Date.daysBeforeYear t.date.year + Date.daysBeforeMonth t.date.year t.date.month +
          (t.date.day - 1)) * 86400 + t.hour * 3600 + t.minute * 60 + t.second - offset ∧
      i.nano = nanosOfDecimals t.decimals := by
  obtain ⟨-, hseconds, hnano⟩ := toInstant?_eq_some_iff.mp h
  have hdays := Date.toDayNumber_eq t.isValid_date
  constructor
  · rw [hseconds, ← hdays]
    simp only [secondsFromMidnight, civil, Nat.min_eq_left hsecond]
    omega
  · rw [hnano, instantNano, if_neg]
    · rfl
    · change (t.second : Nat) ≠ 60
      omega

end FullTime

/-! ### The forms of a literal -/

namespace Instant

variable {cs : List Char} {d : Date} {i : Instant}

/-- A literal without blanks is read as it stands. -/
theorem ofLiteral?_ofList (h : ∀ c ∈ cs, isBlank c = false) :
    ofLiteral? (String.ofList cs) = ofTrimmed? cs := by
  rw [ofLiteral?, String.toList_ofList, trim_of_not_blank h]

private theorem withoutZulu_append (cs : List Char) : withoutZulu (cs ++ ['Z']) = cs := by
  rw [withoutZulu, List.getLast?_concat, if_pos rfl, List.dropLast_concat]

/-- A text without a `Z` at its end is left as it is. -/
theorem withoutZulu_of_getLast?_ne (h : cs.getLast? ≠ some 'Z') : withoutZulu cs = cs := if_neg h

/-- A text that ends in a padded number does not end in a `Z`. -/
theorem withoutZulu_append_padded {width : Nat} (hwidth : 0 < width) (cs : List Char) (n : Nat) :
    withoutZulu (cs ++ padded width n) = cs ++ padded width n := by
  apply withoutZulu_of_getLast?_ne
  have hne : padded width n ≠ [] := by
    have hdigit := startsWithDigit_padded hwidth n []
    rintro h
    rw [h] at hdigit
    cases hdigit
  intro hlast
  rw [List.getLast?_append_of_ne_nil _ hne] at hlast
  exact absurd (isDigit_of_mem_padded (List.mem_of_getLast? hlast)) (by decide)

/-- A date and a time of day with a zone. -/
theorem ofLiteral?_text_zone {t : FullTime} {z : Zone} (h : t.date.HasPlainYear)
    (hi : (t.civil z.seconds).toInstant? = some i) :
    ofLiteral? (String.ofList (t.text ++ z.text)) = some i := by
  rw [ofLiteral?_ofList, ofTrimmed?, t.zoned?_text h, Option.bind_some, hi, Option.some_or]
  intro c hc
  exact (List.mem_append.mp hc).elim FullTime.isBlank_of_mem_text Zone.isBlank_of_mem_text

/-- A date and a time of day without a zone. -/
theorem ofLiteral?_text {t : FullTime} (h : t.date.HasPlainYear)
    (hi : (t.civil 0).toInstant? = some i) :
    ofLiteral? (String.ofList t.text) = some i := by
  rw [ofLiteral?_ofList fun _ ↦ FullTime.isBlank_of_mem_text, ofTrimmed?, t.zoned?_text_nil h,
    Option.bind_none, Option.none_or, t.unzoned?_text, Option.bind_some, hi, Option.some_or]

private theorem zoned?_writtenDate (hd : d.isValid = true) (h : d.HasPlainYear)
    (hcs : (char? 'T' cs).or ((char? 't' cs).or (char? ' ' cs)) = none) :
    zoned? (writtenDate d ++ cs) = none := by
  rw [writtenDate_append]
  refine bind_eq_of_eq_some (h.number?_writtenYear _) ?_
  refine bind_eq_of_eq_some (char?_cons_self '-' _) ?_
  refine bind_eq_of_eq_some (twoDigits?_padded (Date.month_lt hd) _) ?_
  refine bind_eq_of_eq_some (char?_cons_self '-' _) ?_
  refine bind_eq_of_eq_some (twoDigits?_padded (Date.day_lt hd) _) ?_
  exact Option.bind_eq_none_iff.mpr fun _ heq ↦ absurd (hcs.symm.trans heq) (by simp)

private theorem unzoned?_writtenDate (hd : d.isValid = true) (hcs : char? 'T' cs = none) :
    unzoned? (writtenDate d ++ cs) = none := by
  simp only [unzoned?, datePart?_writtenDate hd, Option.bind_eq_bind, Option.bind_some, hcs,
    Option.bind_none]

private theorem date?_writtenDate (hd : d.isValid = true) :
    date? (writtenDate d) = some (midnight d) := by
  have hread := datePart?_writtenDate hd []
  rw [List.append_nil] at hread
  rw [date?, hread]
  rfl

/-- A date, with or without a `Z`. -/
theorem ofLiteral?_writtenDate (hd : d.isValid = true) (h : d.HasPlainYear)
    (hi : (midnight d).toInstant? = some i) :
    ofLiteral? (String.ofList (writtenDate d)) = some i ∧
      ofLiteral? (String.ofList (writtenDate d ++ ['Z'])) = some i := by
  have hread (cs : List Char)
    (hrefused : (char? 'T' cs).or ((char? 't' cs).or (char? ' ' cs)) = none)
      (hcs : char? 'T' cs = none) (hzulu : withoutZulu (writtenDate d ++ cs) = writtenDate d) :
      ofTrimmed? (writtenDate d ++ cs) = some i := by
    rw [ofTrimmed?, zoned?_writtenDate hd h hrefused, unzoned?_writtenDate hd hcs, hzulu,
      date?_writtenDate hd,
      Option.bind_none, Option.none_or, Option.none_or, Option.bind_some, hi, Option.some_or]
  constructor
  · have hplain : withoutZulu (writtenDate d) = writtenDate d := by
      rw [writtenDate, List.append_cons]
      exact withoutZulu_append_padded (by decide) _ _
    rw [ofLiteral?_ofList fun _ ↦ isBlank_of_mem_writtenDate]
    simpa using hread [] rfl rfl (by simpa using hplain)
  · rw [ofLiteral?_ofList]
    · exact hread ['Z'] rfl rfl (withoutZulu_append _)
    · intro c hc
      rcases List.mem_append.mp hc with hc | hc
      · exact isBlank_of_mem_writtenDate hc
      · obtain rfl := List.mem_singleton.mp hc
        rfl

private theorem leadingDigits_writtenYear (h : d.HasPlainYear) {rest : List Char}
    (hrest : startsWithDigit rest = false) :
    leadingDigits (writtenYear d.year ++ rest) = padded 4 d.year.toNat ∧
      (writtenYear d.year ++ rest).drop (padded 4 d.year.toNat).length = rest := by
  rw [h.writtenYear_eq]
  exact ⟨leadingDigits_append (fun _ ↦ isDigit_of_mem_padded) hrest, List.drop_left⟩

/-- What is refused as a date is read as a period. -/
theorem ofTrimmed?_period {c : CivilTime} (hzoned : zoned? cs = none) (hdate : datePart? cs = none)
    (hzulu : withoutZulu cs = cs) (hperiod : period? cs = some c) :
    ofTrimmed? cs = c.toInstant? := by
  rw [ofTrimmed?, hzulu, hzoned, unzoned?, date?, hdate, hperiod]
  simp only [Option.bind_eq_bind, Option.bind_none, Option.none_or, Option.bind_some]

/-- A year and a month. -/
theorem ofLiteral?_month (hd : d.isValid = true) (h : d.HasPlainYear) :
    ofLiteral? (String.ofList (writtenYear d.year ++ '-' :: padded 2 d.month)) =
      (midnight ⟨d.year, d.month, 1⟩).toInstant? := by
  have hyear := CivilTime.year?_writtenYear d.year (startsWithDigit_dash (padded 2 d.month))
  have htwo := twoDigits?_padded (Date.month_lt hd) []
  have hfield := field?_padded (Date.month_lt hd) []
  rw [List.append_nil] at htwo hfield
  obtain ⟨hdigits, hdrop⟩ := leadingDigits_writtenYear h (startsWithDigit_dash (padded 2 d.month))
  have hlength : (padded 2 d.month).length = 2 := length_padded (by decide) (Date.month_lt hd)
  have hall : (padded 2 d.month).all Char.isDigit = true :=
    List.all_eq_true.mpr fun _ ↦ isDigit_of_mem_padded
  rw [ofLiteral?_ofList]
  · apply ofTrimmed?_period
    · refine bind_eq_of_eq_some (h.number?_writtenYear _) ?_
      refine bind_eq_of_eq_some (char?_cons_self '-' _) ?_
      exact bind_eq_of_eq_some htwo rfl
    · refine bind_eq_of_eq_some hyear ?_
      refine bind_eq_of_eq_some (char?_cons_self '-' _) ?_
      exact bind_eq_of_eq_some hfield rfl
    · rw [List.append_cons]
      exact withoutZulu_append_padded (by decide) _ _
    · rw [period?, hdigits, hdrop, h.length_padded]
      simp only [hlength, hall, digitsValue_padded, Int.toNat_of_nonneg h.1]
      rfl
  · intro c hc
    rcases List.mem_append.mp hc with hc | hc
    · exact isBlank_of_mem_writtenYear hc
    · rcases List.mem_cons.mp hc with rfl | hc
      · rfl
      · exact isBlank_of_mem_padded hc

/-- A year. -/
theorem ofLiteral?_year (h : d.HasPlainYear) :
    ofLiteral? (String.ofList (writtenYear d.year)) = (midnight ⟨d.year, 1, 1⟩).toInstant? := by
  have hnumber := h.number?_writtenYear []
  have hyear := CivilTime.year?_writtenYear d.year startsWithDigit_nil
  obtain ⟨hdigits, hdrop⟩ := leadingDigits_writtenYear h startsWithDigit_nil
  rw [List.append_nil] at hnumber hyear hdigits hdrop
  rw [ofLiteral?_ofList fun _ ↦ isBlank_of_mem_writtenYear]
  apply ofTrimmed?_period
  · exact bind_eq_of_eq_some hnumber rfl
  · exact bind_eq_of_eq_some hyear rfl
  · rw [h.writtenYear_eq]
    exact withoutZulu_append_padded (by decide) [] _
  · rw [period?, hdigits, hdrop, h.length_padded, digitsValue_padded, Int.toNat_of_nonneg h.1]
    rfl

end Instant

/-! ### What the forms denote -/

private theorem Date.isValid_firstOfMonth {d : Date} (h : d.isValid = true) :
    Date.isValid ⟨d.year, d.month, 1⟩ = true := by
  rw [isValid_iff] at h ⊢
  exact ⟨Nat.le_refl 1, h.1.trans h.2⟩

/-- The first day of a year exists. -/
theorem Date.isValid_firstOfYear (year : Int) : Date.isValid ⟨year, 1, 1⟩ = true :=
  isValid_iff.mpr ⟨Nat.le_refl 1, by simp [daysInMonth]⟩

/-- Midnight in UTC, after a date. -/
def midnightZulu : List Char := ['T', '0', '0', ':', '0', '0', ':', '0', '0', 'Z']

/-- Midnight of a date in a plain year. -/
def FullTime.midnight (d : Date) (hd : d.isValid = true) (h : d.HasPlainYear) : FullTime where
  date := d
  hour := 0
  minute := 0
  second := 0
  decimals := []
  isValid_date := hd
  first_le_year := by have := h.1; omega
  year_le_last := by have := h.2; omega
  isDigit_of_mem_decimals := by simp
  length_decimals_le := by decide

namespace Instant

/-- The midnight of a date in a plain year is an instant, and its literal in full width is read as
that instant. -/
theorem exists_midnight {d : Date} (hd : d.isValid = true) (h : d.HasPlainYear) :
    ∃ i, (midnight d).toInstant? = some i ∧
      ofLiteral? (String.ofList (writtenDate d ++ midnightZulu)) = some i := by
  obtain ⟨i, hi⟩ := FullTime.exists_toInstant?_civil (t :=
    .midnight d hd h) h Zone.utc.seconds_bounds.1
    Zone.utc.seconds_bounds.2
  have htext : (FullTime.midnight d hd h).text ++ Zone.utc.text =
      writtenDate d ++ midnightZulu := by
    have hzero : padded 2 0 = ['0', '0'] := by decide
    have hclock : (FullTime.midnight d hd h).clock = ['0', '0', ':', '0', '0', ':', '0', '0'] := by
      change padded 2 0 ++ ':' :: (padded 2 0 ++ ':' :: (padded 2 0 ++ [])) = _
      rw [hzero]
      rfl
    rw [FullTime.text, hclock, List.append_assoc]
    rfl
  have hcivil : (FullTime.midnight d hd h).civil Zone.utc.seconds = CivilTime.midnight d := by
    change (⟨d, 0, 0, 0, nanosOfDecimals [], 0⟩ : CivilTime) = _
    rw [show nanosOfDecimals [] = 0 from Nat.zero_mul _]
    rfl
  rw [← htext, ← hcivil]
  exact ⟨i, hi, ofLiteral?_text_zone h hi⟩

/-- Every literal in full width in a plain year is read: with a zone, as the instant that the civil
calendar gives less the offset; without a zone, as in UTC; a date, a month and a year, as the
midnight that they start with. -/
theorem ofLiteral?_fullWidth {t : FullTime} (z : Zone) (hyear : t.date.HasPlainYear)
    (hsecond : t.second.val ≤ 59) :
    (∃ i, ofLiteral? (String.ofList (t.text ++ z.text)) = some i ∧
      i.unixSeconds =
        (Date.daysBeforeYear t.date.year + Date.daysBeforeMonth t.date.year t.date.month +
          (t.date.day - 1)) * 86400 + t.hour * 3600 + t.minute * 60 + t.second - z.seconds ∧
      i.nano = nanosOfDecimals t.decimals) ∧
    (∃ i, ofLiteral? (String.ofList t.text) = some i ∧
      ofLiteral? (String.ofList (t.text ++ ['Z'])) = some i) ∧
    (∃ i, ofLiteral? (String.ofList (writtenDate t.date)) = some i ∧
      ofLiteral? (String.ofList (writtenDate t.date ++ ['Z'])) = some i ∧
      ofLiteral? (String.ofList (writtenDate t.date ++ midnightZulu)) = some i) ∧
    (∃ i,
      ofLiteral? (String.ofList (writtenYear t.date.year ++ '-' :: padded 2 t.date.month)) =
        some i ∧
      ofLiteral? (String.ofList (writtenDate ⟨t.date.year, t.date.month, 1⟩ ++ midnightZulu)) =
        some i) ∧
    ∃ i, ofLiteral? (String.ofList (writtenYear t.date.year)) = some i ∧
      ofLiteral? (String.ofList (writtenDate ⟨t.date.year, 1, 1⟩ ++ midnightZulu)) = some i := by
  refine ⟨?zoned, ?unzoned, ?date, ?month, ?year⟩
  case zoned =>
    obtain ⟨i, hi⟩ := FullTime.exists_toInstant?_civil hyear z.seconds_bounds.1 z.seconds_bounds.2
    exact ⟨i, ofLiteral?_text_zone hyear hi, FullTime.toInstant?_civil_eq hsecond hi⟩
  case unzoned =>
    obtain ⟨i, hi⟩ := FullTime.exists_toInstant?_civil hyear Zone.utc.seconds_bounds.1
      Zone.utc.seconds_bounds.2
    exact ⟨i, ofLiteral?_text hyear hi, ofLiteral?_text_zone (z := .utc) hyear hi⟩
  case date =>
    obtain ⟨i, hi, hread⟩ := exists_midnight t.isValid_date hyear
    obtain ⟨hdate, hzulu⟩ := ofLiteral?_writtenDate t.isValid_date hyear hi
    exact ⟨i, hdate, hzulu, hread⟩
  case month =>
    obtain ⟨i, hi, hread⟩ := exists_midnight (Date.isValid_firstOfMonth t.isValid_date) hyear
    exact ⟨i, (ofLiteral?_month t.isValid_date hyear).trans hi, hread⟩
  case year =>
    obtain ⟨i, hi, hread⟩ := exists_midnight (Date.isValid_firstOfYear t.date.year) hyear
    exact ⟨i, (ofLiteral?_year hyear).trans hi, hread⟩

/-- The last half second of a leap day, an hour and a half to the east. -/
theorem ofLiteral?_fullWidth_leapDay :
    let t : FullTime :=
      ⟨⟨2020, 2, 29⟩, 23, 59, 59, ['5'], by decide, by decide, by decide,
        List.forall_mem_singleton.mpr rfl, by decide⟩
    t.date.HasPlainYear ∧ t.second.val ≤ 59 ∧
      (∃ i, ofLiteral? (String.ofList (t.text ++ (Zone.offset false 1 30).text)) = some i ∧
        i.unixSeconds = 1583015399 ∧ i.nano = 500000000) := by
  intro t
  have hyear : t.date.HasPlainYear := ⟨by decide, by decide⟩
  have hsecond : t.second.val ≤ 59 := by decide
  obtain ⟨i, hread, hseconds, hnano⟩ := (ofLiteral?_fullWidth (.offset false 1 30) hyear hsecond).1
  exact ⟨hyear, hsecond, i, hread, hseconds.trans (by decide), hnano.trans (by decide)⟩

end Instant

end CoverageSubset

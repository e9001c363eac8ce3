import CoverageSubset.Instant.Literal
import CoverageSubset.Instant.Written
import CoverageSubset.Proofs.Calendar
import CoverageSubset.Proofs.Outcome
import CoverageSubset.Proofs.Text.Digits

/-!
# Fields in full width

A date and a time of day with every field in full width and up to nine decimals, with a zone or
without. Both notations for time read such a text field by field, whatever the lenient one would
allow besides, and get the fields back.
-/

namespace CoverageSubset

open Text

/-! ### Single fields -/

/-- A dash is no digit. -/
theorem startsWithDigit_dash (cs : List Char) : startsWithDigit ('-' :: cs) = false :=
  startsWithDigit_cons _ _

namespace CivilTime

variable {n : Nat} {cs rest : List Char} {year : Int}

private theorem trimStart_padded {width : Nat} (hwidth : 0 < width) (n : Nat) (rest : List Char) :
    trimStart (padded width n ++ rest) = padded width n ++ rest :=
  trimStart_of_startsWithDigit (startsWithDigit_padded hwidth n rest)

/-- Two digits are read back. -/
theorem twoDigits?_padded (hn : n < 100) (rest : List Char) :
    twoDigits? (padded 2 n ++ rest) = some (n, rest) := by
  have hlength : (padded 2 n).length = 2 := length_padded (by decide) hn
  exact number?_padded (by omega) (by omega) (.inl hlength)

/-- Two digits are read back as a lenient field. -/
theorem field?_padded (hn : n < 100) (rest : List Char) :
    field? 2 (padded 2 n ++ rest) = some (n, rest) := by
  have hlength : (padded 2 n).length = 2 := length_padded (by decide) hn
  rw [field?, trimStart_padded (by decide)]
  exact number?_padded (by omega) (by omega) (.inl hlength)

/-- The sign and the digits of a year, of which there are four at most without a sign. -/
inductive IsYear (ds : List Char) (year : Int) : List Char → Prop where
  | plain (hlength : ds.length ≤ 4) (hyear : year = digitsValue ds) : IsYear ds year []
  | minus (hyear : year = -(digitsValue ds : Int)) : IsYear ds year ['-']
  | plus (hyear : year = digitsValue ds) : IsYear ds year ['+']

/-- A year is read exactly from an optional sign and a run of digits that nothing continues. -/
theorem year?_eq_some_iff :
    year? cs = some (year, rest) ↔
      ∃ sign ds, IsYear ds year sign ∧ trimStart cs = sign ++ (ds ++ rest) ∧
        (∀ c ∈ ds, c.isDigit = true) ∧
        0 < ds.length ∧ (sign = [] ∧ ds.length = 4 ∨ startsWithDigit rest = false) := by
  constructor
  · intro h
    rw [year?] at h
    split at h
    · next text hcs =>
      obtain ⟨⟨n, text⟩, hread, heq⟩ := Option.map_eq_some_iff.mp h
      obtain ⟨rfl, rfl⟩ := Prod.mk.inj heq
      obtain ⟨ds, rfl, hds, hlength, rfl, hrest⟩ := number?_length_eq_some_iff.mp hread
      exact ⟨_, ds, .minus rfl, hcs, hds, hlength, .inr hrest⟩
    · next text hcs =>
      obtain ⟨⟨n, text⟩, hread, heq⟩ := Option.map_eq_some_iff.mp h
      obtain ⟨rfl, rfl⟩ := Prod.mk.inj heq
      obtain ⟨ds, rfl, hds, hlength, rfl, hrest⟩ := number?_length_eq_some_iff.mp hread
      exact ⟨_, ds, .plus rfl, hcs, hds, hlength, .inr hrest⟩
    · obtain ⟨⟨n, text⟩, hread, heq⟩ := Option.map_eq_some_iff.mp h
      obtain ⟨rfl, rfl⟩ := Prod.mk.inj heq
      obtain ⟨ds, hcs, hds, hlength, hmost, rfl, hrest⟩ := number?_eq_some_iff.mp hread
      exact ⟨_, ds, .plain hmost rfl, hcs, hds, hlength, hrest.imp_left fun hfour ↦ ⟨rfl, hfour⟩⟩
  · rintro ⟨sign, ds, hyear, hcs, hds, hlength, hrest⟩
    rw [year?, hcs]
    cases hyear with
    | plain hmost hyear =>
      have hread : number? 1 4 (ds ++ rest) = some (digitsValue ds, rest) :=
        number?_eq_some_iff.mpr ⟨ds, rfl, hds, hlength, hmost, rfl, hrest.imp_left And.right⟩
      -- A digit is no sign, so the text is read as it stands.
      have hdigit := startsWithDigit_append hds hlength rest
      rw [List.nil_append]
      split
      · next heq =>
        rw [heq] at hdigit
        cases hdigit
      · next heq =>
        rw [heq] at hdigit
        cases hdigit
      · rw [hread, Option.map_some, hyear]
    | minus hyear =>
      have hread :=
        number?_length_eq_some_iff.mpr ⟨ds, rfl, hds, hlength, rfl, hrest.resolve_left (by simp)⟩
      change (number? 1 (ds ++ rest).length (ds ++ rest)).map _ = _
      rw [hread, Option.map_some, hyear]
    | plus hyear =>
      have hread :=
        number?_length_eq_some_iff.mpr ⟨ds, rfl, hds, hlength, rfl, hrest.resolve_left (by simp)⟩
      change (number? 1 (ds ++ rest).length (ds ++ rest)).map _ = _
      rw [hread, Option.map_some, hyear]

/-- A written year is read back, with a sign or without. -/
theorem year?_writtenYear (year : Int) (hrest : startsWithDigit rest = false) :
    year? (Instant.writtenYear year ++ rest) = some (year, rest) := by
  have hdigits (n : Nat) : ∀ c ∈ padded 4 n, c.isDigit = true := fun c ↦ isDigit_of_mem_padded
  have hlength (n : Nat) : 0 < (padded 4 n).length := by
    rw [padded, List.length_leftpad]
    omega
  rw [year?_eq_some_iff, Instant.writtenYear]
  split
  · next hyear =>
    have hfour : (padded 4 year.toNat).length = 4 := length_padded (by decide) (by omega)
    refine ⟨[], _, .plain (Nat.le_of_eq hfour) ?_, trimStart_padded (by decide) _ _, hdigits _,
      hlength _, .inr hrest⟩
    rw [digitsValue_padded]
    omega
  · split
    · refine ⟨['-'], _, .minus ?_, trimStart_cons_of_not_blank rfl, hdigits _, hlength _,
        .inr hrest⟩
      rw [digitsValue_padded]
      omega
    · refine ⟨['+'], _, .plus ?_, trimStart_cons_of_not_blank rfl, hdigits _, hlength _, .inr hrest⟩
      rw [digitsValue_padded]
      omega

/-- The decimals of a second after their point; without decimals there is no point. -/
def writtenDecimals (ds : List Char) : List Char := if ds.isEmpty then [] else '.' :: ds

/-- The nanoseconds that up to nine decimals of a second stand for. -/
def nanosOfDecimals (ds : List Char) : Nat := digitsValue ds * 10 ^ (9 - ds.length)

/-- The text goes on neither with a digit nor with a point. -/
def EndsSecond (cs : List Char) : Prop := ∀ c ∈ cs.head?, c.isDigit = false ∧ c ≠ '.'

/-- A second may end the text. -/
theorem EndsSecond.nil : EndsSecond [] := by simp [EndsSecond]

/-- What ends a second starts with no digit. -/
theorem EndsSecond.startsWithDigit_eq_false (h : EndsSecond rest) :
    startsWithDigit rest = false := by
  cases rest with
  | nil => rfl
  | cons c rest => exact (startsWithDigit_cons c rest).trans (h c rfl).1

private theorem fraction?_writtenDecimals {ds : List Char} (hds : ∀ c ∈ ds, c.isDigit = true)
    (hlength : ds.length ≤ 9) (hrest : EndsSecond rest) :
    fraction? (writtenDecimals ds ++ rest) = some (nanosOfDecimals ds, rest) := by
  rw [writtenDecimals]
  split
  · next hempty =>
    obtain rfl := List.isEmpty_iff.mp hempty
    rw [List.nil_append, fraction?]
    · rfl
    · rintro cs rfl
      exact (hrest '.' rfl).2 rfl
  · next hempty =>
    have hrun : leadingDigits (ds ++ rest) = ds :=
      leadingDigits_append hds hrest.startsWithDigit_eq_false
    rw [List.cons_append, fraction?, hrun]
    simp only [hempty, List.take_of_length_le hlength, List.drop_left, nanosOfDecimals]
    rfl

/-- Up to nine decimals stand for less than a second. -/
theorem nanosOfDecimals_lt {ds : List Char} (hds : ∀ c ∈ ds, c.isDigit = true)
    (hlength : ds.length ≤ 9) :
    nanosOfDecimals ds < 1000000000 := by
  have hvalue := digitsValue_lt hds
  calc nanosOfDecimals ds < 10 ^ ds.length * 10 ^ (9 - ds.length) :=
    Nat.mul_lt_mul_of_pos_right hvalue (Nat.pow_pos (by decide))
    _ = 1000000000 := by rw [← Nat.pow_add, Nat.add_sub_cancel' hlength]

end CivilTime

/-! ### Dates -/

namespace Date

variable {d : Date}

/-- The year is written with four digits and no sign. -/
def HasPlainYear (d : Date) : Prop := 0 ≤ d.year ∧ d.year ≤ 9999

theorem month_lt (h : d.isValid = true) : d.month < 100 := by
  have := month_of_isValid h
  omega

theorem day_lt (h : d.isValid = true) : d.day < 100 := by
  have := day_le_of_isValid h
  omega

/-- A plain year is written with its digits only. -/
theorem HasPlainYear.writtenYear_eq (h : d.HasPlainYear) :
    Instant.writtenYear d.year = padded 4 d.year.toNat := if_pos h

/-- A plain year is written with four digits. -/
theorem HasPlainYear.length_padded (h : d.HasPlainYear) : (padded 4 d.year.toNat).length = 4 := by
  have := h.2
  exact Text.length_padded (by decide) (by omega)

/-- A plain year is read back in full width. -/
theorem HasPlainYear.number?_writtenYear (h : d.HasPlainYear) (rest : List Char) :
    number? 4 4 (Instant.writtenYear d.year ++ rest) = some (d.year.toNat, rest) := by
  have hlength := h.length_padded
  rw [h.writtenYear_eq]
  exact number?_padded (by omega) (by omega) (.inl hlength)

end Date

namespace Instant

open CivilTime

/-- A written date is a year, a month and a day between dashes. -/
theorem writtenDate_append (d : Date) (rest : List Char) :
    writtenDate d ++ rest = writtenYear d.year ++
      '-' :: (padded 2 d.month ++ '-' :: (padded 2 d.day ++ rest)) := by
  simp only [writtenDate, List.append_assoc, List.cons_append]

/-- A date is read back by the lenient fields of a request, whatever follows it. -/
theorem datePart?_writtenDate {d : Date} (hd : d.isValid = true) (rest : List Char) :
    datePart? (writtenDate d ++ rest) = some (d, rest) := by
  rw [writtenDate_append]
  refine bind_eq_of_eq_some (year?_writtenYear d.year (startsWithDigit_dash _)) ?_
  refine bind_eq_of_eq_some (char?_cons_self '-' _) ?_
  refine bind_eq_of_eq_some (field?_padded (Date.month_lt hd) _) ?_
  refine bind_eq_of_eq_some (char?_cons_self '-' _) ?_
  exact bind_eq_of_eq_some (field?_padded (Date.day_lt hd) _) rfl

end Instant

/-! ### Zones -/

/-- The zone of a literal: UTC, or hours and minutes to the east or west of it. -/
inductive Zone where
  | utc
  | offset (west : Bool) (hours : Fin 24) (minutes : Fin 60)
deriving DecidableEq

namespace Zone

/-- The written form. -/
def text : Zone → List Char
  | utc => ['Z']
  | offset west hours minutes =>
    (if west then '-' else '+') :: (padded 2 hours ++ ':' :: padded 2 minutes)

/-- Seconds east of UTC. -/
def seconds : Zone → Int
  | utc => 0
  | offset true hours minutes => -(hours * 3600 + minutes * 60)
  | offset false hours minutes => hours * 3600 + minutes * 60

private theorem endsSecond_text (z : Zone) : CivilTime.EndsSecond z.text := by
  intro c hc
  match z with
  | utc =>
    obtain rfl := Option.some.inj hc
    decide
  | offset true _ _ =>
    obtain rfl := Option.some.inj hc
    decide
  | offset false _ _ =>
    obtain rfl := Option.some.inj hc
    decide

private theorem offset?_text_of_colon {separator : List Char → Option (List Char)}
    (hcolon : ∀ n, separator (':' :: padded 2 n) = some (padded 2 n)) (z : Zone) :
    CivilTime.offset? separator z.text = some (z.seconds, []) := by
  match z with
  | utc => rfl
  | offset west hours minutes =>
    have hhours := hours.isLt
    have hminutes := minutes.isLt
    have hread := CivilTime.twoDigits?_padded (n := minutes) (by omega) []
    rw [List.append_nil] at hread
    cases west <;>
      simp [text, seconds, CivilTime.offset?, CivilTime.offsetSign?,
        CivilTime.twoDigits?_padded (show hours.val < 100 by omega), hcolon, hread]

private theorem offset?_text (z : Zone) :
    CivilTime.offset? (char? ':') z.text = some (z.seconds, []) :=
  z.offset?_text_of_colon fun n ↦ char?_cons_self ':' (padded 2 n)

private theorem colonsAndBlanks_colon_padded (n : Nat) :
    Instant.colonsAndBlanks (':' :: padded 2 n) = padded 2 n := by
  have hskip : Instant.colonsAndBlanks (':' :: padded 2 n) = Instant.colonsAndBlanks (padded 2 n) :=
    List.dropWhile_cons_of_pos rfl
  rw [hskip]
  cases hpadded : padded 2 n with
  | nil => rfl
  | cons c cs =>
    have hdigit : c.isDigit = true := isDigit_of_mem_padded (hpadded ▸ List.mem_cons_self)
    have hcolon : c ≠ ':' := by
      rintro rfl
      cases hdigit
    exact List.dropWhile_cons_of_neg (by simp [hcolon, isBlank_of_isDigit hdigit])

private theorem utcOrOffset?_text (z : Zone) :
    Instant.utcOrOffset? (trimStart z.text) = some (z.seconds, []) := by
  have hread : CivilTime.offset? (fun cs ↦ some (Instant.colonsAndBlanks cs)) z.text =
    some (z.seconds, []) := by
    apply offset?_text_of_colon
    intro n
    rw [colonsAndBlanks_colon_padded]
  match z with
  | utc => rfl
  | offset true hours minutes =>
    rw [text, trimStart_cons_of_not_blank rfl, Instant.utcOrOffset?, if_neg (by simp)]
    exact hread
  | offset false hours minutes =>
    rw [text, trimStart_cons_of_not_blank rfl, Instant.utcOrOffset?, if_neg (by simp)]
    exact hread

end Zone

/-! ### Date and time of day -/

/-- A date and a time of day as they are written in full width, with up to nine decimals. -/
structure FullTime where
  date : Date
  hour : Fin 24
  minute : Fin 60
  second : Fin 61
  decimals : List Char
  isValid_date : date.isValid = true
  first_le_year : -262143 ≤ date.year
  year_le_last : date.year ≤ 262142
  isDigit_of_mem_decimals : ∀ c ∈ decimals, c.isDigit = true
  length_decimals_le : decimals.length ≤ 9

namespace FullTime

open CivilTime

/-- The time of day, as it is written. -/
def clock (t : FullTime) : List Char :=
  padded 2 t.hour ++ ':' :: (padded 2 t.minute ++
    ':' :: (padded 2 t.second ++ writtenDecimals t.decimals))

/-- The written form, without a zone. -/
def text (t : FullTime) : List Char := Instant.writtenDate t.date ++ 'T' :: t.clock

/-- The civil time at an offset east of UTC. -/
def civil (t : FullTime) (offset : Int) : CivilTime :=
  ⟨t.date, t.hour, t.minute, t.second, nanosOfDecimals t.decimals, offset⟩

section Fields

variable (t : FullTime)

private theorem hour_lt : (t.hour : Nat) < 100 := by omega

private theorem minute_lt : (t.minute : Nat) < 100 := by omega

theorem second_lt : (t.second : Nat) < 100 := by omega

private theorem fraction?_decimals {rest : List Char} (h : EndsSecond rest) :
    fraction? (writtenDecimals t.decimals ++ rest) = some (nanosOfDecimals t.decimals, rest) :=
  fraction?_writtenDecimals t.isDigit_of_mem_decimals t.length_decimals_le h

end Fields

variable {t : FullTime}

private theorem text_append (t : FullTime) (rest : List Char) :
    t.text ++ rest =
      Instant.writtenDate t.date ++ 'T' :: (padded 2 t.hour ++ ':' :: (padded 2 t.minute ++
        ':' :: (padded 2 t.second ++ (writtenDecimals t.decimals ++ rest)))) := by
  simp only [text, clock, List.append_assoc, List.cons_append]

private theorem zoned?_text_append (h : t.date.HasPlainYear) {rest : List Char}
    (hrest : EndsSecond rest) :
    Instant.zoned? (t.text ++ rest) =
      (offset? (char? ':') rest).bind fun p ↦ if p.2.isEmpty then some (t.civil p.1) else none := by
  have hyear : (t.date.year.toNat : Int) = t.date.year := Int.toNat_of_nonneg h.1
  rw [text_append, Instant.writtenDate_append]
  refine bind_eq_of_eq_some (h.number?_writtenYear _) ?_
  refine bind_eq_of_eq_some (char?_cons_self '-' _) ?_
  refine bind_eq_of_eq_some (twoDigits?_padded (Date.month_lt t.isValid_date) _) ?_
  refine bind_eq_of_eq_some (char?_cons_self '-' _) ?_
  refine bind_eq_of_eq_some (twoDigits?_padded (Date.day_lt t.isValid_date) _) ?_
  refine bind_eq_of_eq_some (by rw [char?_cons_self, Option.some_or]) ?_
  refine bind_eq_of_eq_some (twoDigits?_padded t.hour_lt _) ?_
  refine bind_eq_of_eq_some (char?_cons_self ':' _) ?_
  refine bind_eq_of_eq_some (twoDigits?_padded t.minute_lt _) ?_
  refine bind_eq_of_eq_some (char?_cons_self ':' _) ?_
  refine bind_eq_of_eq_some (twoDigits?_padded t.second_lt _) ?_
  refine bind_eq_of_eq_some (t.fraction?_decimals hrest) ?_
  simp only [hyear]
  rfl

/-- In full width, a text with a zone is read back. -/
theorem zoned?_text (h : t.date.HasPlainYear) (z : Zone) :
    Instant.zoned? (t.text ++ z.text) = some (t.civil z.seconds) := by
  rw [zoned?_text_append h z.endsSecond_text, z.offset?_text]
  rfl

/-- In full width, a text without a zone is refused. -/
theorem zoned?_text_nil (h : t.date.HasPlainYear) : Instant.zoned? t.text = none := by
  rw [← List.append_nil t.text, zoned?_text_append h EndsSecond.nil]
  rfl

/-- A text without a zone is read back by the lenient fields of a request. -/
theorem unzoned?_text (t : FullTime) : Instant.unzoned? t.text = some (t.civil 0) := by
  rw [← List.append_nil t.text, text_append]
  refine bind_eq_of_eq_some (Instant.datePart?_writtenDate t.isValid_date _) ?_
  refine bind_eq_of_eq_some (char?_cons_self 'T' _) ?_
  refine bind_eq_of_eq_some (field?_padded t.hour_lt _) ?_
  refine bind_eq_of_eq_some (char?_cons_self ':' _) ?_
  refine bind_eq_of_eq_some (field?_padded t.minute_lt _) ?_
  refine bind_eq_of_eq_some (char?_cons_self ':' _) ?_
  refine bind_eq_of_eq_some (field?_padded t.second_lt _) ?_
  exact bind_eq_of_eq_some (t.fraction?_decimals EndsSecond.nil) rfl

/-- A text with a zone is read back by the lenient fields of a stored time. -/
theorem timestamp?_text (t : FullTime) (z : Zone) :
    Instant.timestamp? (t.text ++ z.text) = some (t.civil z.seconds) := by
  have hseparator {c : Char} (hc : isBlank c = false) (cs : List Char) :
    char? c (trimStart (c :: cs)) = some cs := by
    rw [trimStart_cons_of_not_blank hc, char?_cons_self]
  rw [text_append, Instant.writtenDate_append]
  refine bind_eq_of_eq_some (year?_writtenYear t.date.year (startsWithDigit_dash _)) ?_
  refine bind_eq_of_eq_some (hseparator rfl _) ?_
  refine bind_eq_of_eq_some (field?_padded (Date.month_lt t.isValid_date) _) ?_
  refine bind_eq_of_eq_some (hseparator rfl _) ?_
  refine bind_eq_of_eq_some (field?_padded (Date.day_lt t.isValid_date) _) ?_
  refine bind_eq_of_eq_some (by rw [char?_cons_self, Option.some_or]) ?_
  refine bind_eq_of_eq_some (field?_padded t.hour_lt _) ?_
  refine bind_eq_of_eq_some (hseparator rfl _) ?_
  refine bind_eq_of_eq_some (field?_padded t.minute_lt _) ?_
  refine bind_eq_of_eq_some (hseparator rfl _) ?_
  refine bind_eq_of_eq_some (field?_padded t.second_lt _) ?_
  refine bind_eq_of_eq_some (t.fraction?_decimals z.endsSecond_text) ?_
  exact bind_eq_of_eq_some z.utcOrOffset?_text rfl

end FullTime

/-! ### No blanks -/

/-- A padded number has no blanks. -/
theorem isBlank_of_mem_padded {width n : Nat} {c : Char} (h : c ∈ padded width n) :
    isBlank c = false :=
  isBlank_of_isDigit (isDigit_of_mem_padded h)

/-- A written year has no blanks. -/
theorem isBlank_of_mem_writtenYear {year : Int} {c : Char} (h : c ∈ Instant.writtenYear year) :
    isBlank c = false := by
  rw [Instant.writtenYear] at h
  split at h
  · exact isBlank_of_mem_padded h
  · rcases List.mem_cons.mp h with rfl | h
    · split <;> rfl
    · exact isBlank_of_mem_padded h

/-- A written date has no blanks. -/
theorem isBlank_of_mem_writtenDate {d : Date} {c : Char} (h : c ∈ Instant.writtenDate d) :
    isBlank c = false := by
  rw [Instant.writtenDate, List.append_assoc, List.mem_append, List.cons_append, List.mem_cons,
    List.mem_append, List.mem_cons] at h
  rcases h with h | rfl | h | rfl | h
  · exact isBlank_of_mem_writtenYear h
  · rfl
  · exact isBlank_of_mem_padded h
  · rfl
  · exact isBlank_of_mem_padded h

/-- A zone has no blanks. -/
theorem Zone.isBlank_of_mem_text {z : Zone} {c : Char} (h : c ∈ z.text) : isBlank c = false := by
  cases z with
  | utc =>
    obtain rfl := List.mem_singleton.mp h
    rfl
  | offset west hours minutes =>
    rw [Zone.text, List.mem_cons, List.mem_append, List.mem_cons] at h
    rcases h with rfl | h | rfl | h
    · cases west <;> rfl
    · exact isBlank_of_mem_padded h
    · rfl
    · exact isBlank_of_mem_padded h

/-- A date and a time of day in full width have no blanks. -/
theorem FullTime.isBlank_of_mem_text {t : FullTime} {c : Char} (h : c ∈ t.text) :
    isBlank c = false := by
  rw [FullTime.text, FullTime.clock, List.mem_append, List.mem_cons, List.mem_append, List.mem_cons,
    List.mem_append, List.mem_cons, List.mem_append, CivilTime.writtenDecimals] at h
  rcases h with h | rfl | h | rfl | h | rfl | h | h
  · exact isBlank_of_mem_writtenDate h
  · rfl
  · exact isBlank_of_mem_padded h
  · rfl
  · exact isBlank_of_mem_padded h
  · rfl
  · exact isBlank_of_mem_padded h
  · split at h
    · cases h
    · rcases List.mem_cons.mp h with rfl | h
      · rfl
      · exact isBlank_of_isDigit (t.isDigit_of_mem_decimals c h)

end CoverageSubset

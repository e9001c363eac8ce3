import CoverageSubset.Proofs.Instant.Literals

/-!
# The years of time literals

Every literal that is read starts with a year, after an optional sign. The forms in full width and
the periods want four digits of it. A date with lenient fields, with a time of day or without, does
not: its year may have a single digit, and a dash follows it.
-/

namespace CoverageSubset

open Text CivilTime

namespace Instant

/-- The text after its sign, if it starts with one. -/
def unsigned : List Char → List Char
  | '-' :: cs => cs
  | '+' :: cs => cs
  | cs => cs

/-- The digits of the year that a text starts with, after an optional sign. -/
def yearDigits (cs : List Char) : List Char := leadingDigits (unsigned cs)

/-- The text starts with an optional sign and at least four digits. -/
def StartsWithFullYear (cs : List Char) : Prop := 4 ≤ (yearDigits cs).length

instance (cs : List Char) : Decidable (StartsWithFullYear cs) := inferInstanceAs (Decidable (4 ≤ _))

/-- The text starts with an optional sign, one to three digits and a dash. -/
structure StartsWithShortYear (cs : List Char) : Prop where
  exists_digit : 0 < (yearDigits cs).length
  length_lt : (yearDigits cs).length < 4
  dash : ((unsigned cs).drop (yearDigits cs).length).head? = some '-'

variable {cs rest : List Char}

private theorem unsigned_of_startsWithDigit (h : startsWithDigit cs = true) : unsigned cs = cs := by
  rw [unsigned.eq_def]
  split
  · cases h
  · cases h
  · rfl

private theorem unsigned_of_isYear {sign ds : List Char} {year : Int} (hyear : IsYear ds year sign)
    (hds : ∀ c ∈ ds, c.isDigit = true) (hlength : 0 < ds.length) :
    unsigned (sign ++ (ds ++ rest)) = ds ++ rest := by
  cases hyear with
  | minus => rfl
  | plus => rfl
  | plain =>
    match ds with
    | c :: ds =>
      exact unsigned_of_startsWithDigit
        ((startsWithDigit_cons _ _).trans (hds c List.mem_cons_self))

private theorem yearDigits_of_dash {ds : List Char} (hunsigned : unsigned cs = ds ++ '-' :: rest)
    (hds : ∀ c ∈ ds, c.isDigit = true) : yearDigits cs = ds := by
  rw [yearDigits, hunsigned]
  exact leadingDigits_append hds (startsWithDigit_dash rest)

private theorem startsWithYear_of_dash {ds : List Char}
    (hunsigned : unsigned cs = ds ++ '-' :: rest)
    (hds : ∀ c ∈ ds, c.isDigit = true) (hlength : 0 < ds.length) :
    StartsWithFullYear cs ∨ StartsWithShortYear cs := by
  have hdigits := yearDigits_of_dash hunsigned hds
  have hdash : ((unsigned cs).drop ds.length).head? = some '-' := by
    rw [hunsigned, List.drop_left]
    rfl
  rw [← hdigits] at hlength hdash
  rcases Nat.lt_or_ge (yearDigits cs).length 4 with hshort | hfull
  · exact .inr ⟨hlength, hshort, hdash⟩
  · exact .inl hfull

/-- A date with lenient fields is a year, a dash and more. -/
theorem exists_year_of_datePart? {d : Date} (htrim : trimStart cs = cs)
    (h : datePart? cs = some (d, rest)) :
    ∃ year sign ds more, IsYear ds year sign ∧ cs = sign ++ (ds ++ '-' :: more) ∧
      (∀ c ∈ ds, c.isDigit = true) ∧
      0 < ds.length := by
  rw [datePart?] at h
  obtain ⟨⟨year, afterYear⟩, hyear, h⟩ := Option.bind_eq_some_iff.mp h
  obtain ⟨more, hdash, -⟩ := Option.bind_eq_some_iff.mp h
  obtain ⟨sign, ds, hsign, hcs, hds, hlength, -⟩ := year?_eq_some_iff.mp hyear
  rw [htrim, char?_eq_some_iff.mp hdash] at hcs
  exact ⟨year, sign, ds, more, hsign, hcs, hds, hlength⟩

private theorem startsWithYear_of_datePart? {d : Date} (htrim : trimStart cs = cs)
    (h : datePart? cs = some (d, rest))
    (tail : List Char) : StartsWithFullYear (cs ++ tail) ∨ StartsWithShortYear (cs ++ tail) := by
  obtain ⟨year, sign, ds, more, hsign, hcs, hds, hlength⟩ := exists_year_of_datePart? htrim h
  have hunsigned : unsigned (cs ++ tail) = ds ++ '-' :: (more ++ tail) := by
    rw [hcs, List.append_assoc, List.append_assoc, unsigned_of_isYear hsign hds hlength,
      List.cons_append]
  exact startsWithYear_of_dash hunsigned hds hlength

private theorem startsWithFullYear_of_leadingDigits (h : 4 ≤ (leadingDigits cs).length) :
    StartsWithFullYear cs := by
  have hdigit : startsWithDigit cs = true := by
    cases cs with
    | nil => cases h
    | cons c cs =>
      rw [startsWithDigit_cons]
      by_contra hc
      simp [leadingDigits, hc] at h
  rwa [StartsWithFullYear, yearDigits, unsigned_of_startsWithDigit hdigit]

/-- A text in full width starts with a full year. -/
theorem startsWithFullYear_of_zoned? {c : CivilTime} (h : zoned? cs = some c) :
    StartsWithFullYear cs := by
  obtain ⟨⟨year, rest⟩, hyear, -⟩ := Option.bind_eq_some_iff.mp h
  obtain ⟨ds, rfl, hds, hleast, -⟩ := number?_eq_some_iff.mp hyear
  apply startsWithFullYear_of_leadingDigits
  rw [leadingDigits, List.takeWhile_append_of_pos hds, List.length_append]
  omega

/-- A period starts with a full year, whatever follows it. -/
theorem startsWithFullYear_of_period? {c : CivilTime} (h : period? cs = some c) (tail : List Char) :
    StartsWithFullYear (cs ++ tail) := by
  rw [period?] at h
  split at h
  · cases h
  · next hlength =>
    have := length_leadingDigits_le_append cs tail
    exact startsWithFullYear_of_leadingDigits (by omega)

private theorem exists_withoutZulu_append (cs : List Char) :
    ∃ tail, withoutZulu cs ++ tail = cs := by
  rw [withoutZulu]
  split
  · next h =>
    obtain ⟨init, rfl⟩ := List.getLast?_eq_some_iff.mp h
    exact ⟨['Z'], by rw [List.dropLast_concat]⟩
  · exact ⟨[], List.append_nil cs⟩

/-- What is read starts with a full or a short year. -/
theorem startsWithYear_of_ofTrimmed? {t : Instant} (htrim : trimStart cs = cs)
    (h : ofTrimmed? cs = some t) :
    StartsWithFullYear cs ∨ StartsWithShortYear cs := by
  obtain ⟨tail, htail⟩ := exists_withoutZulu_append cs
  have htrim' : trimStart (withoutZulu cs) = withoutZulu cs :=
    trimStart_of_append (htail.symm ▸ htrim)
  rw [ofTrimmed?, Option.or_eq_some_iff, Option.or_eq_some_iff, Option.or_eq_some_iff] at h
  rcases h with h | ⟨-, h | ⟨-, h | ⟨-, h⟩⟩⟩
  · obtain ⟨c, hzoned, -⟩ := Option.bind_eq_some_iff.mp h
    exact .inl (startsWithFullYear_of_zoned? hzoned)
  · obtain ⟨c, hunzoned, -⟩ := Option.bind_eq_some_iff.mp h
    obtain ⟨⟨d, rest⟩, hdate, -⟩ := Option.bind_eq_some_iff.mp hunzoned
    simpa using startsWithYear_of_datePart? htrim hdate []
  · obtain ⟨c, hdate, -⟩ := Option.bind_eq_some_iff.mp h
    obtain ⟨⟨d, rest⟩, hpart, -⟩ := Option.bind_eq_some_iff.mp hdate
    exact htail ▸ startsWithYear_of_datePart? htrim' hpart tail
  · obtain ⟨c, hperiod, -⟩ := Option.bind_eq_some_iff.mp h
    exact .inl (htail ▸ startsWithFullYear_of_period? hperiod tail)

/-- A literal that is read starts with a year of at least four digits exactly if it does not start
with a year of one to three digits and a dash. -/
theorem startsWithFullYear_iff_of_ofLiteral? {s : String} {t : Instant}
    (h : ofLiteral? s = some t) :
    StartsWithFullYear (trim s.toList) ↔ ¬ StartsWithShortYear (trim s.toList) := by
  constructor
  · intro hfull hshort
    exact Nat.not_le_of_lt hshort.length_lt hfull
  · intro hshort
    exact (startsWithYear_of_ofTrimmed? (trimStart_trim _) h).resolve_right hshort

/-- The first day of the year 2020. -/
theorem startsWithFullYear_firstOf2020 :
    (∃ t, ofLiteral? " 2020-01-01 " = some t) ∧ StartsWithFullYear
    (trim " 2020-01-01 ".toList) := by
  have hread : (ofLiteral? " 2020-01-01 ").isSome = true := by decide +kernel
  obtain ⟨t, ht⟩ := Option.isSome_iff_exists.mp hread
  refine ⟨⟨t, ht⟩, (startsWithFullYear_iff_of_ofLiteral? ht).mpr fun hshort ↦ ?_⟩
  exact absurd hshort.length_lt (by decide +kernel)

/-- A date in the year 15 is read, with two digits of its year. -/
theorem not_startsWithFullYear_firstOf15 :
    (∃ t, ofLiteral? "15-01-01" = some t) ∧ ¬ StartsWithFullYear (trim "15-01-01".toList) :=
  ⟨Option.isSome_iff_exists.mp (by decide +kernel), by decide +kernel⟩

/-! ### Short years -/

/-- The first thousand years in their shortest form, with a month and a day. -/
def shortDate (d : Date) : List Char :=
  decimal d.year.toNat ++ '-' :: (padded 2 d.month ++ '-' :: padded 2 d.day)

/-- Every date of the first thousand years is read in its short form, although that has no full
year. -/
theorem ofLiteral?_shortDate {d : Date} (hd : d.isValid = true) (h0 : 0 ≤ d.year)
    (h : d.year ≤ 999) :
    StartsWithShortYear (shortDate d) ∧ ∃ t, ofLiteral? (String.ofList (shortDate d)) = some t := by
  have hds : ∀ c ∈ decimal d.year.toNat, c.isDigit = true := fun _ ↦ isDigit_of_mem_decimal
  have hpos : 0 < (decimal d.year.toNat).length := Nat.length_toDigits_pos
  have hlength : (decimal d.year.toNat).length ≤ 3 :=
    (Nat.length_toDigits_le_iff (by decide) (by decide)).mpr (by omega)
  have hdigit : startsWithDigit (shortDate d) = true := startsWithDigit_append hds hpos _
  have hunsigned := unsigned_of_startsWithDigit hdigit
  have hfull : ¬ StartsWithFullYear (shortDate d) := by
    rw [StartsWithFullYear, yearDigits_of_dash hunsigned hds]
    omega
  refine ⟨(startsWithYear_of_dash hunsigned hds hpos).resolve_left hfull, ?_⟩
  have hyear : year? (shortDate d) =
    some (d.year, '-' :: (padded 2 d.month ++ '-' :: padded 2 d.day)) := by
    refine year?_eq_some_iff.mpr ⟨[], _, .plain (by omega) ?_, trimStart_of_startsWithDigit hdigit,
      hds, hpos, .inr rfl⟩
    rw [digitsValue_decimal, Int.toNat_of_nonneg h0]
  have hday := field?_padded (Date.day_lt hd) []
  rw [List.append_nil] at hday
  have hpart : datePart? (shortDate d) = some (d, []) := by
    refine bind_eq_of_eq_some hyear ?_
    refine bind_eq_of_eq_some (char?_cons_self '-' _) ?_
    refine bind_eq_of_eq_some (field?_padded (Date.month_lt hd) _) ?_
    refine bind_eq_of_eq_some (char?_cons_self '-' _) ?_
    exact bind_eq_of_eq_some hday rfl
  have hzoned : zoned? (shortDate d) = none :=
    Option.eq_none_iff_forall_ne_some.mpr fun _ hread ↦ hfull (startsWithFullYear_of_zoned? hread)
  have hunzoned : unzoned? (shortDate d) = none := by
    rw [unzoned?, hpart]
    rfl
  have hzulu : withoutZulu (shortDate d) = shortDate d := by
    rw [shortDate, List.append_cons, ← List.append_assoc, List.append_cons]
    exact withoutZulu_append_padded (by decide) _ _
  obtain ⟨t, ht, -⟩ := exists_midnight hd ⟨h0, by omega⟩
  refine ⟨t, ?_⟩
  rw [ofLiteral?_ofList, ofTrimmed?, hzoned, hunzoned, hzulu, date?, hpart]
  · simp only [Option.bind_none, Option.none_or, Option.bind_eq_bind, Option.bind_some,
      List.isEmpty_nil, if_true, ht, Option.some_or]
  · intro c hc
    rw [shortDate, List.mem_append, List.mem_cons, List.mem_append, List.mem_cons] at hc
    rcases hc with hc | rfl | hc | rfl | hc
    · exact isBlank_of_isDigit (hds c hc)
    · rfl
    · exact isBlank_of_mem_padded hc
    · rfl
    · exact isBlank_of_mem_padded hc

end Instant

end CoverageSubset

import CoverageSubset.Proofs.GridRequest
import CoverageSubset.Proofs.Instant.Literals

/-!
# Reading written instants

The written form of an instant is a date and a time of day in full width, so it is read back: as a
stored time in every year, and as a literal of a request in plain years. A leap second has to end a
minute, as it does in every instant that was read, since it is written as second 60.
-/

namespace CoverageSubset

open Text CivilTime

namespace Instant

variable {t : Instant}

/-! ### The written form in full width -/

private theorem padded_eq_writtenDecimals {width n : Nat} (hwidth : 0 < width)
    (hn : n < 10 ^ width) :
    '.' :: padded width n = writtenDecimals (padded width n) ∧
      nanosOfDecimals (padded width n) = n * 10 ^ (9 - width) := by
  have hlength := length_padded hwidth hn
  have hne : (padded width n).isEmpty = false := by
    rw [List.isEmpty_eq_false_iff_exists_mem, ← List.length_pos_iff_exists_mem]
    omega
  rw [writtenDecimals, hne, nanosOfDecimals, digitsValue_padded, hlength]
  exact ⟨rfl, rfl⟩

private theorem exists_writtenDecimals {nano : Nat} (h : nano < 1000000000) :
    ∃ ds, writtenFraction nano = writtenDecimals ds ∧ nanosOfDecimals ds = nano ∧
      (∀ c ∈ ds, c.isDigit = true) ∧
      ds.length ≤ 9 := by
  rw [writtenFraction]
  split
  · next hzero =>
    refine ⟨[], rfl, ?_, by simp, by simp⟩
    rw [hzero]
    exact Nat.zero_mul _
  · split
    · have hfits : nano / 1000000 < 10 ^ 3 := by omega
      obtain ⟨hwritten, hnanos⟩ := padded_eq_writtenDecimals (by decide) hfits
      exact ⟨_, hwritten, hnanos.trans (by omega), fun _ ↦ isDigit_of_mem_padded,
        (length_padded (by decide) hfits).trans_le (by decide)⟩
    · split
      · have hfits : nano / 1000 < 10 ^ 6 := by omega
        obtain ⟨hwritten, hnanos⟩ := padded_eq_writtenDecimals (by decide) hfits
        exact ⟨_, hwritten, hnanos.trans (by omega), fun _ ↦ isDigit_of_mem_padded,
          (length_padded (by decide) hfits).trans_le (by decide)⟩
      · have hfits : nano < 10 ^ 9 := h
        obtain ⟨hwritten, hnanos⟩ := padded_eq_writtenDecimals (by decide) hfits
        exact ⟨_, hwritten, hnanos.trans (Nat.mul_one nano), fun _ ↦ isDigit_of_mem_padded,
          (length_padded (by decide) hfits).trans_le (by decide)⟩

private theorem exists_fullTime (h : t.EndsMinuteInLeap) :
    ∃ f : FullTime, f.date = t.date ∧ f.text = t.writtenLocal ∧
      (f.civil 0).toInstant? = some t := by
  obtain ⟨hvalid, hday⟩ := Date.isValid_ofDayNumber_and_toDayNumber t.day
  obtain ⟨hfirst, hlast⟩ := Date.year_ofDayNumber t.first_le_day t.day_le_last
  obtain ⟨ds, hwritten, hnanos, hds, hlength⟩ :=
    exists_writtenDecimals (Nat.mod_lt t.nano (by decide : 0 < 1000000000))
  have hlt := t.second_lt
  have hnano := t.nano_lt
  have hsecond : (if t.inLeapSecond then t.second % 60 + 1 else t.second % 60) < 61 := by
    split <;> omega
  refine ⟨⟨t.date, ⟨t.second / 3600, by omega⟩, ⟨t.second / 60 % 60, by omega⟩, ⟨_, hsecond⟩, ds,
    hvalid, hfirst, hlast, hds, hlength⟩, rfl, ?_, ?_⟩
  · simp only [FullTime.text, FullTime.clock, writtenLocal, writtenTime, hwritten,
      List.append_assoc, List.cons_append]
  · refine toInstant?_eq_some_iff.mpr ⟨FullTime.isValid_civil _ 0, ?_, ?_⟩
    · have hdate : t.date.toDayNumber = t.day := hday
      simp only [secondsFromMidnight, FullTime.civil, unixSeconds, hdate]
      by_cases hleap : t.inLeapSecond = true
      · have := h hleap
        rw [if_pos hleap]
        omega
      · rw [if_neg hleap]
        omega
    · simp only [instantNano, FullTime.civil, hnanos]
      by_cases hleap : t.inLeapSecond = true
      · have hnano' : 1000000000 ≤ t.nano := by simpa [inLeapSecond] using hleap
        have := h hleap
        rw [if_pos hleap, if_pos (by omega)]
        omega
      · have hnano' : t.nano < 1000000000 := by simpa [inLeapSecond] using hleap
        rw [if_neg hleap, if_neg (by omega)]
        omega

/-! ### Reading it back -/

private theorem text_zeroOffset :
    (Zone.offset false 0 0).text = ['+', '0', '0', ':', '0', '0'] := by decide

/-- A stored time in UTC is read back. -/
theorem ofTimestamp?_writtenLocal (h : t.EndsMinuteInLeap) {z : Zone} (hz : z.seconds = 0) :
    ofTimestamp? (String.ofList (t.writtenLocal ++ z.text)) = some t := by
  obtain ⟨f, -, htext, ht⟩ := exists_fullTime h
  have hread := f.timestamp?_text z
  rw [htext, hz] at hread
  rw [ofTimestamp?, String.toList_ofList]
  exact (congrArg (·.bind toInstant?) hread).trans ht

/-- A stored time that ends in `Z` is read back. -/
theorem ofTimestamp?_zulu (h : t.EndsMinuteInLeap) : ofTimestamp? t.zulu = some t :=
  ofTimestamp?_writtenLocal (z := .utc) h rfl

/-- A stored time that ends in a zero offset is read back. -/
theorem ofTimestamp?_withOffset (h : t.EndsMinuteInLeap) : ofTimestamp? t.withOffset = some t := by
  rw [withOffset, ← text_zeroOffset]
  exact ofTimestamp?_writtenLocal h rfl

/-- In a plain year, both written forms are read back as literals of a request. -/
theorem ofLiteral?_written (hleap : t.EndsMinuteInLeap) (h : t.date.HasPlainYear) :
    ofLiteral? t.zulu = some t ∧ ofLiteral? t.withOffset = some t := by
  obtain ⟨f, hdate, htext, ht⟩ := exists_fullTime hleap
  have hplain : f.date.HasPlainYear := hdate ▸ h
  constructor
  · rw [zulu, ← htext]
    exact ofLiteral?_text_zone (z := .utc) hplain ht
  · rw [withOffset, ← htext, ← text_zeroOffset]
    exact ofLiteral?_text_zone (z := .offset false 0 0) hplain ht

/-! ### Requesting it again -/

/-- A request for a written instant asks for that instant. -/
theorem resolve?_written {s : Subsetting} {d : TimeDomain} {axis printed : String}
    (hread : ofLiteral? printed = some t) (hlabelled : Subsetting.Labelled s.prefixes s.directives)
    (hsole : s.about Instant = [.slice axis printed]) :
    s.resolve? (some d) = .ok (some (d.snap t)) := by
  refine Subsetting.resolve?_eq_ok_iff.mpr ⟨hlabelled, .inr ⟨_, t, hsole, ⟨?_, rfl⟩, rfl⟩⟩
  simp only [Requestable.ofLiteral, hread]
  rfl

/-- In a plain year, both written forms of an instant are read back, and what a request got from an
ordered domain is got again by a request for either form. -/
theorem resolve?_written_again (hleap : t.EndsMinuteInLeap) (hfirst : 0 ≤ t.date.year)
    (hlast : t.date.year ≤ 9999) :
    ofLiteral? t.withOffset = some t ∧ ofLiteral? t.zulu = some t ∧
      ∀ (d : TimeDomain) (s again : Subsetting) (axis printed : String), d.Ordered →
        s.resolve? (some d) = .ok (some (.slice t)) → printed = t.withOffset ∨ printed = t.zulu →
        Subsetting.Labelled again.prefixes again.directives →
          again.about Instant = [.slice axis printed] →
        again.resolve? (some d) = .ok (some (.slice t)) := by
  obtain ⟨hzulu, hoffset⟩ := ofLiteral?_written hleap ⟨hfirst, hlast⟩
  refine ⟨hoffset, hzulu, ?_⟩
  intro d s again axis printed hd hgot hprinted hlabelled hsole
  have hread : ofLiteral? printed = some t := by
    rcases hprinted with rfl | rfl
    · exact hoffset
    · exact hzulu
  rw [resolve?_written hread hlabelled hsole]
  -- What was got is offered, unless nothing is, so it stays where it is.
  have hkept : d.snap t = .slice t := by
    apply Domain.snap_eq_slice
    cases hempty : d.isEmpty with
    | true => exact .inr rfl
    | false =>
      have hoffered := (Subsetting.getsOffered_of_resolve? (by rintro _ ⟨⟩; exact hd) hgot).offered
      exact .inl (hoffered d (.slice t) rfl rfl hempty)
  rw [hkept]

/-- The end of the leap second of 2016, which a request for the next day got from a domain that ends
there. -/
theorem resolve?_written_again_leapSecond :
    let t : Instant := { day := 17166, second := 86399, nano := 1999999999 }
    let d : TimeDomain := .ofList [.span { day := 17000, second := 0, nano := 0 } t]
    let s : Subsetting := { directives := [.slice "time" "2017-01-02"] }
    let again : Subsetting := { directives := [.slice "t" "2016-12-31T23:59:60.999999999+00:00"] }
    (t.EndsMinuteInLeap ∧ 0 ≤ t.date.year ∧ t.date.year ≤ 9999 ∧ d.Ordered ∧
        s.resolve? (some d) = .ok (some (.slice t)) ∧
          t.withOffset = "2016-12-31T23:59:60.999999999+00:00") ∧
      ofLiteral? t.withOffset = some t ∧ again.resolve? (some d) = .ok (some (.slice t)) := by
  intro t d s again
  have hleap : t.EndsMinuteInLeap := by decide
  have hfirst : 0 ≤ t.date.year := by decide
  have hlast : t.date.year ≤ 9999 := by decide
  have hd : d.Ordered := Domain.ordered_ofList (by decide)
  have hgot : s.resolve? (some d) = .ok (some (.slice t)) := by decide +kernel
  have hwritten : t.withOffset = "2016-12-31T23:59:60.999999999+00:00" := by decide +kernel
  obtain ⟨hread, -, hagain⟩ := resolve?_written_again hleap hfirst hlast
  have hlabelled : Subsetting.Labelled again.prefixes again.directives := by
    rw [Subsetting.labelled_cons]
    exact ⟨by decide +kernel, by simp [Subsetting.Labelled]⟩
  exact ⟨⟨hleap, hfirst, hlast, hd, hgot, hwritten⟩, hread,
    hagain d s again "t" _ hd hgot (.inl hwritten.symm) hlabelled (by decide +kernel)⟩

end Instant

end CoverageSubset

import CoverageSubset.Instant.Literal
import CoverageSubset.Proofs.AxisDistance

/-!
# The sign and the size of distances

The distance to an instant from an earlier one is not negative, but for one case. Within a day a
leap second counts as a second of its own. A leap second that ends a day does not: it is measured as
though it were the first second of the next day, so from an instant far into it to one that is less
far into that second, time runs back. No distance comes near the limits of a 64-bit number of
milliseconds.
-/

namespace CoverageSubset.Instant

variable {a b : Instant}

/-! ### Sign -/

/-- The nanoseconds since the second began, or the leap second. -/
def fraction (t : Instant) : Nat := t.nano % 1000000000

/-- The first instant lies in the leap second that ends a day and the other in the first second of
the next day, less far into it by at least a millisecond. -/
structure RunsBack (a b : Instant) : Prop where
  inLeapSecond : a.inLeapSecond = true
  last : a.second = 86399
  nextDay : b.day = a.day + 1
  first : b.second = 0
  ahead : b.fraction + 1000000 ≤ a.fraction

private theorem leapBetween_cases (a b : Instant) :
    b.leapBetween a = 1 ∧ a.second < b.second ∧ 1000000000 ≤ a.nano ∨
      b.leapBetween a = -1 ∧ b.second < a.second ∧ 1000000000 ≤ b.nano ∨
        b.leapBetween a = 0 ∧ (a.second < b.second → a.nano < 1000000000) ∧
          (b.second < a.second → b.nano < 1000000000) := by
  simp only [leapBetween, inLeapSecond, decide_eq_true_eq]
  split
  · omega
  · split <;> omega

private theorem nanosSince_nonneg_of_day_eq (hday : a.day = b.day)
    (h : a.second < b.second ∨ a.second = b.second ∧ a.nano ≤ b.nano) : 0 ≤ b.nanosSince a := by
  have hnano := a.nano_lt
  have hleap := leapBetween_cases a b
  simp only [nanosSince, unixSeconds]
  omega

private theorem nanosSince_of_midnight (hleap : a.inLeapSecond = true) (hlast : a.second = 86399)
    (hday : b.day = a.day + 1)
    (hfirst : b.second = 0) : b.nanosSince a = (b.fraction : Int) - a.fraction := by
  have ha := a.nano_lt
  have hb := b.nano_lt
  have hcases := leapBetween_cases a b
  simp only [inLeapSecond, decide_eq_true_eq] at hleap
  simp only [nanosSince, unixSeconds, fraction]
  omega

private theorem nanosSince_nonneg_of_day_lt (hday : a.day < b.day)
    (h : a.inLeapSecond = true → a.second = 86399 → b.day = a.day + 1 → b.second ≠ 0) :
    0 ≤ b.nanosSince a := by
  have ha := a.nano_lt
  have hsecond := a.second_lt
  have hcases := leapBetween_cases a b
  simp only [inLeapSecond, decide_eq_true_eq] at h
  simp only [nanosSince, unixSeconds]
  omega

private theorem millisSince_nonneg_iff_nanosSince :
    0 ≤ b.millisSince a ↔ -1000000 < b.nanosSince a := by
  rw [millisSince, Int.tdiv_eq_ediv, show Int.sign 1000000 = 1 from rfl]
  split <;> omega

/-- The distance from an earlier instant is negative exactly where time runs back. -/
theorem millisSince_nonneg_iff_not_runsBack (h : AxisValue.atMost a b = true) :
    0 ≤ b.millisSince a ↔ ¬ RunsBack a b := by
  rw [millisSince_nonneg_iff_nanosSince]
  by_cases hmidnight : a.inLeapSecond = true ∧ a.second = 86399 ∧ b.day = a.day + 1 ∧ b.second = 0
  · obtain ⟨hleap, hlast, hday, hfirst⟩ := hmidnight
    rw [nanosSince_of_midnight hleap hlast hday hfirst]
    constructor
    · intro hlt hback
      have hahead := hback.ahead
      omega
    · intro hnot
      by_contra hge
      exact hnot ⟨hleap, hlast, hday, hfirst, by omega⟩
  · have hnonneg : 0 ≤ b.nanosSince a := by
      rcases atMost_iff.mp h with hday | ⟨hday, htime⟩
      · apply nanosSince_nonneg_of_day_lt hday
        exact fun hleap hlast hnext hfirst ↦ hmidnight ⟨hleap, hlast, hnext, hfirst⟩
      · exact nanosSince_nonneg_of_day_eq hday htime
    constructor
    · exact fun _ hback ↦ hmidnight ⟨hback.inLeapSecond, hback.last, hback.nextDay, hback.first⟩
    · omega

/-! ### Size -/

/-- The number fits 64 bits with a sign. -/
def FitsWord (n : Int) : Prop := -0x8000000000000000 ≤ n ∧ n < 0x8000000000000000

/-- Whatever is counted on the way to a distance fits 64 bits: the seconds of the days between two
instants, all seconds as milliseconds, and the milliseconds themselves. The difference is no more
than the longest duration, which has as many milliseconds as fit. -/
structure CountsInWords (a b : Instant) : Prop where
  days : FitsWord ((b.day - a.day) * 86400)
  seconds : FitsWord ((b.unixSeconds - a.unixSeconds + b.leapBetween a) * 1000)
  duration : (b.nanosSince a).natAbs ≤ 0x7FFFFFFFFFFFFFFF * 1000000
  millis : FitsWord (b.millisSince a)

private theorem day_sub_bounds (a b : Instant) :
    -200000000 < b.day - a.day ∧ b.day - a.day < 200000000 := by
  have hfirst : Date.toDayNumber ⟨-262143, 1, 1⟩ = -96465292 := by decide
  have hlast : Date.toDayNumber ⟨262142, 12, 31⟩ = 95026236 := by decide
  have ha := a.first_le_day
  have ha' := a.day_le_last
  have hb := b.first_le_day
  have hb' := b.day_le_last
  omega

/-- Every distance is counted in 64 bits. -/
theorem countsInWords (a b : Instant) : CountsInWords a b := by
  have hday := day_sub_bounds a b
  have ha := a.second_lt
  have hb := b.second_lt
  have ha' := a.nano_lt
  have hb' := b.nano_lt
  have hleap := leapBetween_cases a b
  have hnanos : (b.nanosSince a).natAbs ≤ 0x7FFFFFFFFFFFFFFF * 1000000 := by
    simp only [nanosSince, unixSeconds]
    omega
  refine ⟨?_, ?_, hnanos, ?_⟩
  · simp only [FitsWord]
    omega
  · simp only [FitsWord, unixSeconds]
    omega
  · rw [FitsWord, millisSince, Int.tdiv_eq_ediv, show Int.sign 1000000 = 1 from rfl]
    split <;> omega

/-! ### The contract of distances -/

/-- The distance to an instant from one that is not later is counted in 64 bits, and it is not
negative exactly if time does not run back between them. -/
theorem millisSince_nonneg_iff (h : AxisValue.atMost a b = true) :
    (0 ≤ b.millisSince a ↔ ¬ RunsBack a b) ∧ CountsInWords a b :=
  ⟨millisSince_nonneg_iff_not_runsBack h, countsInWords a b⟩

/-- From the middle of the leap second of 2016 to the middle of the next second there is nothing,
and from the middle of a leap second at noon to the next minute there is half a second. -/
theorem millisSince_nonneg_leapSeconds :
    let leap : Instant := { day := 17166, second := 86399, nano := 1500000000 }
    let midnight : Instant := { day := 17167, second := 0, nano := 500000000 }
    let noon : Instant := { day := 17166, second := 43199, nano := 1500000000 }
    let minute : Instant := { day := 17166, second := 43200, nano := 0 }
    (ofLiteral? "2016-12-31T23:59:60.5" = some leap ∧
        ofLiteral? "2017-01-01T00:00:00.5" = some midnight ∧
        AxisValue.atMost leap midnight = true ∧ 0 ≤ midnight.millisSince leap ∧
          CountsInWords leap midnight) ∧
      (ofLiteral? "2016-12-31T11:59:60.5" = some noon ∧
        ofLiteral? "2016-12-31T12:00:00" = some minute ∧
        AxisValue.atMost noon minute = true ∧ 0 ≤ minute.millisSince noon ∧
          minute.millisSince noon = 500) := by
  intro leap midnight noon minute
  have hmidnight : AxisValue.atMost leap midnight = true := by decide
  have hminute : AxisValue.atMost noon minute = true := by decide
  have hahead : ¬ RunsBack leap midnight := fun hback ↦ absurd hback.ahead (by decide)
  have hlast : ¬ RunsBack noon minute := fun hback ↦ absurd hback.last (by decide)
  obtain ⟨hsign, hwords⟩ := millisSince_nonneg_iff hmidnight
  exact ⟨⟨by decide +kernel, by decide +kernel, hmidnight, hsign.mpr hahead, hwords⟩,
    by decide +kernel, by decide +kernel, hminute, (millisSince_nonneg_iff hminute).1.mpr hlast,
    by decide⟩

/-- From the middle of the leap second of 2016 to the start of the next year, time runs back by half
a second. -/
theorem millisSince_neg_leapSecond :
    let leap : Instant := { day := 17166, second := 86399, nano := 1500000000 }
    let newYear : Instant := { day := 17167, second := 0, nano := 0 }
    ofLiteral? "2016-12-31T23:59:60.5" = some leap ∧ ofLiteral? "2017-01-01" = some newYear ∧
      AxisValue.atMost leap newYear = true ∧ newYear.millisSince leap = -500 ∧
        ¬ 0 ≤ newYear.millisSince leap := by
  decide +kernel

end CoverageSubset.Instant

import CoverageSubset.Instant.Civil
import CoverageSubset.Proofs.Calendar

/-!
# The instants of civil times

A civil time denotes exactly the instant that is as many seconds after the start of 1970 as its date
and its time of day say, less its offset. As offsets are whole minutes, an instant that a civil time
denotes lies in a leap second only at the end of a minute.
-/

namespace CoverageSubset

namespace Instant

variable {t : Instant} {day : Int} {second nano : Nat}

/-- An instant is made exactly of its three numbers. -/
theorem make?_eq_some_iff :
    make? day second nano = some t ↔ t.day = day ∧ t.second = second ∧ t.nano = nano := by
  rw [make?]
  constructor
  · intro h
    split at h
    · obtain rfl := Option.some.inj h
      exact ⟨rfl, rfl, rfl⟩
    · cases h
  · rintro ⟨rfl, rfl, rfl⟩
    rw [dif_pos ⟨t.first_le_day, t.day_le_last, t.second_lt, t.nano_lt⟩]

/-- The seconds since 1970 tell the day and the second of the day. -/
theorem unixSeconds_eq_iff {n : Int} :
    t.unixSeconds = n ↔ t.day = n / 86400 ∧ t.second = (n % 86400).toNat := by
  have := t.second_lt
  rw [unixSeconds]
  omega

/-- If the instant lies in a leap second, that ends a minute. -/
def EndsMinuteInLeap (t : Instant) : Prop := t.inLeapSecond = true → t.second % 60 = 59

instance (t : Instant) : Decidable t.EndsMinuteInLeap := inferInstanceAs (Decidable (_ → _))

end Instant

namespace CivilTime

/-- The nanoseconds of the instant that a civil time denotes. -/
def instantNano (c : CivilTime) : Nat := if c.second = 60 then c.nano + 1000000000 else c.nano

/-- A civil time denotes exactly the instant with its seconds and nanoseconds. -/
theorem toInstant?_eq_some_iff {c : CivilTime} {t : Instant} :
    c.toInstant? = some t ↔
      c.isValid = true ∧ t.unixSeconds = c.date.toDayNumber * 86400 + c.secondsFromMidnight ∧
        t.nano = c.instantNano := by
  have hsplit : t.unixSeconds = c.date.toDayNumber * 86400 + c.secondsFromMidnight ↔
      t.day = c.date.toDayNumber + c.secondsFromMidnight / 86400 ∧
        t.second = (c.secondsFromMidnight % 86400).toNat := by
    rw [Instant.unixSeconds_eq_iff]
    omega
  rw [toInstant?, hsplit, and_assoc, ← Instant.make?_eq_some_iff]
  split
  · next hvalid => simp [hvalid, instantNano]
  · next hvalid => simp [hvalid]

/-- The fields of a civil time that are a date and a time of day. -/
theorem isValid_iff {c : CivilTime} :
    c.isValid = true ↔ c.date.isValid = true ∧ -262143 ≤ c.date.year ∧ c.date.year ≤ 262142 ∧
      c.hour < 24 ∧
      c.minute < 60 ∧ c.second ≤ 60 := by
  simp only [isValid, Bool.and_eq_true, decide_eq_true_eq, and_assoc]

/-- A leap second that a civil time with a whole-minute offset denotes ends a minute. -/
theorem endsMinuteInLeap_of_toInstant? {c : CivilTime} {t : Instant} (h : c.toInstant? = some t)
    (hoffset : c.offset % 60 = 0) (hnano : c.nano < 1000000000) : t.EndsMinuteInLeap := by
  obtain ⟨hvalid, hseconds, htnano⟩ := toInstant?_eq_some_iff.mp h
  intro hleap
  have hsixty : c.second = 60 := by
    rw [Instant.inLeapSecond, decide_eq_true_eq, htnano, instantNano] at hleap
    split at hleap <;> omega
  obtain ⟨-, hsecond⟩ := Instant.unixSeconds_eq_iff.mp hseconds
  rw [secondsFromMidnight, hsixty] at hsecond
  omega

end CivilTime

end CoverageSubset

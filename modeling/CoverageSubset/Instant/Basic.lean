import CoverageSubset.Calendar

/-!
# Instants

A point of time in UTC: a day, a second of that day and the nanoseconds within the second. A leap
second is the second before it with 10⁹ nanoseconds more, so it sorts after the whole of that second
and before the next one. Days are limited to the years -262143 to 262142.

The distance of two instants counts whole milliseconds, toward zero. A leap second that lies between
the two is counted; how far into a leap second an end lies is counted by its nanoseconds.
-/

namespace CoverageSubset

/-- A point of time in UTC. -/
structure Instant where
  /-- Days since 1970-01-01. -/
  day : Int
  /-- Seconds since midnight. -/
  second : Nat
  /-- Nanoseconds since the start of the second, from 10⁹ on in a leap second. -/
  nano : Nat
  first_le_day : Date.toDayNumber ⟨-262143, 1, 1⟩ ≤ day := by decide
  day_le_last : day ≤ Date.toDayNumber ⟨262142, 12, 31⟩ := by decide
  second_lt : second < 86400 := by decide
  nano_lt : nano < 2000000000 := by decide
deriving DecidableEq

namespace Instant

/-- Instants are equal if their three numbers are. -/
theorem ext_iff {a b : Instant} :
    a = b ↔ a.day = b.day ∧ a.second = b.second ∧ a.nano = b.nano := by
  cases a
  cases b
  simp

/-- Midnight of 1970-01-01. -/
def epoch : Instant := { day := 0, second := 0, nano := 0 }

instance : Inhabited Instant := ⟨epoch⟩

/-- The instant of a day, a second and nanoseconds, if the day is in range. -/
def make? (day : Int) (second nano : Nat) : Option Instant :=
  if h : Date.toDayNumber ⟨-262143, 1, 1⟩ ≤ day ∧ day ≤ Date.toDayNumber ⟨262142, 12, 31⟩ ∧
      second < 86400 ∧ nano < 2000000000 then
    some ⟨day, second, nano, h.1, h.2.1, h.2.2.1, h.2.2.2⟩
  else none

/-- The order of time: by day, then second, then nanosecond. -/
instance : Ord Instant :=
  ⟨compareLex (compareOn Instant.day)
    (compareLex (compareOn Instant.second) (compareOn Instant.nano))⟩

theorem compare_def (a b : Instant) :
    compare a b = (compare a.day b.day).then
      ((compare a.second b.second).then (compare a.nano b.nano)) := rfl

instance : Std.TransOrd Instant :=
  inferInstanceAs (Std.TransCmp (compareLex (compareOn Instant.day)
    (compareLex (compareOn Instant.second) (compareOn Instant.nano))))

instance : Std.LawfulEqOrd Instant where
  compare_self := Std.ReflCmp.compare_self
  eq_of_compare {a b} h := by
    rw [compare_def] at h
    simp only [Ordering.then_eq_eq, Std.LawfulEqCmp.compare_eq_iff_eq] at h
    exact ext_iff.2 h

/-- The instant lies in a leap second. -/
def inLeapSecond (t : Instant) : Bool := 1000000000 ≤ t.nano

/-- Seconds since the start of 1970, leap seconds not counted. -/
def unixSeconds (t : Instant) : Int := t.day * 86400 + t.second

/-- The leap second to count between the times of day of two instants: that of the earlier one. -/
def leapBetween (a b : Instant) : Int :=
  if b.second < a.second ∧ b.inLeapSecond then 1
  else if a.second < b.second ∧ a.inLeapSecond then -1
  else 0

/-- The nanoseconds from one instant to another, negative if the other is later. -/
def nanosSince (a b : Instant) : Int :=
  (a.unixSeconds - b.unixSeconds + leapBetween a b) * 1000000000 + ((a.nano : Int) - b.nano)

/-- The whole milliseconds from one instant to another (specification 12.1, the distance of
times). -/
def millisSince (a b : Instant) : Int := (a.nanosSince b).tdiv 1000000

end Instant

end CoverageSubset

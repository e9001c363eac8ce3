import CoverageSubset.Proofs.AxisOrder

/-!
# Distances that grow along the axis

Distances grow if they are linearly ordered and no part of a stretch is longer than the whole.
Between instants they do so unless one of them lies in a leap second: then a distance is the whole
milliseconds of a difference of nanoseconds.
-/

namespace CoverageSubset

namespace AxisValue

variable {α : Type} [AxisValue α]

/-- The distance of two values, to the later one from the earlier one. -/
def apart (a b : α) : Distance α := if atMost a b then since b a else since a b

/-- The distances between certain values are linearly ordered and grow along the axis. -/
structure GrowOn (P : α → Prop) : Prop where
  asymm : ∀ x y : Distance α, shorter x y = true → shorter y x = false
  trans : ∀ x y z : Distance α, shorter x y = false → shorter y z = false → shorter x z = false
  later : ∀ {a b c : α}, P a → P b → P c → atMost a b = true → atMost b c = true →
    shorter (since c a) (since b a) = false
  earlier : ∀ {a b c : α}, P a → P b → P c → atMost a b = true → atMost b c = true →
    shorter (since c a) (since c b) = false

/-- From a lower value the distance is that to the upper one. -/
theorem apart_of_lt {a b : α} (h : compare a b = .lt) : apart a b = since b a := by
  rw [apart, atMost_of_lt h]
  rfl

/-- From an upper value the distance is that from the lower one. -/
theorem apart_of_gt [Std.TransOrd α] {a b : α} (h : compare b a = .lt) : apart a b = since a b := by
  rw [apart, not_atMost_of_lt h]
  rfl

end AxisValue

namespace Instant

/-- The nanoseconds since the start of 1970, leap seconds not counted. -/
def unixNanos (t : Instant) : Int := t.unixSeconds * 1000000000 + t.nano

private theorem nanosSince_eq_sub {a b : Instant} (ha : a.inLeapSecond = false)
    (hb : b.inLeapSecond = false) :
    a.nanosSince b = a.unixNanos - b.unixNanos := by
  simp only [nanosSince, leapBetween, unixNanos, ha, hb, Bool.false_eq_true, and_false, ite_false]
  omega

/-- Instants are in order if their days are, or else their seconds, or else their nanoseconds. -/
theorem atMost_iff {a b : Instant} :
    AxisValue.atMost a b = true ↔
      a.day < b.day ∨ a.day = b.day ∧
        (a.second < b.second ∨ a.second = b.second ∧ a.nano ≤ b.nano) := by
  rw [AxisValue.atMost, compare_def, Ordering.isLE_then_iff_or, Ordering.isLE_then_iff_or,
    Int.compare_eq_lt, Int.compare_eq_eq, Nat.compare_eq_lt, Nat.compare_eq_eq, Nat.isLE_compare]

private theorem unixNanos_le_of_atMost {a b : Instant} (ha : a.inLeapSecond = false)
    (h : AxisValue.atMost a b = true) :
    a.unixNanos ≤ b.unixNanos := by
  have hnano : a.nano < 1000000000 := by simpa [inLeapSecond] using ha
  have hsecond := a.second_lt
  rw [atMost_iff] at h
  simp only [unixNanos, unixSeconds]
  omega

/-- Outside leap seconds a greater difference has at least as many whole milliseconds. -/
theorem millisSince_le {a b c d : Instant} (ha : a.inLeapSecond = false)
    (hb : b.inLeapSecond = false) (hc : c.inLeapSecond = false) (hd : d.inLeapSecond = false)
    (h : a.unixNanos - b.unixNanos ≤ c.unixNanos - d.unixNanos) :
    a.millisSince b ≤ c.millisSince d := by
  rw [millisSince, millisSince, nanosSince_eq_sub ha hb, nanosSince_eq_sub hc hd]
  exact Int.tdiv_le_tdiv (by decide) h

/-- The distances of instants outside leap seconds grow along the axis. -/
theorem growOn_not_inLeapSecond : AxisValue.GrowOn fun t : Instant ↦ t.inLeapSecond = false where
  asymm := by
    intro (x : Int) (y : Int) h
    exact decide_eq_false (Int.not_lt.mpr (Int.le_of_lt (of_decide_eq_true h)))
  trans := by
    intro (x : Int) (y : Int) (z : Int) hxy hyz
    have hyx : y ≤ x := Int.not_lt.mp (of_decide_eq_false hxy)
    have hzy : z ≤ y := Int.not_lt.mp (of_decide_eq_false hyz)
    exact decide_eq_false (Int.not_lt.mpr (Int.le_trans hzy hyx))
  later ha hb hc hab hbc := by
    have hle := millisSince_le hb ha hc ha (Int.sub_le_sub_right (unixNanos_le_of_atMost hb hbc) _)
    exact decide_eq_false (Int.not_lt.mpr hle)
  earlier ha hb hc hab hbc := by
    have hle := millisSince_le hc hb hc ha (Int.sub_le_sub_left (unixNanos_le_of_atMost ha hab) _)
    exact decide_eq_false (Int.not_lt.mpr hle)

end Instant

end CoverageSubset

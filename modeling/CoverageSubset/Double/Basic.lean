/-!
# Double-precision numbers

A binary64 number as its sign and the 63 bits below the sign: 11 of exponent, 52 of fraction.
Magnitudes grow with the numbers they stand for, from zero over the subnormal and normal numbers to
infinity, and the not-a-number patterns lie above infinity.

There are two orders. `compare` is the total order in which negative zero is below zero and each
not-a-number pattern has a place at one end; it sorts and matches. `lt` and `le` are the arithmetic
comparisons, in which the zeros are equal and no comparison with a not-a-number holds.
-/

namespace CoverageSubset

/-- A binary64 number: its sign bit and the bits below it. -/
structure Double where
  negative : Bool
  magnitude : Nat
  magnitude_lt : magnitude < 0x8000000000000000
deriving DecidableEq

namespace Double

/-- Numbers are equal if their signs and magnitudes are. -/
theorem ext_iff {a b : Double} : a = b ↔ a.negative = b.negative ∧ a.magnitude = b.magnitude := by
  cases a
  cases b
  simp

/-- The magnitude of infinity. -/
def infiniteMagnitude : Nat := 0x7FF0000000000000

/-- The number of a sign and a magnitude; a magnitude too large becomes infinity. -/
def ofMagnitude (negative : Bool) (magnitude : Nat) : Double :=
  if h : magnitude ≤ infiniteMagnitude then
    ⟨negative, magnitude, Nat.lt_of_le_of_lt h (by decide)⟩
  else ⟨negative, infiniteMagnitude, by decide⟩

/-- Zero, of either sign. -/
def zero (negative : Bool) : Double := ⟨negative, 0, by decide⟩

/-- Infinity, of either sign. -/
def infinity (negative : Bool) : Double := ⟨negative, infiniteMagnitude, by decide⟩

/-- The quiet not-a-number, of either sign. -/
def notANumber (negative : Bool) : Double := ⟨negative, 0x7FF8000000000000, by decide⟩

instance : Inhabited Double := ⟨zero false⟩

/-- The pattern stands for no number. -/
def isNaN (x : Double) : Bool := infiniteMagnitude < x.magnitude

/-- The pattern stands for a real number. -/
def isFinite (x : Double) : Bool := x.magnitude < infiniteMagnitude

/-- The 64 bits as one number. -/
def toBits (x : Double) : Nat := (if x.negative then 0x8000000000000000 else 0) + x.magnitude

/-- The place of a number in the total order: negative patterns count down from minus one. -/
def key (x : Double) : Int := if x.negative then -(x.magnitude : Int) - 1 else x.magnitude

/-- No two numbers share a place. -/
theorem key_inj {a b : Double} : a.key = b.key ↔ a = b := by
  rw [ext_iff]
  unfold key
  constructor
  · intro h
    cases ha : a.negative <;> cases hb : b.negative <;> simp [ha, hb] at h ⊢ <;> omega
  · rintro ⟨h, h'⟩
    rw [h, h']

instance : Ord Double := ⟨fun a b ↦ compare a.key b.key⟩

theorem compare_def (a b : Double) : compare a b = compare a.key b.key := rfl

instance : Std.TransOrd Double where
  eq_swap {a b} := by rw [compare_def, compare_def]; exact Std.OrientedCmp.eq_swap
  isLE_trans {a b c} h h' := by rw [compare_def] at *; exact Std.TransCmp.isLE_trans h h'

instance : Std.LawfulEqOrd Double where
  compare_self {a} := by rw [compare_def]; exact Std.ReflCmp.compare_self
  eq_of_compare {a b} h := by
    rw [compare_def] at h; exact key_inj.1 (Std.LawfulEqCmp.eq_of_compare h)

/-- The place of a number on the real line, both zeros in one place. -/
def position (x : Double) : Int := if x.negative then -(x.magnitude : Int) else x.magnitude

/-- The arithmetic "less than": false whenever a side is not a number. -/
def lt (a b : Double) : Bool := !a.isNaN && !b.isNaN && decide (a.position < b.position)

/-- The arithmetic "less than or equal": false whenever a side is not a number. -/
def le (a b : Double) : Bool := !a.isNaN && !b.isNaN && decide (a.position ≤ b.position)

/-- The arithmetic equality: the zeros are equal and a not-a-number equals nothing. -/
def same (a b : Double) : Bool := !a.isNaN && !b.isNaN && decide (a.position = b.position)

/-- The number with the other sign. -/
def neg (x : Double) : Double := { x with negative := !x.negative }

/-- The whole significand and the power of two it is multiplied by, for a finite number. -/
def scaled (x : Double) : Nat × Int :=
  let exponent : Nat := x.magnitude / 0x10000000000000
  let fraction : Nat := x.magnitude % 0x10000000000000
  if exponent = 0 then (fraction, -1074) else (0x10000000000000 + fraction, (exponent : Int) - 1075)

end Double

end CoverageSubset

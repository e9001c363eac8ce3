import CoverageSubset.Double.Round
import Mathlib.Algebra.Group.Nat.Defs
import Mathlib.Tactic.SplitIfs

/-!
# Bounds of rounded results

A quotient below a power of two rounds to a double that is at most this power. Whether a quotient is
below a power of two is a comparison of whole numbers, which may be shifted by any power that makes
both sides whole.
-/

namespace CoverageSubset.Double

/-- The quotient of two whole numbers is less than a power of two. -/
def QuotientLT (num den : Nat) (z : Int) : Prop := num * 2 ^ (-z).toNat < den * 2 ^ z.toNat

variable {num den k : Nat} {z w : Int}

private theorem quotientLT_iff {s : Nat} (hs : 0 ≤ z + s) :
    QuotientLT num den z ↔ num * 2 ^ s < den * 2 ^ (z + s).toNat := by
  rw [QuotientLT]
  rcases Int.le_total 0 z with hz | hz
  · have hleft : (-z).toNat = 0 := by omega
    have hright : (z + s).toNat = z.toNat + s := by omega
    rw [hleft, hright, Nat.pow_zero, Nat.mul_one, Nat.pow_add, ← Nat.mul_assoc]
    exact (Nat.mul_lt_mul_right (Nat.two_pow_pos s)).symm
  · have hleft : s = (-z).toNat + (z + s).toNat := by omega
    have hright : z.toNat = 0 := by omega
    rw [hright, Nat.pow_zero, Nat.mul_one]
    generalize (z + s).toNat = r at hleft ⊢
    rw [hleft, Nat.pow_add, ← Nat.mul_assoc]
    exact (Nat.mul_lt_mul_right (Nat.two_pow_pos r)).symm

/-- A quotient is less than every greater power of two. -/
theorem QuotientLT.mono (h : QuotientLT num den z) (hzw : z ≤ w) : QuotientLT num den w := by
  rw [quotientLT_iff (by omega : 0 ≤ z + ((-z).toNat : Nat))] at h
  rw [quotientLT_iff (by omega : 0 ≤ w + ((-z).toNat : Nat))]
  have hpow : 2 ^ (z + ((-z).toNat : Nat)).toNat ≤ 2 ^ (w + ((-z).toNat : Nat)).toNat :=
    Nat.pow_le_pow_right (by decide) (by omega)
  exact Nat.lt_of_lt_of_le h (Nat.mul_le_mul_left den hpow)

private theorem lt_of_quotientLT (h : QuotientLT num den z) (hw : ¬ QuotientLT num den w) : w < z :=
  Int.not_le.mp fun hle ↦ hw (h.mono hle)

private theorem quotientLT_log2 (hden : den ≠ 0) :
    QuotientLT num den ((num.log2 : Int) - den.log2 + 1) := by
  rw [quotientLT_iff (by omega : 0 ≤ (num.log2 : Int) - den.log2 + 1 + den.log2)]
  have hpower : ((num.log2 : Int) - den.log2 + 1 + den.log2).toNat = num.log2 + 1 := by omega
  have hnum : num < 2 ^ (num.log2 + 1) := Nat.lt_log2_self
  have hlow : 2 ^ den.log2 ≤ den := Nat.log2_self_le hden
  rw [hpower, Nat.mul_comm den]
  calc num * 2 ^ den.log2 < 2 ^ (num.log2 + 1) * 2 ^ den.log2 :=
    Nat.mul_lt_mul_of_pos_right hnum (Nat.two_pow_pos _)
    _ ≤ 2 ^ (num.log2 + 1) * den := Nat.mul_le_mul_left _ hlow

private theorem not_quotientLT_log2 (hnum : num ≠ 0) :
    ¬ QuotientLT num den ((num.log2 : Int) - den.log2 - 1) := by
  rw [quotientLT_iff (by omega : 0 ≤ (num.log2 : Int) - den.log2 - 1 + (den.log2 + 1 : Nat))]
  have hpower : ((num.log2 : Int) - den.log2 - 1 + (den.log2 + 1 : Nat)).toNat = num.log2 := by
    omega
  have hlow : 2 ^ num.log2 ≤ num := Nat.log2_self_le hnum
  have hden : den < 2 ^ (den.log2 + 1) := Nat.lt_log2_self
  rw [hpower, Nat.not_lt, Nat.mul_comm num]
  calc den * 2 ^ num.log2 ≤ 2 ^ (den.log2 + 1) * 2 ^ num.log2 :=
    Nat.mul_le_mul_right _ (Nat.le_of_lt hden)
    _ ≤ 2 ^ (den.log2 + 1) * num := Nat.mul_le_mul_left _ hlow

private theorem unitExponent_bounds (hnum : num ≠ 0) (hden : den ≠ 0) (h : QuotientLT num den k) :
    QuotientLT num den (unitExponent num den + 53) ∧ -1074 ≤ unitExponent num den ∧
      unitExponent num den ≤ k - 53 := by
  obtain ⟨guess, hguess⟩ : ∃ guess : Int, guess = (num.log2 : Int) - den.log2 - 52 := ⟨_, rfl⟩
  have hshort : (if 0 ≤ guess then decide (num < den * Nat.pow 2 (guess.toNat + 52))
      else decide (num * Nat.pow 2 (-guess).toNat < den * Nat.pow 2 52)) = true ↔
        QuotientLT num den (guess + 52) := by
    split
    · rw [decide_eq_true_eq, quotientLT_iff (by omega : 0 ≤ guess + 52 + (0 : Nat))]
      have hpower : (guess + 52 + (0 : Nat)).toNat = guess.toNat + 52 := by omega
      rw [hpower, Nat.pow_zero, Nat.mul_one]
      rfl
    · rw [decide_eq_true_eq, quotientLT_iff (by omega : 0 ≤ guess + 52 + ((-guess).toNat : Nat))]
      have hpower : (guess + 52 + ((-guess).toNat : Nat)).toNat = 52 := by omega
      rw [hpower]
      rfl
  have hhigh : QuotientLT num den (guess + 53) := by
    rw [show guess + 53 = (num.log2 : Int) - den.log2 + 1 by omega]
    exact quotientLT_log2 hden
  have hlow : (num.log2 : Int) - den.log2 - 1 < k := lt_of_quotientLT h (not_quotientLT_log2 hnum)
  have hunit : unitExponent num den =
      max (if (if 0 ≤ guess then decide (num < den * Nat.pow 2 (guess.toNat + 52))
          else decide (num * Nat.pow 2 (-guess).toNat < den * Nat.pow 2 52)) = true
        then guess - 1 else guess) (-1074) := by
    rw [hguess]
    rfl
  rw [hunit]
  by_cases hlt : QuotientLT num den (guess + 52)
  · rw [if_pos (hshort.mpr hlt)]
    exact ⟨hlt.mono (by omega), by omega, by omega⟩
  · have := lt_of_quotientLT h hlt
    rw [if_neg (mt hshort.mp hlt)]
    exact ⟨hhigh.mono (by omega), by omega, by omega⟩

private theorem nearestWhole_le {n : Nat} (h : num < den * n) : nearestWhole num den ≤ n := by
  have hq : num / den < n := Nat.div_lt_of_lt_mul h
  rw [nearestWhole]
  split_ifs <;> omega

/-- A quotient below a power of two has at most the magnitude of this power. -/
theorem nearestMagnitude_le (hden : den ≠ 0) (h : QuotientLT num den k) :
    nearestMagnitude num den ≤ (k + 1023) * 2 ^ 52 := by
  rw [nearestMagnitude]
  split
  · exact Nat.zero_le _
  · next hnum =>
    obtain ⟨hbits, hlow, hhigh⟩ := unitExponent_bounds hnum hden h
    obtain ⟨e, he⟩ : ∃ e, e = unitExponent num den := ⟨_, rfl⟩
    rw [← he] at hbits hlow hhigh ⊢
    have hwhole : (if 0 ≤ e then nearestWhole num (den * Nat.pow 2 e.toNat)
        else nearestWhole (num * Nat.pow 2 (-e).toNat) den) ≤ 2 ^ 53 := by
      split
      · apply nearestWhole_le
        rw [quotientLT_iff (by omega : 0 ≤ e + 53 + (0 : Nat))] at hbits
        have hpower : (e + 53 + (0 : Nat)).toNat = e.toNat + 53 := by omega
        rwa [hpower, Nat.pow_zero, Nat.mul_one, Nat.pow_add, ← Nat.mul_assoc] at hbits
      · apply nearestWhole_le
        rw [quotientLT_iff (by omega : 0 ≤ e + 53 + ((-e).toNat : Nat))] at hbits
        have hpower : (e + 53 + ((-e).toNat : Nat)).toNat = 53 := by omega
        rwa [hpower] at hbits
    change (e + 1074).toNat * 2 ^ 52 + _ ≤ _
    omega

/-! ### Doubles up to a power of two -/

/-- The magnitude is at most that of a power of two. -/
def AtMostPower (x : Double) (k : Nat) : Prop := x.magnitude ≤ (k + 1023) * 2 ^ 52

variable {a b x : Double}

/-- A double up to a power of two in range is finite. -/
theorem AtMostPower.isFinite (h : x.AtMostPower k) (hk : k ≤ 1023) : x.isFinite = true := by
  rw [AtMostPower] at h
  rw [Double.isFinite, infiniteMagnitude, decide_eq_true_eq]
  omega

/-- A quotient below a power of two in range rounds to at most this power. -/
theorem atMostPower_ofQuotient (negative : Bool) (hden : den ≠ 0) (h : QuotientLT num den k)
    (hk : k ≤ 1023) :
    (ofQuotient negative num den).AtMostPower k := by
  have hle := nearestMagnitude_le hden h
  have hinfinite : infiniteMagnitude = 2047 * 2 ^ 52 := rfl
  have hrange : nearestMagnitude num den ≤ infiniteMagnitude := by omega
  rw [AtMostPower, ofQuotient, ofMagnitude, dif_pos hrange]
  dsimp only
  exact hle

/-- One has two to this power units of the least positive number. -/
@[irreducible] def unitPower : Nat := 1074

/-- A finite number in units of the least positive one. -/
def units (x : Double) : Nat := x.scaled.1 * 2 ^ (x.scaled.2 + unitPower).toNat

private theorem units_of_subnormal (h : x.magnitude / 0x10000000000000 = 0) :
    x.units = x.magnitude % 0x10000000000000 * 2 ^ 0 := by
  rw [units, scaled, if_pos h, unitPower]
  rfl

private theorem units_of_normal (h : x.magnitude / 0x10000000000000 ≠ 0) :
    x.units = (0x10000000000000 + x.magnitude % 0x10000000000000) * 2 ^
      (x.magnitude / 0x10000000000000 - 1) := by
  have hpower : (((x.magnitude / 0x10000000000000 : Nat) : Int) - 1075 + unitPower).toNat =
      x.magnitude / 0x10000000000000 - 1 := by
    rw [unitPower]
    omega
  rw [units, scaled, if_neg h]
  dsimp only
  rw [hpower]

private theorem AtMostPower.units_le (h : x.AtMostPower k) : x.units ≤ 2 ^ (k + unitPower) := by
  rw [AtMostPower] at h
  rw [unitPower]
  by_cases hnormal : x.magnitude / 0x10000000000000 = 0
  · rw [units_of_subnormal hnormal]
    calc x.magnitude % 0x10000000000000 * 2 ^ 0 ≤ 2 ^ 52 := by omega
      _ ≤ 2 ^ (k + 1074) := Nat.pow_le_pow_right (by decide) (by omega)
  · rw [units_of_normal hnormal]
    -- The significand of the power itself is a power of two, and that of a smaller number is less
    -- than the next one.
    rcases Nat.lt_or_ge (x.magnitude / 0x10000000000000) (k + 1023) with hlt | hge
    · calc
        (0x10000000000000 + x.magnitude % 0x10000000000000) *
            2 ^ (x.magnitude / 0x10000000000000 - 1)
          ≤ 2 ^ 53 * 2 ^ (k + 1021) :=
            Nat.mul_le_mul (by omega) (Nat.pow_le_pow_right (by decide) (by omega))
        _ = 2 ^ (k + 1074) := by rw [← Nat.pow_add, Nat.add_comm]
    · calc
        (0x10000000000000 + x.magnitude % 0x10000000000000) *
            2 ^ (x.magnitude / 0x10000000000000 - 1)
          ≤ 2 ^ 52 * 2 ^ (k + 1022) :=
            Nat.mul_le_mul (by omega) (Nat.pow_le_pow_right (by decide) (by omega))
        _ = 2 ^ (k + 1074) := by rw [← Nat.pow_add, Nat.add_comm]

private theorem le_units (h : 1023 * 2 ^ 52 ≤ x.magnitude) : 2 ^ unitPower ≤ x.units := by
  obtain ⟨r, hr⟩ : ∃ r, r = 1022 := ⟨_, rfl⟩
  have hpower : unitPower = 52 + r := by rw [unitPower, hr]
  rw [units_of_normal (by omega), hpower, Nat.pow_add]
  exact Nat.mul_le_mul (by omega) (Nat.pow_le_pow_right (by decide) (by omega))

private theorem le_scaled_snd (x : Double) : 0 ≤ x.scaled.2 + unitPower := by
  have hpower : (unitPower : Int) = 1074 := by rw [unitPower]; rfl
  rw [scaled]
  split <;> dsimp only <;> omega

private theorem quotientLT_of_mul_le {s : Nat} (hden : den ≠ 0) (hs : 0 < s)
    (h : num * s ≤ 2 ^ k * (den * s)) :
    QuotientLT num den (k + 1 : Nat) := by
  rw [← Nat.mul_assoc] at h
  have hle : num ≤ 2 ^ k * den := Nat.le_of_mul_le_mul_right h hs
  have hpos : 0 < 2 ^ k * den := Nat.mul_pos (Nat.two_pow_pos k) (Nat.pos_of_ne_zero hden)
  rw [quotientLT_iff (by omega : 0 ≤ ((k + 1 : Nat) : Int) + (0 : Nat))]
  have hpower : (((k + 1 : Nat) : Int) + (0 : Nat)).toNat = k + 1 := by omega
  rw [hpower, Nat.pow_zero, Nat.mul_one, Nat.pow_succ, ← Nat.mul_assoc, Nat.mul_comm den]
  omega

/-- Dividing by a number from one on gives at most the next power of two. -/
theorem AtMostPower.divFinite (ha : a.AtMostPower k) (hb : 1023 * 2 ^ 52 ≤ b.magnitude)
    (hk : k < 1023) :
    (a.divFinite b).AtMostPower (k + 1) := by
  have hunits := ha.units_le
  have hone := le_units hb
  have he := a.le_scaled_snd
  have hf := b.le_scaled_snd
  rw [units] at hunits hone
  rw [Double.divFinite]
  generalize a.scaled = p at hunits he ⊢
  generalize b.scaled = q at hone hf ⊢
  obtain ⟨m, e⟩ := p
  obtain ⟨n, f⟩ := q
  dsimp only at hunits hone he hf ⊢
  have hn : n ≠ 0 := by
    rintro rfl
    rw [Nat.zero_mul] at hone
    exact absurd hone (Nat.not_le_of_lt (Nat.two_pow_pos _))
  have hle : m * 2 ^ (e + unitPower).toNat ≤ 2 ^ k * (n * 2 ^ (f + unitPower).toNat) := by
    refine Nat.le_trans hunits ?_
    rw [Nat.pow_add]
    exact Nat.mul_le_mul_left _ hone
  split
  · next hfe =>
    apply atMostPower_ofQuotient _ hn _ hk
    apply quotientLT_of_mul_le hn (Nat.two_pow_pos (f + unitPower).toNat)
    have hpower : (e + unitPower).toNat = (e - f).toNat + (f + unitPower).toNat := by omega
    have hregroup : m * 2 ^ (e + unitPower).toNat =
      m * 2 ^ (e - f).toNat * 2 ^ (f + unitPower).toNat := by
      rw [hpower, Nat.pow_add, Nat.mul_assoc]
    rwa [hregroup] at hle
  · next hef =>
    have hden : n * 2 ^ (f - e).toNat ≠ 0 :=
      Nat.mul_ne_zero hn (Nat.pos_iff_ne_zero.mp (Nat.two_pow_pos _))
    apply atMostPower_ofQuotient _ hden _ hk
    apply quotientLT_of_mul_le hden (Nat.two_pow_pos (e + unitPower).toNat)
    have hpower : (f + unitPower).toNat = (f - e).toNat + (e + unitPower).toNat := by omega
    have hregroup : n * 2 ^ (f + unitPower).toNat =
      n * 2 ^ (f - e).toNat * 2 ^ (e + unitPower).toNat := by
      rw [hpower, Nat.pow_add, Nat.mul_assoc]
    rwa [hregroup] at hle

end CoverageSubset.Double

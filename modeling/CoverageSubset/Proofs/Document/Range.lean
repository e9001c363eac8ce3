import CoverageSubset.Proofs.Document.RoundTrip
import CoverageSubset.Proofs.Double.Bounds

/-!
# The numbers of a document that was read

However a document is written, the whole numbers in it fit 64 bits and its other numbers are finite.
A number beyond every double is refused or has no meaning, and dividing by powers of ten does not
lead out of range.
-/

namespace CoverageSubset

namespace Document

/-- A whole number fits 64 bits, and any other number is finite. -/
def InRange : Document → Prop
  | integer n => n.natAbs ≤ greatestWord
  | real x => x.isFinite = true
  | _ => True

/-- Whole numbers of 64 bits are less than two to the power 64. -/
theorem atMostPower_ofQuotient_word {n : Nat} (h : n ≤ greatestWord) (negative : Bool) :
    (Double.ofQuotient negative n 1).AtMostPower 64 := by
  apply Double.atMostPower_ofQuotient negative (by decide) _ (by decide)
  have hlt : n < 2 ^ 64 := Nat.lt_of_le_of_lt h (by decide)
  simpa [Double.QuotientLT] using hlt

private theorem le_magnitude_powerOfTen {n : Nat} (h : n ≤ 308) :
    1023 * 2 ^ 52 ≤ (powerOfTen n).magnitude := by
  have hall : ∀ m < 309, 1023 * 2 ^ 52 ≤ (powerOfTen m).magnitude := by decide +kernel
  exact hall n (Nat.lt_succ_of_le h)

private theorem le_of_appendDigit? {n m : Nat} {c : Char} (h : appendDigit? n c = some m) :
    m ≤ greatestWord := by
  simp only [appendDigit?, Option.ite_none_right_eq_some, Option.some.injEq] at h
  obtain ⟨hle, rfl⟩ := h
  exact hle

private theorem appendDigits_fst_le {n : Nat} (h : n ≤ greatestWord) (cs : List Char) :
    (appendDigits n cs).1 ≤ greatestWord := by
  induction cs generalizing n with
  | nil => exact h
  | cons c cs ih =>
    rw [appendDigits]
    cases hm : appendDigit? n c with
    | none => exact h
    | some m => exact ih (le_of_appendDigit? hm)

private theorem isFinite_of_scaleByTen? {x y : Double} {exponent : Int} {k n : Nat}
    (hx : x.AtMostPower k) (hk : k + n ≤ 1023)
    (h : scaleByTen? x exponent n = some y) : y.isFinite = true := by
  induction n generalizing x exponent k with
  | zero =>
    obtain rfl := Option.some.inj h
    exact hx.isFinite hk
  | succ n ih =>
    rw [scaleByTen?] at h
    split at h
    · next hsmall =>
      split at h
      · obtain ⟨hfinite, heq⟩ := Option.ite_none_right_eq_some.mp h
        exact Option.some.inj heq ▸ hfinite
      · obtain rfl := Option.some.inj h
        exact (hx.divFinite (le_magnitude_powerOfTen hsmall) (by omega)).isFinite (by omega)
    · split at h
      · obtain rfl := Option.some.inj h
        exact hx.isFinite (by omega)
      · split at h
        · cases h
        · exact ih (hx.divFinite (le_magnitude_powerOfTen (by decide)) (by omega)) (by omega) h

private theorem throughout_signedReal (negative : Bool) {x : Double} (hx : x.isFinite = true) :
    (signedReal negative x).Throughout InRange := by
  cases negative with
  | true => exact .real hx
  | false => exact .real hx

private theorem throughout_of_realOf? {negative : Bool} {digits : Nat} {exponent : Int}
    {d : Document}
    (hdigits : digits ≤ greatestWord) (h : realOf? negative digits exponent = some d) :
    d.Throughout InRange := by
  obtain ⟨x, hx, rfl⟩ := Option.map_eq_some_iff.mp h
  exact throughout_signedReal negative
    (isFinite_of_scaleByTen? (atMostPower_ofQuotient_word hdigits false) (by decide) hx)

/-- The value of a number is in range. -/
theorem throughout_of_value? {n : Numeral} {d : Document} (h : n.value? = some d) :
    d.Throughout InRange := by
  have hwhole : (appendDigits 0 n.whole).1 ≤ greatestWord :=
    appendDigits_fst_le (Nat.zero_le _) n.whole
  have hboth (ds : List Char) : (appendDigits (appendDigits 0 n.whole).1 ds).1 ≤ greatestWord :=
    appendDigits_fst_le hwhole ds
  rw [Numeral.value?] at h
  dsimp only at h
  split at h
  · split at h
    · split at h
      · obtain rfl := Option.some.inj h
        have hpower := atMostPower_ofQuotient_word hwhole false
        exact throughout_signedReal true (hpower.isFinite (by decide))
      · obtain rfl := Option.some.inj h
        exact .integer ((Int.natAbs_neg _).trans_le hwhole)
    · obtain rfl := Option.some.inj h
      exact .integer hwhole
  · split at h
    · exact throughout_of_realOf? (hboth _) h
    · split at h
      · exact throughout_of_realOf? (hboth _) h
      · obtain ⟨-, heq⟩ := Option.ite_none_right_eq_some.mp h
        obtain rfl := Option.some.inj heq
        exact throughout_signedReal _ (by decide)

/-! ### Values that were read -/

/-- What is read has its numbers in range. -/
def ReadsInRange (read : List Char → Scan (Document × List Char)) : Prop :=
  ∀ cs d rest, read cs = .ok (d, rest) → d.Throughout InRange

variable {strict : Bool} {value : List Char → Scan (Document × List Char)}
  {cs rest : List Char} {d : Document}

/-- A number is in range. -/
theorem readsInRange_readNumber (strict negative : Bool) :
    ReadsInRange (readNumber strict negative) := by
  intro cs d rest h
  obtain ⟨⟨whole, cs⟩, -, h⟩ := bind_eq_ok_iff.mp h
  obtain ⟨⟨fraction, cs⟩, -, h⟩ := bind_eq_ok_iff.mp h
  obtain ⟨⟨exponent, cs⟩, -, h⟩ := bind_eq_ok_iff.mp h
  dsimp only at h
  split at h
  · next hvalue =>
    obtain ⟨rfl, -⟩ := Prod.mk.inj (Except.ok.inj h)
    exact throughout_of_value? hvalue
  · split at h
    · cases h
    · obtain ⟨rfl, -⟩ := Prod.mk.inj (Except.ok.inj h)
      exact .meaningless trivial

private theorem throughout_of_readWord {e : Document} (he : e.Throughout InRange) {ws : List Char}
    (h : readWord e ws cs = .ok (d, rest)) : d.Throughout InRange := by
  induction ws generalizing cs with
  | nil =>
    obtain ⟨rfl, -⟩ := Prod.mk.inj (Except.ok.inj h)
    exact he
  | cons w ws ih =>
    cases cs with
    | nil => cases h
    | cons c cs =>
      rw [readWord] at h
      split at h
      · exact ih h
      · cases h

private theorem throughout_of_readItems (hvalue : ReadsInRange value) {before : List Document}
    (hbefore : ∀ d ∈ before, d.Throughout InRange) {n : Nat}
    (h : readItems value before n cs = .ok (d, rest)) :
    d.Throughout InRange := by
  induction n generalizing before cs with
  | zero => cases h
  | succ n ih =>
    -- Wherever the next item starts, it is read and put before the others.
    have hitem (start : List Char)
        (h : (value start >>= fun p ↦ readItems value (p.1 :: before) n p.2) = .ok (d, rest)) :
        d.Throughout InRange := by
      obtain ⟨⟨e, cs⟩, he, h⟩ := bind_eq_ok_iff.mp h
      exact ih (List.forall_mem_cons.mpr ⟨hvalue _ _ _ he, hbefore⟩) h
    rw [readItems] at h
    split at h
    · cases h
    · obtain ⟨rfl, -⟩ := Prod.mk.inj (Except.ok.inj h)
      exact .list fun d hd ↦ hbefore d (List.mem_reverse.mp hd)
    · split at h
      · exact hitem _ h
      · split at h
        · split at h
          · cases h
          · cases h
          · exact hitem _ h
        · cases h

private theorem throughout_of_readFields (hvalue : ReadsInRange value) {first : Bool}
    {before : Option (List (String × Document))}
    (hbefore : ∀ fields, before = some fields → ∀ f ∈ fields, f.2.Throughout InRange) {n : Nat}
    (h : readFields strict value first before n cs = .ok (d, rest)) : d.Throughout InRange := by
  induction n generalizing first before cs with
  | zero => cases h
  | succ n ih =>
    rw [readFields] at h
    split at h
    · cases h
    · split at h
      · next fields =>
        obtain ⟨rfl, -⟩ := Prod.mk.inj (Except.ok.inj h)
        exact .object fun f hf ↦ hbefore fields rfl f (List.mem_reverse.mp hf)
      · obtain ⟨rfl, -⟩ := Prod.mk.inj (Except.ok.inj h)
        exact .meaningless trivial
    · obtain ⟨cs, -, h⟩ := bind_eq_ok_iff.mp h
      obtain ⟨⟨name, cs⟩, -, h⟩ := bind_eq_ok_iff.mp h
      obtain ⟨cs, -, h⟩ := bind_eq_ok_iff.mp h
      obtain ⟨⟨e, cs⟩, he, h⟩ := bind_eq_ok_iff.mp h
      refine ih ?_ h
      intro fields hfields
      obtain ⟨b, hb, hname⟩ := Option.bind_eq_some_iff.mp hfields
      obtain ⟨s, -, rfl⟩ := Option.map_eq_some_iff.mp hname
      exact List.forall_mem_cons.mpr ⟨hvalue _ _ _ he, hbefore b hb⟩

/-- A value is in range. -/
theorem readsInRange_readValue (n depth : Nat) : ReadsInRange (readValue strict n depth) := by
  induction n generalizing depth with
  | zero =>
    intro cs d rest h
    cases h
  | succ n ih =>
    intro cs d rest h
    rw [readValue] at h
    split at h
    · cases h
    · split_ifs at h
      · exact throughout_of_readWord .null h
      · exact throughout_of_readWord (.bool true) h
      · exact throughout_of_readWord (.bool false) h
      · obtain ⟨⟨s, cs⟩, -, h⟩ := bind_eq_ok_iff.mp h
        obtain ⟨rfl, -⟩ := Prod.mk.inj (Except.ok.inj h)
        cases s with
        | none => exact .meaningless trivial
        | some s => exact .text s
      · exact readsInRange_readNumber strict true _ _ _ h
      · exact readsInRange_readNumber strict false _ _ _ h
      · cases h
      · exact throughout_of_readItems (ih (depth + 1)) (by simp) h
      · cases h
      · exact throughout_of_readFields (ih (depth + 1)) (by simp) h
      · cases h

/-- A document that was read leniently has its numbers in range. -/
theorem throughout_of_ofLenientText? {s : String} (h : ofLenientText? s = some d) :
    d.Throughout InRange := by
  obtain ⟨⟨e, rest⟩, hvalue, hend⟩ := bind_eq_ok_iff.mp (toOption_eq_some_iff.mp h)
  dsimp only at hend
  split at hend
  · obtain rfl := Except.ok.inj hend
    exact readsInRange_readValue _ _ _ _ _ hvalue
  · cases hend

end Document

end CoverageSubset

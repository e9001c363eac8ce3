import CoverageSubset.Double.Layout
import CoverageSubset.Proofs.Document.Framing

/-!
# The text of doubles

A finite double is written as a number: an optional minus sign, then digits, perhaps with a point or
an exponent.
-/

namespace CoverageSubset.Double

open Text Document

variable {ds : List Char}

private theorem isNumeral_positionalDigits (l : Layout) (exponent : Int)
    (hds : ∀ c ∈ ds, c.isDigit = true)
    (hlength : 0 < ds.length) : IsNumeral (positionalDigits l ds exponent) := by
  have hnumeric : ∀ c ∈ ds, isNumeric c = true := fun c hc ↦ isNumeric_of_isDigit (hds c hc)
  have hzeros {n : Nat} : ∀ c ∈ List.replicate n '0', isNumeric c = true := by
    intro c hc
    rw [(List.mem_replicate.mp hc).2]
    rfl
  rw [positionalDigits]
  split
  · constructor
    · rw [List.append_assoc]
      exact startsWithDigit_append hds hlength _
    · simp only [List.mem_append]
      rintro c ((hc | hc) | hc)
      · exact hnumeric c hc
      · exact hzeros c hc
      · split at hc
        · rcases List.mem_pair.mp hc with rfl | rfl <;> rfl
        · cases hc
  · dsimp only
    split
    · next hplaces =>
      constructor
      · apply startsWithDigit_append
        · exact fun c hc ↦ hds c (List.mem_of_mem_take hc)
        · rw [List.length_take]
          omega
      · simp only [List.mem_append, List.mem_cons]
        rintro c (hc | rfl | hc)
        · exact hnumeric c (List.mem_of_mem_take hc)
        · rfl
        · exact hnumeric c (List.mem_of_mem_drop hc)
    · constructor
      · rfl
      · simp only [List.mem_append, List.mem_cons]
        rintro c (rfl | rfl | hc | hc)
        · rfl
        · rfl
        · exact hzeros c hc
        · exact hnumeric c hc

private theorem isNumeral_scientificDigits (leading : Int) (hds : ∀ c ∈ ds, c.isDigit = true)
    (hlength : 0 < ds.length) :
    IsNumeral (scientificDigits ds leading) := by
  have hnumeric : ∀ c ∈ ds, isNumeric c = true := fun c hc ↦ isNumeric_of_isDigit (hds c hc)
  have hexponent : ∀ c ∈ (if leading < 0 then '-' else '+') :: decimal leading.natAbs,
      isNumeric c = true := by
    intro c hc
    rcases List.mem_cons.mp hc with rfl | hc
    · split <;> rfl
    · exact isNumeric_of_isDigit (isDigit_of_mem_decimal hc)
  match ds with
  | [d] =>
    refine ⟨(startsWithDigit_cons _ _).trans (hds d List.mem_cons_self), ?_⟩
    rw [scientificDigits]
    simp only [List.forall_mem_cons] at hnumeric hexponent ⊢
    exact ⟨hnumeric.1, rfl, hexponent⟩
  | d :: e :: more =>
    refine ⟨(startsWithDigit_cons _ _).trans (hds d List.mem_cons_self), ?_⟩
    intro c hc
    replace hc : c = d ∨ c = '.' ∨
      c ∈ (e :: more) ++ 'e' :: ((if leading < 0 then '-' else '+') :: decimal leading.natAbs) := by
      simpa [scientificDigits] using hc
    rcases hc with rfl | rfl | hc
    · exact hnumeric c List.mem_cons_self
    · rfl
    · rcases List.mem_append.mp hc with hc | hc
      · exact hnumeric c (List.mem_cons_of_mem d hc)
      · rcases List.mem_cons.mp hc with rfl | hc
        · rfl
        · exact hexponent c hc

/-- A decimal is written as the text of a number. -/
theorem isNumeral_write (l : Layout) (d : Decimal) : IsNumeral (d.write l) := by
  have hds : ∀ c ∈ decimal d.digits, c.isDigit = true := fun _ ↦ isDigit_of_mem_decimal
  have hlength : 0 < (decimal d.digits).length := Nat.length_toDigits_pos
  rw [Decimal.write]
  split
  · exact isNumeral_positionalDigits l d.exponent hds hlength
  · split
    · exact isNumeral_positionalDigits l d.exponent hds hlength
    · exact isNumeral_scientificDigits _ hds hlength

/-- A finite number is written as the text of a number. -/
theorem exists_write_eq {x : Double} (hx : x.isFinite = true) (l : Layout) :
    ∃ ds, IsNumeral ds ∧ (x.write l).toList = withSign x.negative ds := by
  have hnan : x.isNaN = false := by
    simp only [isFinite, isNaN, decide_eq_true_eq, decide_eq_false_iff_not] at hx ⊢
    omega
  refine ⟨_, isNumeral_write l (x.shortest l.tie), ?_⟩
  rw [write, hnan, hx]
  exact String.toList_ofList

end CoverageSubset.Double

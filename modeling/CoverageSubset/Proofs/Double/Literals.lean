import CoverageSubset.Double.Literal
import CoverageSubset.Proofs.Text.Digits

/-!
# What number literals denote

Digits, with a sign or without, denote the double nearest to their value, and only the name of
not-a-number denotes one that is no number: the value of digits may be too great for any number but
infinity, and is still one.
-/

namespace CoverageSubset.Double

open Text

variable {cs ds : List Char} {x : Double}

/-! ### Not a number -/

/-- The text is the name of not-a-number, in any ASCII case, after an optional sign. -/
def NamesNaN (cs : List Char) : Prop := (splitSign cs).2.map Char.toLower = ['n', 'a', 'n']

instance : DecidablePred NamesNaN :=
  fun cs ↦ inferInstanceAs (Decidable ((splitSign cs).2.map Char.toLower = _))

private theorem isNaN_ofMagnitude (negative : Bool) (magnitude : Nat) :
    (ofMagnitude negative magnitude).isNaN = false := by
  rw [ofMagnitude]
  split
  · next h => exact decide_eq_false (Nat.not_lt.mpr h)
  · exact decide_eq_false (Nat.lt_irrefl _)

private theorem isNaN_ofDecimal (negative : Bool) (digits : Nat) (exponent : Int) :
    (ofDecimal negative digits exponent).isNaN = false := by
  rw [ofDecimal]
  split
  · rfl
  · dsimp only
    split
    · rfl
    · split
      · rfl
      · split
        · exact isNaN_ofMagnitude _ _
        · exact isNaN_ofMagnitude _ _

private theorem isNaN_of_ofDigits? {negative : Bool} (h : ofDigits? negative cs = some x) :
    x.isNaN = false := by
  rw [ofDigits?] at h
  dsimp only at h
  split at h
  · cases h
  · obtain ⟨exponent, -, h⟩ := Option.bind_eq_some_iff.mp h
    rw [← Option.some.inj h]
    exact isNaN_ofDecimal _ _ _

/-- A name denotes no number exactly if it is that of not-a-number. -/
theorem isNaN_iff_of_ofName? {negative : Bool} (h : ofName? negative cs = some x) :
    x.isNaN = true ↔ cs.map Char.toLower = ['n', 'a', 'n'] := by
  rw [ofName?] at h
  split at h
  · next hword =>
    rw [← Option.some.inj h]
    refine iff_of_false (by simp [infinity, isNaN]) ?_
    rcases hword with hword | hword <;> simp [hword]
  · split at h
    · next hword =>
      rw [← Option.some.inj h]
      exact iff_of_true rfl hword
    · cases h

private theorem exists_ofName?_eq_some (negative : Bool)
    (h : cs.map Char.toLower = ['n', 'a', 'n']) :
    ∃ x, ofName? negative cs = some x := by
  rw [ofName?, h]
  exact ⟨notANumber negative, rfl⟩

/-- A literal denotes no number exactly if it is the name of not-a-number. -/
theorem isNaN_iff_of_ofLiteral? (h : ofLiteral? cs = some x) : x.isNaN = true ↔ NamesNaN cs := by
  rw [NamesNaN]
  rw [ofLiteral?] at h
  generalize splitSign cs = split at *
  obtain ⟨negative, rest⟩ := split
  dsimp only at h ⊢
  rw [Option.orElse_eq_or, Option.or_eq_some_iff] at h
  rcases h with hname | ⟨hname, hdigits⟩
  · exact isNaN_iff_of_ofName? hname
  · refine iff_of_false (by simp [isNaN_of_ofDigits? hdigits]) fun hword ↦ ?_
    obtain ⟨x, hx⟩ := exists_ofName?_eq_some negative hword
    rw [hx] at hname
    cases hname

/-! ### Digits -/

/-- A text that starts with a digit has no sign. -/
theorem splitSign_of_isDigit {c : Char} (h : c.isDigit = true) (cs : List Char) :
    splitSign (c :: cs) = (false, c :: cs) := by
  rw [splitSign.eq_def]
  split
  · next heq =>
    obtain ⟨rfl, -⟩ := List.cons_eq_cons.mp heq
    cases h
  · next heq =>
    obtain ⟨rfl, -⟩ := List.cons_eq_cons.mp heq
    cases h
  · rfl

private theorem ofDigits?_of_isDigit (negative : Bool) (hds : ∀ c ∈ ds, c.isDigit = true)
    (hne : ds ≠ []) :
    ofDigits? negative ds = some (ofDecimal negative (digitsValue ds) 0) := by
  rw [ofDigits?, leadingDigits_of_isDigit hds, List.drop_length]
  simp [splitFraction, exponentPart?, hne]

private theorem toLower_of_isDigit {c : Char} (h : c.isDigit = true) : c.toLower = c := by
  have hrange := toNat_of_isDigit h
  refine dif_neg fun hupper ↦ ?_
  have hlow : 65 ≤ c.toNat := UInt32.le_iff_toNat_le.mp hupper.1
  omega

private theorem ofName?_of_isDigit (negative : Bool) (hds : ∀ c ∈ ds, c.isDigit = true) :
    ofName? negative ds = none := by
  have hword : ds.map Char.toLower = ds :=
    (List.map_congr_left fun c hc ↦ toLower_of_isDigit (hds c hc)).trans (List.map_id ds)
  have hne {word : List Char} (hletter : word.all Char.isDigit ≠ true) : ds ≠ word :=
    fun h ↦ hletter (h ▸ List.all_eq_true.mpr hds)
  rw [ofName?, hword, if_neg (not_or_intro (hne (by decide)) (hne (by decide))),
    if_neg (hne (by decide))]

/-- Digits after a sign denote the double nearest to their value with this sign. -/
theorem ofLiteral?_of_splitSign {negative : Bool} (h : splitSign cs = (negative, ds))
    (hds : ∀ c ∈ ds, c.isDigit = true) (hne : ds ≠ []) :
    ofLiteral? cs = some (ofDecimal negative (digitsValue ds) 0) := by
  have hname := ofName?_of_isDigit negative hds
  rw [ofLiteral?, h]
  dsimp only
  rw [hname, Option.orElse_eq_or, Option.none_or, ofDigits?_of_isDigit negative hds hne]

end CoverageSubset.Double

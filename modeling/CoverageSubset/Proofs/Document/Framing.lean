import CoverageSubset.Document.Reader
import CoverageSubset.Double.Literal
import CoverageSubset.Proofs.Outcome
import CoverageSubset.Proofs.Text.Digits

/-!
# Numbers inside a document

A number is read up to its last character whatever follows it, as long as that could not continue a
number. So the text of a number that is a document of its own is read the same inside a longer
document.
-/

namespace CoverageSubset.Document

open Text

/-- A character of numbers. -/
def isNumeric (c : Char) : Bool := c.isDigit || c = '-' || c = '+' || c = '.' || c = 'e' || c = 'E'

/-- The text does not go on with a character of numbers. -/
def EndsNumber (cs : List Char) : Prop := ∀ c ∈ cs.head?, isNumeric c = false

variable {α β : Type} {cs ds rest : List Char}

/-- A number may end the text. -/
theorem endsNumber_nil : EndsNumber [] := by simp [EndsNumber]

/-- A character of no number ends a number. -/
theorem endsNumber_cons {c : Char} (h : isNumeric c = false) : EndsNumber (c :: cs) := by
  simpa [EndsNumber] using h

private theorem EndsNumber.ne {c d : Char} (h : EndsNumber (c :: rest)) (hd : isNumeric d = true) :
    c ≠ d := by
  rintro rfl
  have := h c rfl
  rw [hd] at this
  cases this

/-- No digit follows a number. -/
theorem EndsNumber.startsWithDigit_eq_false (h : EndsNumber rest) :
    startsWithDigit rest = false := by
  cases rest with
  | nil => rfl
  | cons c rest =>
    have hc := h c rfl
    simp only [isNumeric, Bool.or_eq_false_iff] at hc
    rw [startsWithDigit_cons]
    exact hc.1.1.1.1.1

private theorem leadingDigits_append_of_endsNumber (h : EndsNumber rest) :
    leadingDigits (cs ++ rest) = leadingDigits cs := by
  rw [leadingDigits, leadingDigits, List.takeWhile_append]
  split
  · next hall =>
    have hrest :=
      leadingDigits_append (by simp : ∀ c ∈ ([] : List Char), c.isDigit = true)
        h.startsWithDigit_eq_false
    rw [List.nil_append, leadingDigits] at hrest
    rw [hrest, List.append_nil, (List.takeWhile_prefix _).eq_of_length hall]
  · rfl

/-! ### Readers that keep to a number -/

/-- A reader takes a beginning of the text, and the same one if more text follows that does not
continue a number. -/
def KeepsToNumber (read : List Char → Scan (α × List Char)) : Prop :=
  ∀ cs a tail, read cs = .ok (a, tail) →
    tail <:+ cs ∧ ∀ rest, EndsNumber rest → read (cs ++ rest) = .ok (a, tail ++ rest)

private theorem keepsToNumber_pure (a : α) :
    KeepsToNumber fun cs ↦ (.ok (a, cs) : Scan (α × List Char)) := by
  rintro cs b tail h
  obtain ⟨rfl, rfl⟩ := Prod.mk.inj (Except.ok.inj h)
  exact ⟨List.suffix_refl cs, fun rest _ ↦ rfl⟩

/-- One reader after the other keeps to a number if both do. -/
theorem KeepsToNumber.bind {read : List Char → Scan (α × List Char)}
    {next : α → List Char → Scan (β × List Char)}
    (hread : KeepsToNumber read) (hnext : ∀ a, KeepsToNumber (next a)) :
    KeepsToNumber fun cs ↦ read cs >>= fun p ↦ next p.1 p.2 := by
  rintro cs b tail h
  obtain ⟨⟨a, middle⟩, ha, hb⟩ := bind_eq_ok_iff.mp h
  obtain ⟨hmiddle, hread⟩ := hread cs a middle ha
  obtain ⟨htail, hnext⟩ := hnext a middle b tail hb
  refine ⟨htail.trans hmiddle, fun rest hrest ↦ ?_⟩
  exact bind_eq_ok_iff.mpr ⟨(a, middle ++ rest), hread rest hrest, hnext rest hrest⟩

private theorem keepsToNumber_readDigits : KeepsToNumber readDigits := by
  rintro cs ds tail h
  rw [readDigits] at h
  split at h
  · split at h <;> cases h
  · next hne =>
    obtain ⟨rfl, rfl⟩ := Prod.mk.inj (Except.ok.inj h)
    refine ⟨List.drop_suffix _ _, fun rest hrest ↦ ?_⟩
    have hlength : (leadingDigits cs).length ≤ cs.length :=
      List.IsPrefix.length_le (List.takeWhile_prefix _)
    rw [readDigits, leadingDigits_append_of_endsNumber hrest, List.drop_append_of_le_length hlength]
    exact if_neg hne

private theorem keepsToNumber_readWhole : KeepsToNumber readWhole := by
  rintro cs ds tail h
  rw [readWhole.eq_def] at h
  split at h
  · next more =>
    split at h
    · next c cs =>
      split at h
      · cases h
      · next hdigit =>
        obtain ⟨rfl, rfl⟩ := Prod.mk.inj (Except.ok.inj h)
        exact ⟨List.suffix_cons _ _, fun rest _ ↦ if_neg hdigit⟩
    · obtain ⟨rfl, rfl⟩ := Prod.mk.inj (Except.ok.inj h)
      refine ⟨List.suffix_cons _ _, fun rest hrest ↦ ?_⟩
      cases rest with
      | nil => rfl
      | cons c rest =>
        have hdigit := hrest.startsWithDigit_eq_false
        rw [startsWithDigit_cons] at hdigit
        simp [readWhole, hdigit]
  · next hzero =>
    obtain ⟨hsuffix, hread⟩ := keepsToNumber_readDigits cs ds tail h
    refine ⟨hsuffix, fun rest hrest ↦ ?_⟩
    cases cs with
    | nil => cases h
    | cons c cs =>
      rw [List.cons_append, readWhole]
      · exact hread rest hrest
      · rintro more heq
        exact hzero cs (by rw [(List.cons_eq_cons.mp heq).1])

private theorem keepsToNumber_readFraction : KeepsToNumber readFraction := by
  rintro cs ds tail h
  rw [readFraction.eq_def] at h
  split at h
  · next more =>
    obtain ⟨hsuffix, hread⟩ := (keepsToNumber_readDigits.bind fun ds ↦ keepsToNumber_pure (some ds))
      more ds tail h
    exact ⟨hsuffix.trans (List.suffix_cons _ _), hread⟩
  · next hpoint =>
    obtain ⟨rfl, rfl⟩ := Prod.mk.inj (Except.ok.inj h)
    refine ⟨List.suffix_refl _, fun rest hrest ↦ ?_⟩
    rw [readFraction]
    rintro more heq
    cases cs with
    | nil =>
      rw [List.nil_append] at heq
      exact (heq ▸ hrest).ne (by decide) rfl
    | cons c cs => exact hpoint cs (by rw [(List.cons_eq_cons.mp heq).1])

private theorem readExponent_cons {c : Char} (hmark : c = 'e' ∨ c = 'E') (cs : List Char) :
    readExponent (c :: cs) =
      readDigits (Double.splitSign cs).2 >>= fun p ↦
        .ok (some ((Double.splitSign cs).1, p.1), p.2) := by
  rw [readExponent.eq_def, Double.splitSign.eq_def]
  dsimp only
  rw [if_pos hmark]
  split
  · rfl
  · rfl
  · next hplus hminus =>
    split
    · next heq => exact absurd rfl (hminus _)
    · next heq => exact absurd rfl (hplus _)
    · rfl

private theorem splitSign_append (hne : cs ≠ []) (rest : List Char) :
    Double.splitSign (cs ++ rest) = ((Double.splitSign cs).1, (Double.splitSign cs).2 ++ rest) := by
  rw [Double.splitSign.eq_def, Double.splitSign.eq_def cs]
  cases cs with
  | nil => contradiction
  | cons c cs =>
    rw [List.cons_append]
    split
    · next heq =>
      obtain ⟨rfl, rfl⟩ := List.cons_eq_cons.mp heq
      rfl
    · next heq =>
      obtain ⟨rfl, rfl⟩ := List.cons_eq_cons.mp heq
      rfl
    · next hminus hplus =>
      split
      · next heq => exact absurd (by rw [(List.cons_eq_cons.mp heq).1]) (hminus (cs ++ rest))
      · next heq => exact absurd (by rw [(List.cons_eq_cons.mp heq).1]) (hplus (cs ++ rest))
      · rfl

private theorem splitSign_suffix (cs : List Char) : (Double.splitSign cs).2 <:+ cs := by
  rw [Double.splitSign.eq_def]
  split
  · exact List.suffix_cons _ _
  · exact List.suffix_cons _ _
  · exact List.suffix_refl _

private theorem keepsToNumber_readExponent : KeepsToNumber readExponent := by
  rintro cs e tail h
  cases cs with
  | nil =>
    obtain ⟨rfl, rfl⟩ := Prod.mk.inj (Except.ok.inj h)
    refine ⟨List.suffix_refl _, fun rest hrest ↦ ?_⟩
    cases rest with
    | nil => rfl
    | cons c rest =>
      have hmark : ¬ (c = 'e' ∨ c = 'E') := not_or.mpr ⟨hrest.ne (by decide), hrest.ne (by decide)⟩
      exact if_neg hmark
  | cons c cs =>
    by_cases hmark : c = 'e' ∨ c = 'E'
    · rw [readExponent_cons hmark] at h
      have hne : cs ≠ [] := by
        rintro rfl
        cases h
      have hkeeps :=
        keepsToNumber_readDigits.bind fun ds ↦
          keepsToNumber_pure (some ((Double.splitSign cs).1, ds))
      obtain ⟨hsuffix, hread⟩ := hkeeps _ e tail h
      refine ⟨hsuffix.trans ((splitSign_suffix cs).trans (List.suffix_cons _ _)),
        fun rest hrest ↦ ?_⟩
      rw [List.cons_append, readExponent_cons hmark, splitSign_append hne]
      exact hread rest hrest
    · replace h : (.ok (none, c :: cs) : Scan _) = .ok (e, tail) := (if_neg hmark).symm.trans h
      obtain ⟨rfl, rfl⟩ := Prod.mk.inj (Except.ok.inj h)
      exact ⟨List.suffix_refl _, fun rest _ ↦ if_neg hmark⟩

/-- A number after its sign. -/
theorem keepsToNumber_readNumber (strict negative : Bool) :
    KeepsToNumber (readNumber strict negative) := by
  have hvalue (n : Numeral) : KeepsToNumber fun cs ↦
      n.value?.elim (if strict then failAfter .numberTooLarge cs else .ok (.meaningless, cs))
        fun d ↦ .ok (d, cs) := by
    cases n.value? with
    | some d => exact keepsToNumber_pure d
    | none =>
      cases strict with
      | true =>
        rintro cs d tail h
        cases h
      | false => exact keepsToNumber_pure meaningless
  have hread :=
    keepsToNumber_readWhole.bind fun whole ↦ keepsToNumber_readFraction.bind fun fraction ↦
    keepsToNumber_readExponent.bind fun exponent ↦ hvalue ⟨negative, whole, fraction, exponent⟩
  convert hread using 1
  funext cs
  refine bind_congr fun whole ↦ bind_congr fun fraction ↦ bind_congr fun exponent ↦ ?_
  dsimp only
  cases Numeral.value? _ <;> rfl

/-! ### Blanks -/

/-- Blanks at the start are skipped. -/
theorem skipSpace_append {blanks : List Char} (h : ∀ c ∈ blanks, isSpace c = true)
    (cs : List Char) :
    skipSpace (blanks ++ cs) = skipSpace cs := List.dropWhile_append_of_pos h

/-- What is no blank is not skipped. -/
theorem skipSpace_cons {c : Char} (h : isSpace c = false) (cs : List Char) :
    skipSpace (c :: cs) = c :: cs := by
  simp [skipSpace, h]

/-- A character of numbers is no blank. -/
theorem isSpace_of_isNumeric {c : Char} (h : isNumeric c = true) : isSpace c = false := by
  rw [isSpace]
  simp only [Bool.or_eq_false_iff, decide_eq_false_iff_not]
  refine ⟨⟨⟨?_, ?_⟩, ?_⟩, ?_⟩ <;> rintro rfl <;> cases h

/-- A digit is a character of numbers. -/
theorem isNumeric_of_isDigit {c : Char} (h : c.isDigit = true) : isNumeric c = true := by
  simp [isNumeric, h]

/-- A character that is no digit is different from one. -/
theorem ne_of_isDigit {c d : Char} (hc : c.isDigit = true) (hd : d.isDigit = false) : c ≠ d := by
  rintro rfl
  rw [hc] at hd
  cases hd

/-! ### Numbers as values -/

/-- The text of a number after its sign: characters of numbers, of which the first is a digit. -/
structure IsNumeral (ds : List Char) : Prop where
  startsWithDigit : startsWithDigit ds = true
  isNumeric : ∀ c ∈ ds, isNumeric c = true

/-- The sign of a number and its characters after the sign. -/
def withSign (negative : Bool) (ds : List Char) : List Char := if negative then '-' :: ds else ds

/-- A value that starts like a number is read as a number. -/
theorem readValue_withSign {strict : Bool} {n depth : Nat} {negative : Bool}
    (h : startsWithDigit ds = true) :
    readValue strict (n + 1) depth (withSign negative ds) = readNumber strict negative ds := by
  match ds with
  | c :: ds =>
    have hc : c.isDigit = true := (startsWithDigit_cons c ds) ▸ h
    cases negative with
    | true =>
      rw [withSign, if_pos rfl, readValue, skipSpace_cons rfl]
      rfl
    | false =>
      have hspace := isSpace_of_isNumeric (isNumeric_of_isDigit hc)
      rw [withSign, if_neg (by decide), readValue, skipSpace_cons hspace]
      dsimp only
      rw [if_neg (ne_of_isDigit hc rfl), if_neg (ne_of_isDigit hc rfl),
        if_neg (ne_of_isDigit hc rfl),
        if_neg (ne_of_isDigit hc rfl), if_neg (ne_of_isDigit hc rfl), if_pos hc]

/-- A number that is a document of its own is read the same inside a document. -/
theorem readValue_of_readAll {strict negative : Bool} {d : Document} (hds : IsNumeral ds)
    (h : readAll strict (withSign negative ds) = .ok d) (n depth : Nat) (hrest : EndsNumber rest) :
    readValue strict (n + 1) depth (withSign negative ds ++ rest) = .ok (d, rest) := by
  obtain ⟨⟨e, tail⟩, hvalue, hend⟩ := bind_eq_ok_iff.mp h
  rw [readValue_withSign hds.startsWithDigit] at hvalue
  obtain ⟨hsuffix, hread⟩ := keepsToNumber_readNumber strict negative ds e tail hvalue
  have hnil : tail = [] ∧ e = d := by
    cases tail with
    | nil => exact ⟨rfl, Except.ok.inj hend⟩
    | cons c tail =>
      have hspace := isSpace_of_isNumeric (hds.isNumeric c (hsuffix.subset List.mem_cons_self))
      dsimp only at hend
      rw [skipSpace_cons hspace] at hend
      cases hend
  obtain ⟨rfl, rfl⟩ := hnil
  have happend : withSign negative ds ++ rest = withSign negative (ds ++ rest) := by
    cases negative <;> rfl
  have hstart : startsWithDigit (ds ++ rest) = true := by
    match ds with
    | c :: ds => simpa using hds.startsWithDigit
  rw [happend, readValue_withSign hstart]
  exact hread rest hrest

end CoverageSubset.Document

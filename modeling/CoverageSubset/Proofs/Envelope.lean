import CoverageSubset.Envelope
import CoverageSubset.Proofs.Double.Literals
import CoverageSubset.Proofs.Outcome

/-!
# Envelopes that are read

A text is an envelope if it has four parts, each is a literal, and no minimum exceeds its maximum;
otherwise it has the first of the three faults. That no minimum exceeds its maximum is less than
that the corners are in order: a corner that is not a number exceeds nothing, but is in no order
either, and then the envelope does not even contain itself. As no other literal denotes one that is
no number, the corners of an envelope are in order exactly if no part names one.
-/

namespace CoverageSubset

namespace Double

variable {a b c x : Double}

private theorem le_eq_true_iff :
    a.le b = true ↔ a.isNaN = false ∧ b.isNaN = false ∧ a.position ≤ b.position := by
  simp [le, and_assoc]

/-- The arithmetic order is transitive. -/
theorem le_trans (hab : a.le b = true) (hbc : b.le c = true) : a.le c = true := by
  obtain ⟨ha, -, hab⟩ := le_eq_true_iff.mp hab
  obtain ⟨-, hc, hbc⟩ := le_eq_true_iff.mp hbc
  exact le_eq_true_iff.mpr ⟨ha, hc, Int.le_trans hab hbc⟩

private theorem le_iff_of_lt_eq_false (h : b.lt a = false) :
    a.le b = true ↔ a.isNaN = false ∧ b.isNaN = false := by
  rw [le_eq_true_iff, ← and_assoc, and_iff_left_iff_imp]
  rintro ⟨ha, hb⟩
  simpa [lt, ha, hb] using h

/-- Only what is no number is not at most itself. -/
theorem le_self_iff : x.le x = true ↔ x.isNaN = false := by
  simp [le_eq_true_iff]

end Double

namespace Envelope

variable {e e' e'' : Envelope} {s : String}

/-! ### Containment -/

/-- The numbers of an envelope. -/
def corners (e : Envelope) : List Double := [e.minX, e.minY, e.maxX, e.maxY]

private theorem contains_eq_true_iff :
    e'.contains e = true ↔
      e'.minX.le e.minX = true ∧ e.maxX.le e'.maxX = true ∧ e'.minY.le e.minY = true ∧
        e.maxY.le e'.maxY = true := by
  simp [contains, and_assoc]

/-- What lies in an envelope lies in every envelope that contains it. -/
theorem contains_trans (h' : e''.contains e' = true) (h : e'.contains e = true) :
    e''.contains e = true := by
  obtain ⟨hminX', hmaxX', hminY', hmaxY'⟩ := contains_eq_true_iff.mp h'
  obtain ⟨hminX, hmaxX, hminY, hmaxY⟩ := contains_eq_true_iff.mp h
  exact contains_eq_true_iff.mpr ⟨Double.le_trans hminX' hminX, Double.le_trans hmaxX hmaxX',
    Double.le_trans hminY' hminY, Double.le_trans hmaxY hmaxY'⟩

private theorem containsPoint_eq_true_iff {x y : Double} :
    e.containsPoint x y = true ↔
      e.minX.le x = true ∧ x.le e.maxX = true ∧ e.minY.le y = true ∧ y.le e.maxY = true := by
  simp [containsPoint, and_assoc]

/-- All corners are numbers. -/
def IsNumeric (e : Envelope) : Prop := ∀ x ∈ e.corners, x.isNaN = false

/-- The corners of an envelope, one by one. -/
theorem isNumeric_iff :
    e.IsNumeric ↔ e.minX.isNaN = false ∧ e.minY.isNaN = false ∧ e.maxX.isNaN = false ∧
      e.maxY.isNaN = false := by
  simp [IsNumeric, corners]

/-- The minima are at most the maxima. -/
def InOrder (e : Envelope) : Prop := e.minX.le e.maxX = true ∧ e.minY.le e.maxY = true

/-- The envelope contains the four points at its corners. -/
def ContainsCorners (e : Envelope) : Prop :=
  ∀ x ∈ [e.minX, e.maxX], ∀ y ∈ [e.minY, e.maxY], e.containsPoint x y = true

/-- If no minimum exceeds its maximum, the corners are in order exactly if they are numbers. -/
theorem inOrder_iff (hx : e.maxX.lt e.minX = false) (hy : e.maxY.lt e.minY = false) :
    e.InOrder ↔ e.IsNumeric := by
  rw [InOrder, Double.le_iff_of_lt_eq_false hx, Double.le_iff_of_lt_eq_false hy, isNumeric_iff]
  tauto

/-- An envelope contains itself exactly if its corners are numbers. -/
theorem contains_self_iff : e.contains e = true ↔ e.IsNumeric := by
  rw [contains_eq_true_iff, Double.le_self_iff, Double.le_self_iff, Double.le_self_iff,
    Double.le_self_iff, isNumeric_iff]
  tauto

/-- An envelope contains its corners exactly if they are in order. -/
theorem containsCorners_iff : e.ContainsCorners ↔ e.InOrder := by
  constructor
  · intro h
    obtain ⟨-, hx, -, hy⟩ := containsPoint_eq_true_iff.mp (h e.minX (by simp) e.minY (by simp))
    exact ⟨hx, hy⟩
  · rintro ⟨hx, hy⟩ x hmemX y hmemY
    have between {low high v : Double} (h : low.le high = true) (hv : v ∈ [low, high]) :
        low.le v = true ∧ v.le high = true := by
      obtain ⟨hlow, hhigh, -⟩ := Double.le_eq_true_iff.mp h
      rcases List.mem_pair.mp hv with rfl | rfl
      · exact ⟨Double.le_self_iff.mpr hlow, h⟩
      · exact ⟨h, Double.le_self_iff.mpr hhigh⟩
    obtain ⟨hlowX, hhighX⟩ := between hx hmemX
    obtain ⟨hlowY, hhighY⟩ := between hy hmemY
    exact containsPoint_eq_true_iff.mpr ⟨hlowX, hhighX, hlowY, hhighY⟩

/-! ### Reading -/

/-- The parts of a text between commas, without the blanks at their ends. -/
def parts (s : String) : List (List Char) := (s.toList.splitOn ',').map Text.trim

private theorem length_parts (s : String) : (parts s).length = s.toList.count ',' + 1 := by
  rw [parts, List.length_map]
  induction s.toList with
  | nil => rfl
  | cons c cs ih =>
    rw [List.splitOn_cons_eq_if_modifyHead, List.count_cons]
    split
    · rw [List.length_cons, ih]
    · rw [List.length_modifyHead, ih]

/-- The part is no literal. -/
def isNoLiteral (part : List Char) : Bool := (Double.ofLiteral? part).isNone

/-- The literals of a text denote the corners of an envelope, one for one. -/
def IsDenotedBy (e : Envelope) (s : String) : Prop :=
  (parts s).map Double.ofLiteral? = e.corners.map some

/-- The rules of reading: what a text is read as, by the commas, the first part that is no literal,
and the corners. -/
inductive Reads (s : String) : Except EnvelopeFault Envelope → Prop
  | notFourParts (hcommas : s.toList.count ',' ≠ 3) : Reads s (.error (.notFourParts s))
  | notANumber {part : List Char} (hcommas : s.toList.count ',' = 3)
    (hpart : (parts s).find? isNoLiteral = some part) :
    Reads s (.error (.notANumber (String.ofList part)))
  | inverted {e : Envelope} (hdenoted : e.IsDenotedBy s)
    (hinverted : e.maxX.lt e.minX = true ∨ e.maxY.lt e.minY = true) :
    Reads s (.error (.inverted s))
  | envelope {e : Envelope} (hdenoted : e.IsDenotedBy s) (hminX : e.maxX.lt e.minX = false)
    (hminY : e.maxY.lt e.minY = false) : Reads s (.ok e)

/-- The envelope of four corners, unless it is inverted. -/
def ofCorners (s : String) : List Double → Except EnvelopeFault Envelope
  | [minX, minY, maxX, maxY] =>
    let e : Envelope := ⟨minX, minY, maxX, maxY⟩
    if e.isInverted then .error (.inverted s) else .ok e
  | _ => .error (.notFourParts s)

private theorem ofLiteral_of_length_ne (h : (parts s).length ≠ 4) :
    ofLiteral s = .error (.notFourParts s) := by
  rw [ofLiteral, ← parts]
  split
  · next hparts => exact absurd (congrArg List.length hparts) h
  · rfl

private theorem ofLiteral_of_length_eq (h : (parts s).length = 4) :
    ofLiteral s = (parts s).mapM corner >>= ofCorners s := by
  obtain ⟨a, b, c, d, hparts⟩ := List.length_eq_four.mp h
  rw [ofLiteral, ← parts, hparts]
  simp only [List.mapM_cons, List.mapM_nil, bind_assoc, pure_bind]
  rfl

private theorem corner_eq_ok_iff {part : List Char} {x : Double} :
    corner part = .ok x ↔ Double.ofLiteral? part = some x := by
  rw [corner]
  cases Double.ofLiteral? part <;> simp

private theorem corner_of_isNoLiteral {part : List Char} (h : isNoLiteral part = true) :
    corner part = .error (.notANumber (String.ofList part)) := by
  rw [corner, Option.isNone_iff_eq_none.mp h]

private theorem mapM_corner_eq_ok_iff {xs : List Double} :
    (parts s).mapM corner = .ok xs ↔ (parts s).map Double.ofLiteral? = xs.map some := by
  rw [mapM_eq_ok_iff, ← List.forall₂_eq_eq_eq, List.forall₂_map_left_iff,
    List.forall₂_map_right_iff]
  simp only [corner_eq_ok_iff]

/-- The corners of an envelope are denoted by four parts. -/
theorem IsDenotedBy.length_eq (h : e.IsDenotedBy s) : (parts s).length = 4 := by
  have hlength := congrArg List.length h
  rwa [List.length_map, List.length_map] at hlength

/-- A text whose literals denote corners is an envelope, unless this is inverted. -/
theorem IsDenotedBy.ofLiteral_eq (h : e.IsDenotedBy s) :
    ofLiteral s = if e.isInverted then .error (.inverted s) else .ok e := by
  rw [ofLiteral_of_length_eq h.length_eq, mapM_corner_eq_ok_iff.mpr h]
  rfl

private theorem ofLiteral_of_find? {part : List Char} (hlength : (parts s).length = 4)
    (h : (parts s).find? isNoLiteral = some part) :
    ofLiteral s = .error (.notANumber (String.ofList part)) := by
  have hfails : ∀ p ∈ parts s, isNoLiteral p = true ↔ ∃ f, corner p = .error f := by
    intro p _
    rw [exists_eq_error_iff, isNoLiteral, Option.isNone_iff_eq_none]
    simp only [corner_eq_ok_iff, Option.eq_none_iff_forall_ne_some, ne_eq, not_exists]
  rw [ofLiteral_of_length_eq hlength, bind_eq_error_iff, mapM_eq_error_iff isNoLiteral hfails]
  exact .inl ⟨part, h, corner_of_isNoLiteral (List.find?_some h)⟩

/-- A text is read by the rules. -/
theorem reads_ofLiteral (s : String) : Reads s (ofLiteral s) := by
  have hcommas := length_parts s
  by_cases hlength : (parts s).length = 4
  · cases hfind : (parts s).find? isNoLiteral with
    | some part =>
      rw [ofLiteral_of_find? hlength hfind]
      exact .notANumber (by omega) hfind
    | none =>
      obtain ⟨xs, hxs⟩ : ∃ xs, (parts s).mapM corner = .ok xs := by
        refine exists_mapM_eq_ok_iff.mpr fun p hp ↦ ?_
        have hliteral : Double.ofLiteral? p ≠ none :=
          mt Option.isNone_iff_eq_none.mpr (List.find?_eq_none.mp hfind p hp)
        obtain ⟨x, hx⟩ := Option.ne_none_iff_exists'.mp hliteral
        exact ⟨x, corner_eq_ok_iff.mpr hx⟩
      obtain ⟨e, rfl⟩ : ∃ e : Envelope, e.corners = xs := by
        obtain ⟨minX, minY, maxX, maxY, rfl⟩ :=
          List.length_eq_four.mp ((mapM_eq_ok_iff.mp hxs).length_eq.symm.trans hlength)
        exact ⟨⟨minX, minY, maxX, maxY⟩, rfl⟩
      have hdenoted : e.IsDenotedBy s := mapM_corner_eq_ok_iff.mp hxs
      rw [hdenoted.ofLiteral_eq]
      split
      · next h => exact .inverted hdenoted (by simpa [isInverted] using h)
      · next h =>
        obtain ⟨hminX, hminY⟩ : e.maxX.lt e.minX = false ∧ e.maxY.lt e.minY = false := by
          simpa [isInverted] using h
        exact .envelope hdenoted hminX hminY
  · rw [ofLiteral_of_length_ne hlength]
    exact .notFourParts (by omega)

/-- What the rules say is what is read. -/
theorem Reads.ofLiteral_eq {r : Except EnvelopeFault Envelope} (h : Reads s r) :
    ofLiteral s = r := by
  have hcommas := length_parts s
  cases h with
  | notFourParts h => exact ofLiteral_of_length_ne (by omega)
  | notANumber h hpart => exact ofLiteral_of_find? (by omega) hpart
  | inverted hdenoted hinverted =>
    rw [hdenoted.ofLiteral_eq, if_pos]
    simpa [isInverted] using hinverted
  | envelope hdenoted hminX hminY =>
    rw [hdenoted.ofLiteral_eq, if_neg]
    simp [isInverted, hminX, hminY]

/-- The corners that a text denotes are numbers exactly if no part names not-a-number. -/
theorem IsDenotedBy.isNumeric_iff (h : e.IsDenotedBy s) :
    e.IsNumeric ↔ ∀ p ∈ parts s, ¬ Double.NamesNaN p := by
  rw [IsDenotedBy, ← List.forall₂_eq_eq_eq, List.forall₂_map_left_iff, List.forall₂_map_right_iff]
    at h
  rw [IsNumeric]
  generalize parts s = ps at h
  generalize e.corners = xs at h
  induction h with
  | nil => simp
  | cons hp _ ih =>
    rw [List.forall_mem_cons, List.forall_mem_cons, ih, ← Double.isNaN_iff_of_ofLiteral? hp,
      Bool.not_eq_true]

/-- A text is read by the rules, and an envelope that is read has its minima at most its maxima,
contains itself and contains its corners, each exactly if no part of the text names not-a-number. -/
theorem ofLiteral_readsInOrder (s : String) :
    (∀ r, ofLiteral s = r ↔ Reads s r) ∧
    ∀ e, ofLiteral s = .ok e →
      (e.InOrder ↔ ∀ p ∈ parts s, ¬ Double.NamesNaN p) ∧
      (e.contains e = true ↔ ∀ p ∈ parts s, ¬ Double.NamesNaN p) ∧
      (e.ContainsCorners ↔ ∀ p ∈ parts s, ¬ Double.NamesNaN p) := by
  refine ⟨fun r ↦ ⟨fun h ↦ h ▸ reads_ofLiteral s, Reads.ofLiteral_eq⟩, fun e he ↦ ?_⟩
  obtain ⟨hdenoted, hminX, hminY⟩ : e.IsDenotedBy s ∧ e.maxX.lt e.minX = false ∧
    e.maxY.lt e.minY = false := by
    have hreads := reads_ofLiteral s
    rw [he] at hreads
    cases hreads with
    | envelope hdenoted hminX hminY => exact ⟨hdenoted, hminX, hminY⟩
  rw [← hdenoted.isNumeric_iff, containsCorners_iff, inOrder_iff hminX hminY, contains_self_iff]
  exact ⟨Iff.rfl, Iff.rfl, Iff.rfl⟩

/-- An envelope with blanks, a sign and a zero on either side of its minimum. -/
theorem ofLiteral_readsInOrder_zeros :
    ∃ e, ofLiteral " -0 , 20,0, 40 " = .ok e ∧ e.InOrder ∧ e.contains e = true ∧
      e.ContainsCorners := by
  obtain ⟨e, he⟩ := exists_eq_ok (x := ofLiteral " -0 , 20,0, 40 ") (by decide +kernel)
  have hnumeric : ∀ p ∈ parts " -0 , 20,0, 40 ", ¬ Double.NamesNaN p := by decide +kernel
  obtain ⟨horder, hself, hcorners⟩ := (ofLiteral_readsInOrder " -0 , 20,0, 40 ").2 e he
  exact ⟨e, he, horder.mpr hnumeric, hself.mpr hnumeric, hcorners.mpr hnumeric⟩

/-- An envelope whose first part names not-a-number is read, but is not in order. -/
theorem ofLiteral_not_inOrder_of_nan :
    let e : Envelope := ⟨.notANumber false, .zero false, .ofInt 1, .ofInt 1⟩
    ofLiteral "nan,0,1,1" = .ok e ∧ ¬ e.InOrder ∧ e.contains e = false ∧ ¬ e.ContainsCorners := by
  intro e
  have horder : ¬ e.InOrder := by
    rintro ⟨hx, -⟩
    exact absurd hx (by decide)
  exact ⟨by decide +kernel, horder, by decide, mt containsCorners_iff.mp horder⟩

end Envelope

end CoverageSubset

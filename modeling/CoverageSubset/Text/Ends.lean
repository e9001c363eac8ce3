/-!
# Beginnings and ends of a text

A blank is a character with the Unicode property `White_Space`: the ASCII controls from tab to
carriage return, the space, and the wide, narrow and line-breaking spaces of the other scripts. The
zero-width space and the byte order mark are not blanks. `trim` removes blanks from both ends and
keeps those inside.

A given beginning or end is taken off a text that has it, and a text is split at the first place of
a character.
-/

namespace CoverageSubset.Text

/-! ### Blanks -/

/-- The characters with the property `White_Space`. -/
def isBlank (c : Char) : Bool :=
  let n := c.toNat
  (9 ≤ n && n ≤ 13) || n == 0x20 || n == 0x85 || n == 0xA0 || n == 0x1680 ||
    (0x2000 ≤ n && n ≤ 0x200A) || n == 0x2028 || n == 0x2029 || n == 0x202F || n == 0x205F ||
      n == 0x3000

/-- The text from its first character that is not a blank. -/
def trimStart (cs : List Char) : List Char := cs.dropWhile isBlank

/-- The text up to its last character that is not a blank. -/
def trimEnd (cs : List Char) : List Char := (trimStart cs.reverse).reverse

/-- The text without the blanks at its ends. -/
def trim (cs : List Char) : List Char := trimEnd (trimStart cs)

/-- `trim` on strings. -/
def strip (s : String) : String := String.ofList (trim s.toList)

/-- A text that starts with no blank keeps its start. -/
theorem trimStart_cons_of_not_blank {c : Char} {cs : List Char} (h : isBlank c = false) :
    trimStart (c :: cs) = c :: cs := by
  simp [trimStart, List.dropWhile, h]

/-- A leading blank is removed. -/
theorem trimStart_cons_of_blank {c : Char} {cs : List Char} (h : isBlank c = true) :
    trimStart (c :: cs) = trimStart cs := by
  simp [trimStart, List.dropWhile, h]

/-! ### Prefixes and suffixes -/

/-- What follows a beginning of a text. -/
def afterStart? (start s : String) : Option String :=
  if start.toList.isPrefixOf s.toList then some (String.ofList (s.toList.drop start.toList.length))
    else none

/-- What comes before an end of a text. -/
def beforeEnd? (ending s : String) : Option String :=
  if ending.toList.isSuffixOf s.toList then
    some (String.ofList (s.toList.take (s.toList.length - ending.toList.length)))
  else none

/-- What comes before and after the first place of a character in a text. -/
def around? (c : Char) (s : String) : Option (String × String) :=
  match s.toList.span fun d ↦ d != c with
  | (before, _ :: after) => some (String.ofList before, String.ofList after)
  | (_, []) => none

/-- A text has a beginning exactly if it is that beginning and a rest. -/
theorem afterStart?_eq_some_iff {start s rest : String} :
    afterStart? start s = some rest ↔ s = start ++ rest := by
  unfold afterStart?
  split
  case isTrue h =>
    obtain ⟨tail, ht⟩ := List.isPrefixOf_iff_prefix.1 h
    rw [← ht, List.drop_left, Option.some.injEq]
    constructor
    · rintro rfl
      rw [← String.toList_inj, String.toList_append, String.toList_ofList, ht]
    · rintro rfl
      rw [String.toList_append, List.append_cancel_left_eq] at ht
      rw [ht, String.ofList_toList]
  case isFalse h =>
    simp only [false_iff, reduceCtorEq]
    rintro rfl
    exact h (List.isPrefixOf_iff_prefix.2 ⟨rest.toList, by rw [String.toList_append]⟩)

/-- A text has an end exactly if it is a stem and that end. -/
theorem beforeEnd?_eq_some_iff {ending s stem : String} :
    beforeEnd? ending s = some stem ↔ s = stem ++ ending := by
  unfold beforeEnd?
  split
  case isTrue h =>
    obtain ⟨head, hh⟩ := List.isSuffixOf_iff_suffix.1 h
    rw [← hh, List.length_append, Nat.add_sub_cancel, List.take_left, Option.some.injEq]
    constructor
    · rintro rfl
      rw [← String.toList_inj, String.toList_append, String.toList_ofList, hh]
    · rintro rfl
      rw [String.toList_append, List.append_cancel_right_eq] at hh
      rw [hh, String.ofList_toList]
  case isFalse h =>
    simp only [false_iff, reduceCtorEq]
    rintro rfl
    exact h (List.isSuffixOf_iff_suffix.2 ⟨stem.toList, by rw [String.toList_append]⟩)

end CoverageSubset.Text

import Mathlib.Data.List.Infix

/-!
# Texts with a separator inside

A text of two parts around a separator has more readings if the separator stands in it again. Two
places of one separator lie behind each other, or they share a border: an end of the separator that
it also begins with. Where no border is longer than one item, these are all the readings there are.
-/

namespace CoverageSubset

variable {α : Type} {sep front back front' back' : List α}

/-- The parts around a separator and those around a later place of it in the same list. The places
share an item, or the later one lies behind the other. -/
def LaterSeparator (sep front back front' back' : List α) : Prop :=
  front' = front ++ sep.dropLast ∧ back = sep.tail ++ back' ∨
    ∃ middle, front' = front ++ (sep ++ middle) ∧ back = middle ++ (sep ++ back')

/-- A separator that ends with the item it begins with, and has no longer border but itself. -/
structure OverlapsInOne (sep : List α) : Prop where
  ends : sep.head? = sep.getLast?
  border : ∀ border, border <:+ sep → border <+: sep → border.length ≤ 1 ∨ border = sep

/-- A pair of one item overlaps in one. -/
theorem overlapsInOne_pair (u : α) : OverlapsInOne [u, u] where
  ends := rfl
  border := by
    intro border hsuffix _
    obtain hshort | hlong := Nat.lt_or_ge border.length 2
    · exact .inl (Nat.lt_succ_iff.mp hshort)
    · exact .inr (hsuffix.eq_of_length_le hlong)

namespace OverlapsInOne

private theorem append_tail (hsep : OverlapsInOne sep) : sep ++ sep.tail = sep.dropLast ++ sep := by
  cases sep with
  | nil => rfl
  | cons first rest =>
    have hlast : (first :: rest).dropLast ++ [first] = first :: rest :=
      List.dropLast_append_getLast? first hsep.ends.symm
    calc (first :: rest) ++ rest
      _ = (first :: rest).dropLast ++ [first] ++ rest := by rw [hlast]
      _ = (first :: rest).dropLast ++ (first :: rest) := by simp

private theorem append_eq_of_later (hsep : OverlapsInOne sep)
    (h : LaterSeparator sep front back front' back') :
    front ++ (sep ++ back) = front' ++ (sep ++ back') := by
  obtain ⟨rfl, rfl⟩ | ⟨middle, rfl, rfl⟩ := h
  · rw [← List.append_assoc sep, hsep.append_tail]
    simp only [List.append_assoc]
  · simp only [List.append_assoc]

private theorem later_of_tail (hsep : OverlapsInOne sep) {tail : List α}
    (h : sep ++ back = tail ++ (sep ++ back')) :
    tail = [] ∨ LaterSeparator sep front back (front ++ tail) back' := by
  obtain ⟨middle, rfl, hback⟩ | ⟨border, hborder, hrest⟩ := List.append_eq_append_iff.mp h
  · exact .inr (.inr ⟨middle, rfl, hback⟩)
  · have hsuffix : border <:+ sep := ⟨tail, hborder.symm⟩
    have hprefix : border <+: sep :=
      List.prefix_of_prefix_length_le ⟨back, hrest.symm⟩ (List.prefix_append sep back')
        hsuffix.length_le
    obtain hshort | rfl := hsep.border border hsuffix hprefix
    · right
      match border, hshort with
      | [], _ =>
        -- the places touch
        rw [List.append_nil] at hborder
        exact .inr ⟨[], by rw [hborder, List.append_nil], hrest.symm⟩
      | [shared], _ =>
        refine .inl ⟨by rw [hborder, List.dropLast_concat], ?_⟩
        rw [← List.tail_append_of_ne_nil (by simp [hborder]), hrest, List.singleton_append,
          List.tail_cons]
    · left
      simpa using hborder

/-- Two lists with a separator inside are the same exactly if the parts around it are, or one place
of it is a later one. -/
theorem append_eq_iff (hsep : OverlapsInOne sep) :
    front ++ (sep ++ back) = front' ++ (sep ++ back') ↔
      front = front' ∧ back = back' ∨
        LaterSeparator sep front back front' back' ∨
          LaterSeparator sep front' back' front back := by
  constructor
  · intro h
    obtain ⟨tail, rfl, htail⟩ | ⟨tail, rfl, htail⟩ := List.append_eq_append_iff.mp h
    · obtain rfl | hlater := hsep.later_of_tail htail
      · left
        simpa using h
      · exact .inr (.inl hlater)
    · obtain rfl | hlater := hsep.later_of_tail htail
      · left
        simpa using h
      · exact .inr (.inr hlater)
  · rintro (⟨rfl, rfl⟩ | h | h)
    · rfl
    · exact hsep.append_eq_of_later h
    · exact (hsep.append_eq_of_later h).symm

end OverlapsInOne

/-- In front of a later place, the earlier one has begun. -/
theorem LaterSeparator.isInfix (h : LaterSeparator sep front back front' back') {last : α}
    (hlast : last ∈ sep.getLast?) : sep <:+: front' ++ [last] := by
  obtain ⟨rfl, -⟩ | ⟨middle, rfl, -⟩ := h
  · exact ⟨front, [], by
      simp only [List.append_assoc, List.dropLast_append_getLast? last hlast, List.append_nil]⟩
  · exact ⟨front, middle ++ [last], by simp only [List.append_assoc]⟩

end CoverageSubset

import CoverageSubset.Domain.Basic
import Mathlib.Data.List.Sort

/-!
# The one form of a domain

The entries of a domain are what sorting the given entries and then dropping each that equals the
one before it would leave: every entry once, in strictly increasing order. As no two entries compare
equal but those that are the same, down to the sign of a zero and the pattern of what is no number,
the entries alone tell which domain it is.
-/

namespace CoverageSubset

/-! ### Sorting and dropping repetitions -/

section Sorting

variable {β : Type} {l : List β} {a : β}

private theorem eraseRepsBy_loop (r : β → β → Bool) (a : β) (l kept : List β) :
    List.eraseRepsBy.loop r a l kept = kept.reverse ++ (a :: l).eraseRepsBy r := by
  induction l generalizing a kept with
  | nil => simp [List.eraseRepsBy, List.eraseRepsBy.loop]
  | cons b l ih =>
    rw [List.eraseRepsBy, List.eraseRepsBy.loop, List.eraseRepsBy.loop]
    split
    · rw [ih, ih]
      rfl
    · rw [ih, ih b [a]]
      simp

private theorem eraseRepsBy_cons_cons (r : β → β → Bool) (a b : β) (l : List β) :
    (a :: b :: l).eraseRepsBy r = if r a b then (a :: l).eraseRepsBy r else a ::
    (b :: l).eraseRepsBy r := by
  rw [List.eraseRepsBy, List.eraseRepsBy.loop]
  cases r a b with
  | true => rfl
  | false => exact eraseRepsBy_loop r b l [a]

variable [Ord β]

/-- The values of a list in order, without those that equal the value before them. -/
def sortedOnce (l : List β) : List β :=
  (l.mergeSort fun a b ↦ (compare a b).isLE).eraseRepsBy fun a b ↦ compare a b == .eq

variable [Std.LawfulEqOrd β]

private theorem mem_eraseRepsBy : a ∈ l.eraseRepsBy (fun a b ↦ compare a b == .eq) ↔ a ∈ l := by
  cases l with
  | nil => rfl
  | cons b l =>
    induction l generalizing b with
    | nil => rfl
    | cons c l ih =>
      rw [eraseRepsBy_cons_cons]
      split
      · next heq =>
        have hbc : b = c := Std.LawfulEqCmp.eq_of_compare (beq_iff_eq.mp heq)
        rw [ih, hbc]
        simp
      · rw [List.mem_cons, ih, ← List.mem_cons]

private theorem mem_sortedOnce : a ∈ sortedOnce l ↔ a ∈ l := by
  rw [sortedOnce, mem_eraseRepsBy, List.mem_mergeSort]

variable [Std.TransOrd β]

private theorem pairwise_eraseRepsBy (h : l.Pairwise fun a b ↦ (compare a b).isLE = true) :
    (l.eraseRepsBy fun a b ↦ compare a b == .eq).Pairwise fun a b ↦ compare a b = .lt := by
  cases l with
  | nil => exact List.Pairwise.nil
  | cons b l =>
    induction l generalizing b with
    | nil => exact List.pairwise_singleton _ _
    | cons c l ih =>
      obtain ⟨hb, hrest⟩ := List.pairwise_cons.mp h
      obtain ⟨hc, hl⟩ := List.pairwise_cons.mp hrest
      rw [eraseRepsBy_cons_cons]
      split
      · exact ih b (List.pairwise_cons.mpr ⟨fun x hx ↦ hb x (List.mem_cons_of_mem c hx), hl⟩)
      · next hne =>
        have hbc : compare b c = .lt := by
          have hle := hb c List.mem_cons_self
          cases hcmp : compare b c <;> simp_all
        -- What is kept of the rest is at least its first value.
        refine List.pairwise_cons.mpr ⟨fun x hx ↦ ?_, ih c hrest⟩
        rcases List.mem_cons.mp (mem_eraseRepsBy.mp hx) with rfl | hx
        · exact hbc
        · exact Std.TransCmp.lt_of_lt_of_isLE hbc (hc x hx)

private theorem pairwise_sortedOnce (l : List β) :
    (sortedOnce l).Pairwise fun a b ↦ compare a b = .lt := by
  have htotal : ∀ a b : β, ((compare a b).isLE || (compare b a).isLE) = true := by
    intro a b
    have hswap : compare b a = (compare a b).swap := Std.OrientedCmp.eq_swap
    rw [hswap]
    cases compare a b <;> rfl
  exact pairwise_eraseRepsBy
    (List.pairwise_mergeSort (fun _ _ _ ↦ Std.TransCmp.isLE_trans) htotal l)

private theorem eq_of_pairwise_lt {l l' : List β} (hl : l.Pairwise fun a b ↦ compare a b = .lt)
    (hl' : l'.Pairwise fun a b ↦ compare a b = .lt) (h : ∀ a, a ∈ l ↔ a ∈ l') : l = l' := by
  have : Std.Irrefl fun a b : β ↦ compare a b = .lt := ⟨fun a hlt ↦ by simp at hlt⟩
  have : Std.Antisymm fun a b : β ↦ compare a b = .lt :=
    ⟨fun a b hab hba ↦ False.elim (Std.OrientedCmp.not_lt_of_lt hab hba)⟩
  exact hl.eq_of_mem_iff hl' h

/-- An ordered set lists its values as sorting them once does. -/
theorem toList_ofList_eq_sortedOnce [DecidableEq β] (l : List β) :
    (Std.ExtTreeSet.ofList l).toList = sortedOnce l := by
  apply eq_of_pairwise_lt Std.ExtTreeSet.ordered_toList (pairwise_sortedOnce l)
  intro a
  rw [Std.ExtTreeSet.mem_toList, Std.ExtTreeSet.mem_ofList, List.contains_iff_mem, mem_sortedOnce]

end Sorting

/-! ### The order of entries -/

open AxisValue

variable {α : Type} [AxisValue α] [Std.LawfulEqOrd α] {e f : DomainEntry α}
  {es es' : List (DomainEntry α)}

/-- An entry comes before another by its low end, else by its high end, and a point before the span
of the same ends. -/
def DomainEntry.Precedes (e f : DomainEntry α) : Prop :=
  compare e.low f.low = .lt ∨
    e.low = f.low ∧ (compare e.high f.high = .lt ∨ e.high = f.high ∧ e.isSpan = false ∧
      f.isSpan = true)

private theorem DomainEntry.compare_eq_lt_iff : compare e f = .lt ↔ e.Precedes f := by
  have hspan : ∀ p q : Bool, compare p q = .lt ↔ p = false ∧ q = true := by decide
  rw [compare_def, Ordering.then_eq_lt, Ordering.then_eq_lt, Std.LawfulEqCmp.compare_eq_iff_eq,
    Std.LawfulEqCmp.compare_eq_iff_eq, hspan, Precedes]

namespace Domain

variable [Std.TransOrd α]

/-- The entries are those that were given, sorted once. -/
theorem entries_ofList [DecidableEq α] (es : List (DomainEntry α)) :
    (ofList es).entries = sortedOnce es :=
  toList_ofList_eq_sortedOnce es

/-- Domains of the same entries are the same, and of others are not. -/
theorem ofList_eq_ofList_iff [DecidableEq α] : ofList es = ofList es' ↔ ∀ e, e ∈ es ↔ e ∈ es' := by
  constructor
  · intro h e
    rw [← mem_entries_ofList, h, mem_entries_ofList]
  · intro h
    apply ext
    intro e
    rw [mem_entries_ofList, mem_entries_ofList, h]

/-- The domain of the entries of a domain is that domain. -/
theorem ofList_entries [DecidableEq α] (d : Domain α) : ofList d.entries = d := by
  apply ext
  intro e
  exact mem_entries_ofList

/-- The domain of some entries has one form, that of the set of these entries. -/
structure Canonical (es : List (DomainEntry α)) : Prop where
  /-- Sorting and dropping repetitions gives its entries. -/
  sorted : (ofList es).entries = sortedOnce es
  increasing : (ofList es).entries.Pairwise DomainEntry.Precedes
  mem : ∀ e, e ∈ (ofList es).entries ↔ e ∈ es
  /-- It is the domain of the same entries in any order and number, and of no others. -/
  same : ∀ es', ofList es = ofList es' ↔ ∀ e, e ∈ es ↔ e ∈ es'
  /-- Building it again from its entries changes nothing. -/
  rebuilt : ofList (ofList es).entries = ofList es

/-- Where only equal values compare equal, every domain has its one form. -/
theorem canonical [DecidableEq α] (es : List (DomainEntry α)) : Canonical es where
  sorted := entries_ofList es
  increasing := (pairwise_entries _).imp DomainEntry.compare_eq_lt_iff.mp
  mem _ := mem_entries_ofList
  same _ := ofList_eq_ofList_iff
  rebuilt := ofList_entries _

/-- The domains of times and of elevations have one form each. -/
theorem canonical_ofList :
    (∀ es : List (DomainEntry Instant), Canonical es) ∧
      ∀ es : List (DomainEntry Double), Canonical es :=
  ⟨canonical, canonical⟩

/-- Both zeros and both signs of what is no number stay apart, and a span may go the wrong way. -/
example :
    let es : List (DomainEntry Double) :=
      [.point (.zero false), .point (.notANumber true), .span (.zero false) (.zero true),
        .point (.zero true), .point (.notANumber false), .point (.zero false)]
    (ofList es).entries =
      [.point (.notANumber true), .point (.zero true), .span (.zero false) (.zero true),
        .point (.zero false), .point (.notANumber false)] := by
  decide +kernel

end Domain

end CoverageSubset

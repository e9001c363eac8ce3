import CoverageSubset.CoverageSet.Budget
import Mathlib.Data.List.Forall2

/-!
# What a limit keeps

Under a limit the coverages together list as many identifiers as the limit admits, and these are the
first ones of all: the coverage that uses up the budget is cut where the budget ends, and the
coverages after it add nothing. What is true of a coverage however its lists are cut is true of each
coverage that is listed.
-/

namespace CoverageSubset

namespace CoverageGranules

/-- The lists of a coverage are of one length. -/
def Balanced (l : CoverageGranules) : Prop := l.granuleIds.length = l.size

/-- The coverages together list as many identifiers as granules. -/
theorem length_flatMap_granuleIds {ls : List CoverageGranules} (hls : ∀ l ∈ ls, l.Balanced) :
    (ls.flatMap granuleIds).length = total ls := by
  induction ls with
  | nil => rfl
  | cons l ls ih =>
    have hl : l.granuleIds.length = l.size := hls l (by simp)
    rw [List.flatMap_cons, List.length_append, total, hl, ih (fun l' hl' ↦ hls l' (by simp [hl']))]

private theorem granuleIds_cut {l : CoverageGranules} (hl : l.Balanced) (budget : Nat) :
    (l.cut budget).granuleIds = l.granuleIds.take budget := by
  rw [cut]
  split
  · rfl
  · next h =>
    have hle : l.granuleIds.length ≤ budget := by
      rw [hl]
      omega
    exact (List.take_of_length_le hle).symm

/-- Spending a budget lists the first identifiers of all coverages, as many as the budget admits. -/
theorem flatMap_spend {ls : List CoverageGranules} (hls : ∀ l ∈ ls, l.Balanced) (budget : Nat) :
    (spend budget ls).flatMap granuleIds = (ls.flatMap granuleIds).take budget := by
  induction ls generalizing budget with
  | nil => rw [spend, List.flatMap_nil, List.take_nil]
  | cons l ls ih =>
    have hl : l.granuleIds.length = l.size := hls l (by simp)
    rw [spend, List.flatMap_cons, List.flatMap_cons, List.take_append, granuleIds_cut hl, hl]
    congr 1
    split
    · next h =>
      have hzero : budget - l.size = 0 := by omega
      rw [hzero, List.take_zero, List.flatMap_nil]
    · next h =>
      have hrest : (budget : Int) - l.size = ((budget - l.size : Nat) : Int) := by omega
      rw [hrest, ih (fun l' hl' ↦ hls l' (by simp [hl']))]

/-- A limit lists the first identifiers of all coverages, as many as it admits. -/
theorem flatMap_limit {ls : List CoverageGranules} (hls : ∀ l ∈ ls, l.Balanced)
    (most : Option Nat) :
    (limit most ls).flatMap granuleIds =
      (ls.flatMap granuleIds).take (most.elim (total ls) (min (total ls))) := by
  have hlength := length_flatMap_granuleIds hls
  cases most with
  | none => rw [limit, Option.elim_none, ← hlength, List.take_length]
  | some n =>
    rw [limit, Option.elim_some, ← hlength, flatMap_spend hls, Nat.min_comm, ← List.take_take,
      List.take_length]

/-! ### What the coverages keep -/

section Kept

variable {α : Type} {R : α → CoverageGranules → Prop} {xs : List α} {ls : List CoverageGranules}

private theorem cut_of_take (htake : ∀ x l n, R x l → R x (l.take n)) {x : α}
    {l : CoverageGranules} (h : R x l) (budget : Int) :
    R x (l.cut budget) := by
  rw [cut]
  split
  · exact htake x l _ h
  · exact h

/-- The coverages that a budget admits are the first ones, and keep what they keep when their lists
are cut. -/
theorem forall₂_spend (htake : ∀ x l n, R x l → R x (l.take n)) (h : List.Forall₂ R xs ls)
    (budget : Int) :
    ∃ front, front <+: xs ∧ List.Forall₂ R front (spend budget ls) := by
  induction h generalizing budget with
  | nil => exact ⟨[], List.prefix_refl [], .nil⟩
  | @cons x l xs ls hl _ ih =>
    rw [spend]
    split
    · exact ⟨[x], ⟨xs, rfl⟩, .cons (cut_of_take htake hl budget) .nil⟩
    · obtain ⟨front, hfront, hrest⟩ := ih (budget - l.size)
      exact ⟨x :: front, (List.prefix_cons_inj x).mpr hfront,
        .cons (cut_of_take htake hl budget) hrest⟩

/-- The coverages that a limit admits are the first ones, and keep what they keep when their lists
are cut. -/
theorem forall₂_limit (htake : ∀ x l n, R x l → R x (l.take n)) (h : List.Forall₂ R xs ls)
    (most : Option Nat) :
    ∃ front, front <+: xs ∧ List.Forall₂ R front (limit most ls) := by
  cases most with
  | none => exact ⟨xs, List.prefix_refl xs, h⟩
  | some n => exact forall₂_spend htake h n

end Kept

end CoverageGranules

end CoverageSubset

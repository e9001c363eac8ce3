import CoverageSubset.AxisValue
import Mathlib.Data.List.TakeDrop

/-!
# The order of an axis

Laws of `AxisValue.atMost`, which is all that domains use of the order of their values, and the ends
of a list of values in strictly increasing order.
-/

namespace CoverageSubset.AxisValue

variable {α : Type} [AxisValue α]

/-- What is below a value is at most that value. -/
theorem atMost_of_lt {a b : α} (h : compare a b = .lt) : atMost a b = true := by
  rw [atMost, h]
  rfl

/-- A value is above another exactly if it is not at most that value. -/
theorem isGT_compare (a b : α) : (compare a b).isGT = !atMost a b := by
  rw [atMost]
  cases compare a b <;> rfl

/-- A list has a greatest value unless it is empty. -/
theorem greatest?_eq_none_iff {l : List α} : greatest? l = none ↔ l = [] := by
  cases l <;> simp [greatest?]

private theorem greatest?_cons_cons (v w : α) (l : List α) :
    greatest? (v :: w :: l) = greatest? ((if atMost v w then w else v) :: l) := by
  simp only [greatest?, List.foldl_cons, isGT_compare]
  cases atMost v w <;> rfl

variable [Std.TransOrd α]

/-- Every value is at most itself. -/
theorem atMost_refl (a : α) : atMost a a = true :=
  Std.ReflCmp.isLE_rfl

/-- The order is transitive. -/
theorem atMost_trans {a b c : α} (hab : atMost a b = true) (hbc : atMost b c = true) :
    atMost a c = true :=
  Std.TransCmp.isLE_trans hab hbc

/-- A value is not at most another exactly if the other is below it. -/
theorem atMost_eq_false_iff {a b : α} : atMost a b = false ↔ compare b a = .lt := by
  rw [atMost, ← Std.OrientedCmp.gt_iff_lt]
  cases compare a b <;> simp

/-- A value below another is not above it. -/
theorem not_atMost_of_lt {a b : α} (h : compare a b = .lt) : atMost b a = false :=
  atMost_eq_false_iff.mpr h

/-- Values that are at most each other are equal. -/
theorem atMost_antisymm [Std.LawfulEqOrd α] {a b : α} (hab : atMost a b = true)
    (hba : atMost b a = true) :
    a = b :=
  Std.LawfulEqCmp.eq_of_compare (Std.OrientedCmp.isLE_antisymm hab hba)

/-- A value that is at most another and differs from it is below it. -/
theorem lt_of_atMost_of_ne [Std.LawfulEqOrd α] {a b : α} (h : atMost a b = true) (hne : a ≠ b) :
    compare a b = .lt := by
  rw [← atMost_eq_false_iff]
  cases hba : atMost b a with
  | false => rfl
  | true => exact False.elim (hne (atMost_antisymm h hba))

/-- The last of increasing values is the greatest. -/
theorem atMost_getLast? {l : List α} {b : α} (hl : l.Pairwise fun a b ↦ compare a b = .lt)
    (h : l.getLast? = some b) : ∀ c ∈ l, atMost c b = true := by
  obtain ⟨front, rfl⟩ := List.getLast?_eq_some_iff.mp h
  intro c hc
  rcases List.mem_append.mp hc with hc | hc
  · exact atMost_of_lt ((List.pairwise_append.mp hl).2.2 c hc b (by simp))
  · rw [List.mem_singleton.mp hc]
    exact atMost_refl b

/-- The first of increasing values is the least. -/
theorem head?_atMost {l : List α} {b : α} (hl : l.Pairwise fun a b ↦ compare a b = .lt)
    (h : l.head? = some b) : ∀ c ∈ l, atMost b c = true := by
  obtain ⟨tail, rfl⟩ := List.head?_eq_some_iff.mp h
  intro c hc
  rcases List.mem_cons.mp hc with rfl | hc
  · exact atMost_refl c
  · exact atMost_of_lt ((List.pairwise_cons.mp hl).1 c hc)

/-- A greatest value of a list is one of its values, and none is above it. -/
theorem greatest?_eq_some {l : List α} {m : α} (h : greatest? l = some m) :
    m ∈ l ∧ ∀ v ∈ l, atMost v m = true := by
  cases l with
  | nil => cases h
  | cons v l =>
    -- The greatest value so far stands for all that came before it.
    induction l generalizing v with
    | nil =>
      obtain rfl := Option.some.inj h
      simp [atMost_refl]
    | cons w l ih =>
      rw [greatest?_cons_cons] at h
      split at h
      · next hvw =>
        obtain ⟨hm, hle⟩ := ih w h
        refine ⟨List.mem_cons_of_mem v hm, List.forall_mem_cons.mpr ⟨?_, hle⟩⟩
        exact atMost_trans hvw (hle w List.mem_cons_self)
      · next hvw =>
        obtain ⟨hm, hle⟩ := ih v h
        obtain ⟨hv, hrest⟩ := List.forall_mem_cons.mp hle
        have hwv : atMost w v = true :=
          atMost_of_lt (atMost_eq_false_iff.mp (Bool.eq_false_iff.mpr hvw))
        refine ⟨List.mem_cons.mpr ((List.mem_cons.mp hm).imp_right (List.mem_cons_of_mem w)), ?_⟩
        exact List.forall_mem_cons.mpr ⟨hv, List.forall_mem_cons.mpr ⟨atMost_trans hwv hv, hrest⟩⟩

/-- A bound cuts increasing values into those up to it and those beyond it. -/
theorem span_atMost_eq_filter {l : List α} (hl : l.Pairwise fun a b ↦ compare a b = .lt) (v : α) :
    l.span (fun b ↦ atMost b v) = (l.filter fun b ↦ atMost b v, l.filter fun b ↦ !atMost b v) := by
  rw [List.span_eq_takeWhile_dropWhile]
  induction l with
  | nil => rfl
  | cons a l ih =>
    obtain ⟨hhead, htail⟩ := List.pairwise_cons.mp hl
    cases ha : atMost a v with
    | true =>
      obtain ⟨htake, hdrop⟩ := Prod.mk.inj (ih htail)
      simp [ha, htake, hdrop]
    | false =>
      -- Once a value is beyond the bound, so are all that follow.
      have hbeyond : ∀ b ∈ l, atMost b v = false := by
        intro b hb
        exact atMost_eq_false_iff.mpr
          (Std.TransCmp.lt_trans (atMost_eq_false_iff.mp ha) (hhead b hb))
      have htake : l.filter (fun b ↦ atMost b v) = [] := by
        simpa using hbeyond
      have hdrop : l.filter (fun b ↦ !atMost b v) = l := by
        simpa using hbeyond
      simp [ha, htake, hdrop]

end CoverageSubset.AxisValue

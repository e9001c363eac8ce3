/-!
# Sorting by a comparison

A sort is given a comparison of two items. Where that is a total order on the items, up to ties,
there is but one thing a stable sort can do: put the items in this order, those that tie as they
stood. Where it is none, all that is said of a sort is that it loses nothing: the order is open,
and the sort may notice that the comparison contradicts itself and give up.

The sort that is run inserts one item after another as long as there are few of them, whatever the
comparison is. Of more items it gives up those that the comparison puts in no order.
-/

namespace CoverageSubset

variable {α : Type}

/-! ### Orders -/

/-- A comparison is a total order on some items, up to ties: it says the same both ways round, and
to come no later is transitive. -/
structure OrdersOn (cmp : α → α → Ordering) (xs : List α) : Prop where
  swap : ∀ a ∈ xs, ∀ b ∈ xs, cmp b a = (cmp a b).swap
  trans : ∀ a ∈ xs, ∀ b ∈ xs, ∀ c ∈ xs,
    (cmp a b).isLE = true → (cmp b c).isLE = true → (cmp a c).isLE = true

/-- A list has the items of another in the order of a comparison, those that tie as they stood. -/
structure StablySorts (cmp : α → α → Ordering) (xs sorted : List α) : Prop where
  perm : sorted.Perm xs
  ordered : sorted.Pairwise fun a b ↦ (cmp a b).isLE = true
  stable : ∀ a ∈ xs, (sorted.filter fun b ↦ cmp a b == .eq) = xs.filter fun b ↦ cmp a b == .eq

namespace OrdersOn

variable {cmp : α → α → Ordering} {xs ys : List α} {a b c : α}

/-- Every comparison is an order on no items. -/
theorem nil (cmp : α → α → Ordering) : OrdersOn cmp [] where
  swap _ ha := nomatch ha
  trans _ ha := nomatch ha

/-- An order on items is one on some of them. -/
theorem mono (h : OrdersOn cmp xs) (hys : ∀ a ∈ ys, a ∈ xs) : OrdersOn cmp ys where
  swap a ha b hb := h.swap a (hys a ha) b (hys b hb)
  trans a ha b hb c hc := h.trans a (hys a ha) b (hys b hb) c (hys c hc)

/-- What is not lower is no earlier. -/
theorem isLE_of_ne_lt (h : OrdersOn cmp xs) (ha : a ∈ xs) (hb : b ∈ xs) (hab : cmp a b ≠ .lt) :
    (cmp b a).isLE = true := by
  rw [h.swap a ha b hb]
  cases hcmp : cmp a b with
  | lt => exact absurd hcmp hab
  | eq => rfl
  | gt => rfl

/-- What is lower than an item is lower than what that is no later than. -/
theorem lt_of_lt_of_isLE (h : OrdersOn cmp xs) (ha : a ∈ xs) (hb : b ∈ xs) (hc : c ∈ xs)
    (hab : cmp a b = .lt) (hbc : (cmp b c).isLE = true) : cmp a c = .lt := by
  cases hac : cmp a c with
  | lt => rfl
  | eq | gt =>
    -- Otherwise the third item is no later than the first, and so the second is neither.
    have hca : (cmp c a).isLE = true := h.isLE_of_ne_lt ha hc (by simp [hac])
    have hba := h.trans b hb c hc a ha hbc hca
    rw [h.swap a ha b hb, hab] at hba
    cases hba

/-- Items that tie with one item tie with each other. -/
theorem eq_of_eq_of_eq (h : OrdersOn cmp xs) (ha : a ∈ xs) (hb : b ∈ xs) (hc : c ∈ xs)
    (hab : cmp a b = .eq) (hac : cmp a c = .eq) : cmp b c = .eq := by
  have hba : (cmp b a).isLE = true := by simp [h.swap a ha b hb, hab]
  have hca : (cmp c a).isLE = true := by simp [h.swap a ha c hc, hac]
  have hbc := h.trans b hb a ha c hc hba (by simp [hac])
  have hcb := h.trans c hc a ha b hb hca (by simp [hab])
  rw [h.swap b hb c hc] at hcb
  cases hcmp : cmp b c with
  | eq => rfl
  | lt => simp [hcmp] at hcb
  | gt => simp [hcmp] at hbc

end OrdersOn

/-! ### Ranks

An order is found out by counting: it compares two items as their ranks are compared. -/

section Ranks

variable (cmp : α → α → Ordering) (xs : List α)

/-- The rank of an item: how many are lower. -/
def rank (a : α) : Nat := xs.countP fun b ↦ cmp b a == .lt

/-- Any two items are compared as their ranks are. -/
def ranksAgree : Bool :=
  let ranked := xs.map fun a ↦ (a, rank cmp xs a)
  ranked.all fun (a, m) ↦ ranked.all fun (b, n) ↦ cmp a b == compare m n

variable {cmp xs} {a b : α}

private theorem rank_lt_rank (h : OrdersOn cmp xs) (ha : a ∈ xs) (hb : b ∈ xs)
    (hab : cmp a b = .lt) : rank cmp xs a < rank cmp xs b := by
  have hbelow (c : α) (hc : c ∈ xs) (hca : cmp c a = .lt) : cmp c b = .lt :=
    h.lt_of_lt_of_isLE hc ha hb hca (by simp [hab])
  have hself : cmp a a ≠ .lt := by
    intro hlt
    have hswap := h.swap a ha a ha
    simp [hlt] at hswap
  have hle (ys : List α) (hys : ∀ c ∈ ys, c ∈ xs) :
      (ys.countP fun c ↦ cmp c a == .lt) ≤ ys.countP fun c ↦ cmp c b == .lt :=
    List.countP_mono_left fun c hc hca ↦ by
      rw [beq_iff_eq] at hca ⊢
      exact hbelow c (hys c hc) hca
  -- The first item is one that is lower than the second and not lower than itself.
  obtain ⟨before, after, hxs⟩ := List.append_of_mem ha
  have hbefore := hle before fun c hc ↦ by simp [hxs, hc]
  have hafter := hle after fun c hc ↦ by simp [hxs, hc]
  simp only [rank, hxs, List.countP_append, List.countP_cons, beq_iff_eq, hself, hab]
  simp only [ite_false, ite_true]
  omega

private theorem rank_eq_rank (h : OrdersOn cmp xs) (ha : a ∈ xs) (hb : b ∈ xs)
    (hab : cmp a b = .eq) : rank cmp xs a = rank cmp xs b := by
  have hba : (cmp b a).isLE = true := by simp [h.swap a ha b hb, hab]
  refine List.countP_congr fun c hc ↦ ?_
  rw [beq_iff_eq, beq_iff_eq]
  exact ⟨fun hca ↦ h.lt_of_lt_of_isLE hc ha hb hca (by simp [hab]),
    fun hcb ↦ h.lt_of_lt_of_isLE hc hb ha hcb hba⟩

private theorem cmp_eq_compare_rank (h : OrdersOn cmp xs) (ha : a ∈ xs) (hb : b ∈ xs) :
    cmp a b = compare (rank cmp xs a) (rank cmp xs b) := by
  cases hab : cmp a b with
  | lt => exact (Nat.compare_eq_lt.mpr (rank_lt_rank h ha hb hab)).symm
  | eq => exact (Nat.compare_eq_eq.mpr (rank_eq_rank h ha hb hab)).symm
  | gt =>
    have hba : cmp b a = .lt := by simp [h.swap a ha b hb, hab]
    exact (Nat.compare_eq_gt.mpr (rank_lt_rank h hb ha hba)).symm

/-- A comparison is a total order exactly if the ranks agree with it. -/
theorem ordersOn_iff_ranksAgree : OrdersOn cmp xs ↔ ranksAgree cmp xs = true := by
  have hagree : ranksAgree cmp xs = true ↔
      ∀ a ∈ xs, ∀ b ∈ xs, cmp a b = compare (rank cmp xs a) (rank cmp xs b) := by
    simp [ranksAgree]
  rw [hagree]
  constructor
  · exact fun h a ha b hb ↦ cmp_eq_compare_rank h ha hb
  · intro h
    constructor
    · intro a ha b hb
      rw [h a ha b hb, h b hb a ha]
      exact Std.OrientedCmp.eq_swap
    · intro a ha b hb c hc hab hbc
      rw [h a ha b hb] at hab
      rw [h b hb c hc] at hbc
      rw [h a ha c hc]
      exact Std.TransCmp.isLE_trans hab hbc

instance : Decidable (OrdersOn cmp xs) := decidable_of_iff _ ordersOn_iff_ranksAgree.symm

end Ranks

/-! ### Insertion -/

section Insertion

variable (cmp : α → α → Ordering)

/-- Puts an item into a list in reverse order, before the first one that it is not lower than. -/
def place (a : α) : List α → List α
  | [] => [a]
  | b :: rest => if cmp a b = .lt then b :: place a rest else a :: b :: rest

/-- Sorts items in reverse order, the last of which stands first. -/
def placeAll : List α → List α
  | [] => []
  | a :: before => place cmp a (placeAll before)

/-- Sorts items by inserting one after the other behind the last one that it is not lower than. -/
def insertionSort (xs : List α) : List α := (placeAll cmp xs.reverse).reverse

/-- The last item is inserted when the others are in order. -/
theorem insertionSort_append_singleton (xs : List α) (a : α) :
    insertionSort cmp (xs ++ [a]) = (place cmp a (insertionSort cmp xs).reverse).reverse := by
  simp [insertionSort, placeAll]

variable {cmp} {a : α}

/-- Placing an item adds it and loses nothing. -/
theorem place_perm (a : α) (placed : List α) : (place cmp a placed).Perm (a :: placed) := by
  induction placed with
  | nil => exact .refl _
  | cons b rest ih =>
    rw [place]
    split
    · exact (ih.cons b).trans (.swap a b rest)
    · exact .refl _

private theorem placeAll_perm (xs : List α) : (placeAll cmp xs).Perm xs := by
  induction xs with
  | nil => exact .refl _
  | cons a before ih => exact (place_perm a _).trans (ih.cons a)

private theorem pairwise_place {placed : List α} (h : OrdersOn cmp (a :: placed))
    (hplaced : placed.Pairwise fun b c ↦ (cmp c b).isLE = true) :
    (place cmp a placed).Pairwise fun b c ↦ (cmp c b).isLE = true := by
  induction placed with
  | nil => exact List.pairwise_singleton _ a
  | cons b rest ih =>
    obtain ⟨hfirst, hrest⟩ := List.pairwise_cons.mp hplaced
    rw [place]
    split
    · next hlt =>
      -- The item passes this one, which is no lower than all that it is placed among.
      refine List.pairwise_cons.mpr ⟨?_, ih (h.mono (by simp +contextual)) hrest⟩
      intro c hc
      rcases List.mem_cons.mp ((place_perm a rest).mem_iff.mp hc) with rfl | hc
      · simp [hlt]
      · exact hfirst c hc
    · next hstop =>
      have hba : (cmp b a).isLE = true := h.isLE_of_ne_lt (by simp) (by simp) hstop
      refine List.pairwise_cons.mpr ⟨?_, hplaced⟩
      intro c hc
      rcases List.mem_cons.mp hc with rfl | hc
      · exact hba
      · exact h.trans c (by simp [hc]) b (by simp) a (by simp) (hfirst c hc) hba

private theorem pairwise_placeAll {xs : List α} (h : OrdersOn cmp xs) :
    (placeAll cmp xs).Pairwise fun b c ↦ (cmp c b).isLE = true := by
  induction xs with
  | nil => exact .nil
  | cons a before ih =>
    refine pairwise_place (h.mono ?_) (ih (h.mono fun _ ↦ List.mem_cons_of_mem a))
    intro b hb
    simpa [(placeAll_perm before).mem_iff] using hb

private theorem filter_place {p : α → Bool} {placed : List α}
    (h : p a = true → ∀ b ∈ placed, p b = true → cmp a b ≠ .lt) :
    (place cmp a placed).filter p = (a :: placed).filter p := by
  induction placed with
  | nil => rfl
  | cons b rest ih =>
    rw [place]
    split
    · next hlt =>
      have hrest := ih fun ha c hc ↦ h ha c (List.mem_cons_of_mem _ hc)
      -- What the item passes is of another kind.
      have hother : p a = true → p b = false := by
        intro ha
        cases hb : p b with
        | false => rfl
        | true => exact absurd hlt (h ha b List.mem_cons_self hb)
      cases ha : p a with
      | false => simp [List.filter_cons, hrest, ha]
      | true => simp [hrest, ha, hother ha]
    · rfl

private theorem filter_placeAll {p : α → Bool} {xs : List α}
    (h : ∀ a ∈ xs, ∀ b ∈ xs, p a = true → p b = true → cmp a b ≠ .lt) :
    (placeAll cmp xs).filter p = xs.filter p := by
  induction xs with
  | nil => rfl
  | cons a before ih =>
    have hbefore := ih fun b hb c hc ↦ h b (by simp [hb]) c (by simp [hc])
    have hplaced : (place cmp a (placeAll cmp before)).filter p =
        (a :: placeAll cmp before).filter p := by
      refine filter_place fun ha b hb ↦ h a (by simp) b ?_ ha
      simpa [(placeAll_perm before).mem_iff] using Or.inr hb
    rw [placeAll, hplaced, List.filter_cons, hbefore, List.filter_cons]

/-- Sorting by insertion loses nothing. -/
theorem insertionSort_perm (xs : List α) : (insertionSort cmp xs).Perm xs :=
  (List.reverse_perm _).trans ((placeAll_perm _).trans (List.reverse_perm xs))

/-- Sorting by insertion is stable where the comparison is an order. -/
theorem stablySorts_insertionSort {xs : List α} (h : OrdersOn cmp xs) :
    StablySorts cmp xs (insertionSort cmp xs) where
  perm := insertionSort_perm xs
  ordered := by
    rw [insertionSort, List.pairwise_reverse]
    exact pairwise_placeAll (h.mono (by simp))
  stable a ha := by
    -- Items that tie with one item tie with each other, so none of them passes another.
    have htied : ∀ b ∈ xs.reverse, ∀ c ∈ xs.reverse, (cmp a b == .eq) = true →
        (cmp a c == .eq) = true → cmp b c ≠ .lt := by
      intro b hb c hc hab hac
      rw [List.mem_reverse] at hb hc
      rw [beq_iff_eq] at hab hac
      simp [h.eq_of_eq_of_eq ha hb hc hab hac]
    rw [insertionSort, List.filter_reverse, filter_placeAll htied, List.filter_reverse,
      List.reverse_reverse]

end Insertion

/-! ### Sorts -/

/-- A sort, as far as anything is said of it: it may give up, but not on an order. -/
structure Sorter (α : Type) where
  /-- The items in the order of a comparison, unless the sort gives up. -/
  sort : (α → α → Ordering) → List α → Option (List α)
  perm : ∀ {cmp : α → α → Ordering} {xs sorted : List α}, sort cmp xs = some sorted → sorted.Perm xs
  sorts : ∀ {cmp : α → α → Ordering} {xs : List α}, OrdersOn cmp xs →
    ∃ sorted, sort cmp xs = some sorted ∧ StablySorts cmp xs sorted

namespace Sorter

/-- What a sort says when it gives up. -/
def complaint : String :=
  "user-provided comparison function does not correctly implement a total order"

/-- How many items are few. -/
def few : Nat := 20

/-- The sort inserts few items one after the other, whatever the comparison is. -/
def InsertsFew (s : Sorter α) : Prop :=
  ∀ (cmp : α → α → Ordering) (xs : List α), xs.length ≤ few →
    s.sort cmp xs = some (insertionSort cmp xs)

/-- The sort by insertion that gives up on more than a few items in no order. -/
def standard : Sorter α where
  sort cmp xs :=
    if xs.length ≤ few ∨ OrdersOn cmp xs then some (insertionSort cmp xs) else none
  perm h := by
    obtain ⟨-, h⟩ := Option.ite_none_right_eq_some.mp h
    exact Option.some.inj h ▸ insertionSort_perm _
  sorts h := ⟨_, if_pos (.inr h), stablySorts_insertionSort h⟩

/-- Few items are inserted one after the other. -/
theorem standard_insertsFew : (standard : Sorter α).InsertsFew := fun _ _ h ↦ if_pos (.inl h)

end Sorter

end CoverageSubset

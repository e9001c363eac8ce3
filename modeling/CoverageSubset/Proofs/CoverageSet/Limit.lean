import CoverageSubset.Proofs.CoverageSet.Budget

/-!
# Which coverages a limit lists

The first coverages are listed, up to the one with which they reach the limit; this one is cut to
what the others leave of it. If all of them together do not reach the limit, all are listed as they
are. A first coverage is listed under any limit, even if none of its granules are. Only the coverage
that is listed last can use up more than the budget, so the budget with which a coverage is listed
is never negative, and no coverage is cut to a negative length.
-/

namespace CoverageSubset.CoverageGranules

variable {l last : CoverageGranules} {ls before after : List CoverageGranules} {most : Nat}

/-! ### Budgets -/

/-- The budgets with which the coverages are listed, one after another. -/
def budgets (budget : Int) : List CoverageGranules → List Int
  | [] => []
  | l :: rest => budget :: if budget - l.size ≤ 0 then [] else budgets (budget - l.size) rest

private theorem spend_eq_zipWith (budget : Int) (ls : List CoverageGranules) :
    spend budget ls = List.zipWith cut ls (budgets budget ls) := by
  induction ls generalizing budget with
  | nil => rfl
  | cons l ls ih =>
    rw [spend, budgets, List.zipWith_cons_cons]
    split
    · rw [List.zipWith_nil_right]
    · rw [ih]

private theorem nonneg_of_mem_budgets {budget : Int} (h : 0 ≤ budget) :
    ∀ b ∈ budgets budget ls, 0 ≤ b := by
  induction ls generalizing budget with
  | nil => simp [budgets]
  | cons l ls ih =>
    rw [budgets, List.forall_mem_cons]
    refine ⟨h, ?_⟩
    split
    · simp
    · exact ih (by omega)

/-! ### Where the limit is reached -/

/-- The coverages reach a limit with the last one, or are all that there are, and no fewer of them
reach it. -/
structure ReachesWith (most : Nat) (before : List CoverageGranules) (last : CoverageGranules)
    (after : List CoverageGranules) : Prop where
  reached : after ≠ [] → most ≤ total (before ++ [last])
  not_before : ∀ front, front <+: before → front ≠ [] → total front < most

private theorem reachesWith_nil (h : after ≠ [] → most ≤ l.size) : ReachesWith most [] l after where
  reached := h
  not_before _ hfront hne := absurd (List.prefix_nil.mp hfront) hne

/-- A coverage that has fewer granules than the limit leaves the rest of it to the others. -/
theorem ReachesWith.cons (hl : l.size < most) (h : ReachesWith (most - l.size) before last after) :
    ReachesWith most (l :: before) last after where
  reached hne := by
    have hrest := h.reached hne
    rw [List.cons_append, total]
    omega
  not_before front hfront hne := by
    obtain rfl | ⟨rest, rfl, hrest⟩ := List.prefix_cons_iff.mp hfront
    · exact absurd rfl hne
    · rw [total]
      by_cases hnil : rest = []
      · rw [hnil, total]
        omega
      · have := h.not_before rest hrest hnil
        omega

private theorem cut_eq_take (hl : l.Balanced) (budget : Nat) :
    l.cut budget = l.take (min l.size budget) := by
  rw [cut]
  split
  · next h =>
    rw [Int.toNat_natCast, Nat.min_eq_right (by omega)]
  · next h =>
    rw [Nat.min_eq_left (by omega), take, List.take_of_length_le (Nat.le_of_eq hl),
      List.take_of_length_le (Nat.le_refl l.size)]

/-- Spending a budget lists the coverages that reach it, the last one cut to what the others leave
of it. -/
theorem exists_spend_eq (hls : ∀ l ∈ ls, l.Balanced) (hne : ls ≠ []) (most : Nat) :
    ∃ before last after, ls = before ++ last :: after ∧ ReachesWith most before last after ∧
      spend most ls = before ++ [last.take (min last.size (most - total before))] := by
  induction ls generalizing most with
  | nil => exact absurd rfl hne
  | cons l ls ih =>
    rw [List.forall_mem_cons] at hls
    rw [spend]
    rcases Nat.lt_or_ge l.size most with hlt | hge
    · have hwhole : l.cut most = l := if_neg (by omega)
      have hleft : (most : Int) - l.size = ((most - l.size : Nat) : Int) := by omega
      rw [if_neg (by omega), hwhole, hleft]
      by_cases hnil : ls = []
      · refine ⟨[], l, [], by rw [hnil, List.nil_append], reachesWith_nil (absurd rfl), ?_⟩
        rw [hnil, spend, total, Nat.sub_zero, ← cut_eq_take hls.1, hwhole, List.nil_append]
      · obtain ⟨before, last, after, rfl, hreaches, hspend⟩ := ih hls.2 hnil (most - l.size)
        refine ⟨l :: before, last, after, rfl, hreaches.cons hlt, ?_⟩
        rw [hspend, total, Nat.sub_sub, List.cons_append]
    · refine ⟨[], l, ls, rfl, reachesWith_nil fun _ ↦ hge, ?_⟩
      rw [if_pos (by omega), cut_eq_take hls.1, total, Nat.sub_zero, List.nil_append]

/-- Cutting keeps the lists of a coverage of one length. -/
theorem Balanced.take (h : l.Balanced) (n : Nat) : (l.take n).Balanced := by
  rw [Balanced, size, CoverageGranules.take, List.length_take, List.length_take, h, size]

/-- Under a limit the shortest part at the start of the coverages is listed that reaches it, or all
of them; none is listed only if there is none. All but the last are listed as they are, and that one
is cut to what they leave of the limit. The identifiers and granules of each stay of one length, and
the budget with which it is listed is not negative. -/
theorem limit_cutsWhereReached (hls : ∀ l ∈ ls, l.Balanced) (most : Nat) :
    (limit (some most) ls = [] ↔ ls = []) ∧
    (ls ≠ [] → ∃ before last after, ls = before ++ last :: after ∧
      ReachesWith most before last after ∧
      limit (some most) ls = before ++ [last.take (min last.size (most - total before))]) ∧
    (∀ l ∈ limit (some most) ls, l.Balanced) ∧
    limit (some most) ls = List.zipWith cut ls (budgets most ls) ∧
      ∀ b ∈ budgets most ls, 0 ≤ b := by
  refine ⟨?_, fun hne ↦ exists_spend_eq hls hne most, ?_, spend_eq_zipWith most ls,
    nonneg_of_mem_budgets (Int.natCast_nonneg most)⟩
  · cases ls with
    | nil => exact iff_of_true rfl rfl
    | cons l ls => exact iff_of_false (List.cons_ne_nil _ _) (List.cons_ne_nil _ _)
  · by_cases hnil : ls = []
    · rw [hnil]
      exact fun l hl ↦ absurd hl List.not_mem_nil
    · obtain ⟨before, last, after, rfl, -, hspend⟩ := exists_spend_eq hls hnil most
      rw [limit, hspend]
      intro l hl
      rcases List.mem_append.mp hl with hl | hl
      · exact hls l (List.mem_append_left _ hl)
      · obtain rfl := List.mem_singleton.mp hl
        exact (hls last (by simp)).take _

/-- A limit of five ends inside the second of three coverages, after three granules of the first. -/
theorem limit_cutsWhereReached_second :
    let listed (ids : List String) : CoverageGranules := ⟨"eo__sst_dss", ids, ids.map Granule.ofId⟩
    let ls := [listed ["a", "b", "c"], listed ["d", "e", "f", "g"], listed ["h", "i"]]
    (∀ l ∈ ls, l.Balanced) ∧ ls ≠ [] ∧ (limit (some 5) ls).map granuleIds =
      [["a", "b", "c"], ["d", "e"]] ∧
      budgets 5 ls = [5, 2] ∧
      (∃ before last after, ls = before ++ last :: after ∧ ReachesWith 5 before last after ∧
        limit (some 5) ls = before ++ [last.take (min last.size (5 - total before))]) ∧
      ∀ b ∈ budgets 5 ls, 0 ≤ b := by
  intro listed ls
  have hlisted (ids : List String) : (listed ids).Balanced := (List.length_map Granule.ofId).symm
  have hls : ∀ l ∈ ls, l.Balanced := by simp [ls, hlisted]
  have hcut := limit_cutsWhereReached hls 5
  exact ⟨hls, List.cons_ne_nil _ _, rfl, rfl, hcut.2.1 (List.cons_ne_nil _ _), hcut.2.2.2.2⟩

end CoverageSubset.CoverageGranules

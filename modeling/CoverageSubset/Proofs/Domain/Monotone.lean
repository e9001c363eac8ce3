import CoverageSubset.Proofs.AxisDistance
import CoverageSubset.Proofs.Domain.Snapping

/-!
# Snapping keeps the order of values

A value that moves never passes a boundary, so two values with a boundary between them stay on their
sides of it. Without one, both lie in the same entries and have the same neighbours: either both are
kept, or the choice between the neighbours can only turn upward from the lower value to the upper
one, as far as distances grow along the axis.
-/

namespace CoverageSubset

open AxisValue

variable {α : Type} [AxisValue α]

namespace Domain

/-- Two values that may be missing are both there and in order, or neither is there. -/
def InOrder : Option α → Option α → Prop := Option.Rel fun b c ↦ atMost b c = true

/-! ### The choice between two neighbours -/

section Choice

variable {P : α → Prop} {v w low high : α}

private theorem shorter_of_shorter (hgrow : GrowOn P) (hlow : P low) (hv : P v) (hw : P w)
    (hhigh : P high) (hlv : atMost low v = true) (hvw : atMost v w = true)
    (hwh : atMost w high = true) (h : shorter (since high v) (since v low) = true) :
    shorter (since high w) (since w low) = true := by
  by_contra hnot
  have hdown : shorter (since high v) (since high w) = false := hgrow.earlier hv hw hhigh hvw hwh
  have hup : shorter (since w low) (since v low) = false := hgrow.later hlow hv hw hlv hvw
  have hacross : shorter (since high v) (since w low) = false :=
    hgrow.trans _ _ _ hdown (Bool.eq_false_iff.mpr hnot)
  rw [hgrow.trans _ _ _ hacross hup] at h
  contradiction

private theorem InOrder.atMost_getD {o o' : Option α} (h : InOrder o o')
    (hvw : atMost v w = true) : atMost (o.getD v) (o'.getD w) = true := by
  cases h with
  | none => exact hvw
  | some hbc => exact hbc

variable [Std.TransOrd α]

private theorem inOrder_refl (o : Option α) : InOrder o o := by
  cases o with
  | none => exact .none
  | some b => exact .some (atMost_refl b)

private theorem inOrder_nearer? {below above : Option α} (hgrow : GrowOn P) (hv : P v) (hw : P w)
    (hvw : atMost v w = true) (hbelow : ∀ b ∈ below, P b ∧ atMost b v = true)
    (habove : ∀ b ∈ above, P b ∧ atMost w b = true) :
    InOrder (nearer? v below above) (nearer? w below above) := by
  match below, above with
  | none, above => exact inOrder_refl above
  | some low, none => exact inOrder_refl (some low)
  | some low, some high =>
    obtain ⟨hlow, hlv⟩ := hbelow low rfl
    obtain ⟨hhigh, hwh⟩ := habove high rfl
    rw [nearer?, nearer?]
    by_cases h : shorter (since high v) (since v low) = true
    · rw [if_pos h, if_pos (shorter_of_shorter hgrow hlow hv hw hhigh hlv hvw hwh h)]
      exact inOrder_refl (some high)
    · rw [if_neg h]
      split
      · exact .some (atMost_trans hlv (atMost_trans hvw hwh))
      · exact inOrder_refl (some low)

end Choice

/-! ### Values with a boundary between them -/

variable [Std.TransOrd α] [Std.LawfulEqOrd α] {d : Domain α} {v w b r : α} {P : α → Prop}

private theorem Ordered.kept_or_moved (hd : d.Ordered) (h : d.nearest? v = some r) :
    r = v ∨ d.offers v = false ∧ (d.IsLastBelow v r ∨ d.IsFirstAbove v r) := by
  cases hv : d.offers v with
  | true =>
    rw [nearest?_eq_some_self hv] at h
    exact .inl (Option.some.inj h).symm
  | false =>
    rw [nearest?_eq_nearer? hv] at h
    exact .inr ⟨rfl, (eq_or_eq_of_nearer? h).imp (hd.isLastBelow_of_below? hv)
      isFirstAbove_of_above?⟩

/-- A value up to a boundary does not move past it. -/
theorem Ordered.nearest?_atMost (hd : d.Ordered) (hb : d.IsBoundary b) (hvb : atMost v b = true)
    (h : d.nearest? v = some r) : atMost r b = true := by
  rcases hd.kept_or_moved h with rfl | ⟨hv, hlast | hfirst⟩
  · exact hvb
  · exact atMost_trans (atMost_of_lt hlast.lt) hvb
  · apply hfirst.first b hb
    exact lt_of_atMost_of_ne hvb (hd.ne_of_not_offers hv hb).symm

/-- A value from a boundary on does not move before it. -/
theorem Ordered.atMost_nearest? (hd : d.Ordered) (hb : d.IsBoundary b) (hbv : atMost b v = true)
    (h : d.nearest? v = some r) : atMost b r = true := by
  rcases hd.kept_or_moved h with rfl | ⟨hv, hlast | hfirst⟩
  · exact hbv
  · apply hlast.last b hb
    exact lt_of_atMost_of_ne hbv (hd.ne_of_not_offers hv hb)
  · exact atMost_trans hbv (atMost_of_lt hfirst.lt)

/-- Where there is a boundary, every value has a nearest one. -/
theorem IsBoundary.exists_nearest? (hb : d.IsBoundary b) (v : α) : ∃ r, d.nearest? v = some r := by
  rw [← Option.isSome_iff_exists, Option.isSome_iff_ne_none, ne_eq, nearest?_eq_none_iff,
    Bool.not_eq_true]
  obtain ⟨e, he, -⟩ := hb
  exact isEmpty_eq_false_of_mem he

/-- Two values on the two sides of a boundary move in their order. -/
theorem Ordered.inOrder_nearest?_of_isBoundary (hd : d.Ordered) (hb : d.IsBoundary b)
    (hvb : atMost v b = true)
    (hbw : atMost b w = true) : InOrder (d.nearest? v) (d.nearest? w) := by
  obtain ⟨r, hr⟩ := hb.exists_nearest? v
  obtain ⟨r', hr'⟩ := hb.exists_nearest? w
  rw [hr, hr']
  exact .some (atMost_trans (hd.nearest?_atMost hb hvb hr) (hd.atMost_nearest? hb hbw hr'))

/-! ### Values with none between them -/

/-- No boundary lies between two values, nor at one of them. -/
def Gap (d : Domain α) (v w : α) : Prop :=
  ∀ b, d.IsBoundary b → atMost v b = true → atMost b w = false

section Gap

variable (hgap : d.Gap v w) (hvw : atMost v w = true)

include hgap hvw

omit [Std.LawfulEqOrd α] in
private theorem Gap.atMost_left (hb : d.IsBoundary b) : atMost b v = atMost b w := by
  rw [Bool.eq_iff_iff]
  constructor
  · exact fun hbv ↦ atMost_trans hbv hvw
  · intro hbw
    by_contra hbv
    have hvb : atMost v b = true :=
      atMost_of_lt (atMost_eq_false_iff.mp (Bool.eq_false_iff.mpr hbv))
    rw [hgap b hb hvb] at hbw
    contradiction

omit [Std.LawfulEqOrd α] in
private theorem Gap.atMost_right (hb : d.IsBoundary b) : atMost v b = atMost w b := by
  rw [Bool.eq_iff_iff]
  constructor
  · exact fun hvb ↦ atMost_of_lt (atMost_eq_false_iff.mp (hgap b hb hvb))
  · exact fun hwb ↦ atMost_trans hvw hwb

omit [Std.LawfulEqOrd α] in
private theorem Gap.offers_eq : d.offers v = d.offers w := by
  rw [Bool.eq_iff_iff, offers_iff, offers_iff]
  refine exists_congr fun e ↦ and_congr_right fun he ↦ ?_
  rw [e.contains_eq, e.contains_eq, hgap.atMost_left hvw ⟨e, he, e.low_mem_ends⟩,
    hgap.atMost_right hvw ⟨e, he, e.high_mem_ends⟩]

private theorem Gap.neighbours_eq : d.below? v = d.below? w ∧ d.above? v = d.above? w := by
  have hmem : ∀ b ∈ d.boundaries, atMost b v = atMost b w :=
    fun b hb ↦ hgap.atMost_left hvw (mem_boundaries.mp hb)
  constructor
  · rw [below?, below?, List.filter_congr hmem]
  · rw [above?, above?, List.filter_congr fun b hb ↦ congrArg _ (hmem b hb)]

/-- The two sides of a gap move in their order, where distances grow. -/
theorem Gap.inOrder_nearest? (hd : d.Ordered) (hgrow : GrowOn P) (hP : ∀ b, d.IsBoundary b → P b)
    (hv : P v) (hw : P w) :
    InOrder (d.nearest? v) (d.nearest? w) := by
  have hboth := hgap.offers_eq hvw
  by_cases hoff : d.offers v = true
  · rw [nearest?_eq_some_self hoff, nearest?_eq_some_self (hboth ▸ hoff)]
    exact .some hvw
  · have hv' : d.offers v = false := Bool.eq_false_iff.mpr hoff
    have hw' : d.offers w = false := hboth ▸ hv'
    obtain ⟨hbelow, habove⟩ := hgap.neighbours_eq hvw
    rw [nearest?_eq_nearer? hv', nearest?_eq_nearer? hw', ← hbelow, ← habove]
    apply inOrder_nearer? hgrow hv hw hvw
    · intro b hb
      have hlast := hd.isLastBelow_of_below? hv' hb
      exact ⟨hP b hlast.isBoundary, atMost_of_lt hlast.lt⟩
    · intro b hb
      have hfirst := isFirstAbove_of_above? (habove ▸ hb)
      exact ⟨hP b hfirst.isBoundary, atMost_of_lt hfirst.lt⟩

end Gap

/-! ### Two values in their order -/

/-- What two values snap to keeps their order: the nearest values, of which both or neither may be
missing, and the slices. -/
structure KeepsOrder (d : Domain α) (v w : α) : Prop where
  nearest : InOrder (d.nearest? v) (d.nearest? w)
  slices : atMost (d.snap v).high (d.snap w).low = true

/-- Where distances grow, an ordered domain keeps the order of values. -/
theorem Ordered.keepsOrder (hd : d.Ordered) (hgrow : GrowOn P) (hP : ∀ b, d.IsBoundary b → P b)
    (hv : P v) (hw : P w) (hvw : atMost v w = true) : d.KeepsOrder v w := by
  have hnearest : InOrder (d.nearest? v) (d.nearest? w) := by
    by_cases hgap : d.Gap v w
    · exact hgap.inOrder_nearest? hvw hd hgrow hP hv hw
    · simp only [Gap, not_forall, Bool.not_eq_false] at hgap
      obtain ⟨b, hb, hvb, hbw⟩ := hgap
      exact hd.inOrder_nearest?_of_isBoundary hb hvb hbw
  exact ⟨hnearest, hnearest.atMost_getD hvw⟩

/-- A time domain outside leap seconds snaps instants outside leap seconds in their order, and so
does a domain of any kind of value, the values among which distances grow. -/
theorem snap_keepsOrder :
    (∀ (d : TimeDomain) (t u : Instant), d.Ordered →
      (∀ b, d.IsBoundary b → b.inLeapSecond = false) →
      t.inLeapSecond = false → u.inLeapSecond = false → atMost t u = true → d.KeepsOrder t u) ∧
    (∀ (α : Type) [AxisValue α] [Std.TransOrd α] [Std.LawfulEqOrd α] (P : α → Prop), GrowOn P →
      ∀ (d : Domain α) (v w : α), d.Ordered → (∀ b, d.IsBoundary b → P b) → P v → P w →
        atMost v w = true →
        d.KeepsOrder v w) := by
  constructor
  · intro d t u hd hP ht hu htu
    exact hd.keepsOrder Instant.growOn_not_inLeapSecond hP ht hu htu
  · intro α _ _ _ P hgrow d v w hd hP hv hw hvw
    exact hd.keepsOrder hgrow hP hv hw hvw

/-- Of two instants between a span and a point, the one halfway moves down to the span and the one a
second later up to the point; one before both moves up to the span. -/
theorem snap_keepsOrder_halfway :
    let low : Instant := { day := 10, second := 0, nano := 0 }
    let high : Instant := { day := 20, second := 0, nano := 0 }
    let d : TimeDomain := .ofList [.span { day := 0, second := 0, nano := 0 } low, .point high]
    let before : Instant := { day := -5, second := 0, nano := 0 }
    let halfway : Instant := { day := 15, second := 0, nano := 0 }
    let later : Instant := { day := 15, second := 1, nano := 0 }
    (d.Ordered ∧ ∀ b, d.IsBoundary b → b.inLeapSecond = false) ∧
      (halfway.inLeapSecond = false ∧ later.inLeapSecond = false ∧ atMost halfway later = true ∧
        d.nearest? halfway = some low ∧ d.nearest? later = some high ∧ d.KeepsOrder halfway later) ∧
      (GrowOn fun t : Instant ↦ t.inLeapSecond = false) ∧ before.inLeapSecond = false ∧
        atMost before halfway = true ∧ d.KeepsOrder before halfway := by
  intro low high d before halfway later
  have hd : d.Ordered := ordered_ofList (by decide)
  have hP : ∀ b, d.IsBoundary b → b.inLeapSecond = false := by
    intro b hb
    exact (by decide : ∀ b ∈ _, b.inLeapSecond = false) b (isBoundary_ofList.mp hb)
  have hdown : d.nearest? halfway = some low := by decide +kernel
  have hup : d.nearest? later = some high := by decide +kernel
  have hlater : atMost halfway later = true := by decide
  have hbefore : atMost before halfway = true := by decide
  have hgrow := Instant.growOn_not_inLeapSecond
  refine ⟨⟨hd, hP⟩, ⟨rfl, rfl, hlater, hdown, hup, ?_⟩, hgrow, rfl, hbefore, ?_⟩
  · exact snap_keepsOrder.1 d halfway later hd hP rfl rfl hlater
  · exact snap_keepsOrder.2 Instant _ hgrow d before halfway hd hP rfl rfl hbefore

end Domain

end CoverageSubset

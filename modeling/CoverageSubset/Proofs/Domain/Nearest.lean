import CoverageSubset.Proofs.AxisDistance
import CoverageSubset.Proofs.Domain.Boundaries

/-!
# The nearest offered value is nearest

Only the two neighbours of a value are compared when it moves. They stand for all boundaries as far
as distances grow along the axis: then no boundary below the value is nearer than the last of them,
and none above it is nearer than the first.
-/

namespace CoverageSubset.Domain

open AxisValue

variable {α : Type} [AxisValue α] [Std.TransOrd α]

/-- A boundary that a value may move to: no boundary is nearer, none lies between, and of two
neighbours that are equally near it is the lower one. -/
structure IsNearest (d : Domain α) (v b : α) : Prop where
  mem : b ∈ d.boundaries
  minimal : ∀ c, d.IsBoundary c → shorter (apart c v) (apart b v) = false
  neighbour : d.IsLastBelow v b ∨ d.IsFirstAbove v b
  tie : ∀ low high, d.IsLastBelow v low → d.IsFirstAbove v high →
    shorter (apart low v) (apart high v) = false → shorter (apart high v) (apart low v) = false →
      b = low

/-- The domain keeps a value that it offers and moves any other to a nearest boundary. -/
structure Snaps (d : Domain α) (v : α) : Prop where
  kept : (∃ e ∈ d.entries, e.contains v = true) → d.nearest? v = some v
  moved : (∀ e ∈ d.entries, e.contains v = false) → d.isEmpty = false →
    ∃ b, d.nearest? v = some b ∧ d.IsNearest v b

variable {d : Domain α} {v low high c : α} {P : α → Prop}

/-- No boundary below a value is nearer than the last of them. -/
theorem IsLastBelow.minimal (h : d.IsLastBelow v low) (hgrow : GrowOn P)
    (hP : ∀ b, d.IsBoundary b → P b) (hv : P v) (hc : d.IsBoundary c) (hlt : compare c v = .lt) :
    shorter (apart c v) (apart low v) = false := by
  rw [apart_of_lt hlt, apart_of_lt h.lt]
  exact hgrow.earlier (hP c hc) (hP low h.isBoundary) hv (h.last c hc hlt) (atMost_of_lt h.lt)

/-- No boundary above a value is nearer than the first of them. -/
theorem IsFirstAbove.minimal (h : d.IsFirstAbove v high) (hgrow : GrowOn P)
    (hP : ∀ b, d.IsBoundary b → P b) (hv : P v) (hc : d.IsBoundary c) (hlt : compare v c = .lt) :
    shorter (apart c v) (apart high v) = false := by
  rw [apart_of_gt hlt, apart_of_gt h.lt]
  exact hgrow.later hv (hP high h.isBoundary) (hP c hc) (atMost_of_lt h.lt) (h.first c hc hlt)

variable [Std.LawfulEqOrd α]

private theorem Ordered.lt_or_lt (hd : d.Ordered) (hv : d.offers v = false) (hc : d.IsBoundary c) :
    compare c v = .lt ∨ compare v c = .lt := by
  cases h : atMost c v with
  | true => exact .inl ((hd.atMost_iff_lt hv hc).mp h)
  | false => exact .inr (atMost_eq_false_iff.mp h)

section Moves

variable (hd : d.Ordered) (hgrow : GrowOn P) (hP : ∀ b, d.IsBoundary b → P b) (hv : P v)
  (hoff : d.offers v = false)

include hgrow hP hv

/-- Before all boundaries the first one is nearest. -/
theorem IsFirstAbove.isNearest (h : d.IsFirstAbove v high)
    (hnone : ∀ c, d.IsBoundary c → compare v c = .lt) :
    d.IsNearest v high where
  mem := mem_boundaries.mpr h.isBoundary
  minimal c hc := h.minimal hgrow hP hv hc (hnone c hc)
  neighbour := .inr h
  tie low _ hlow _ _ _ :=
    False.elim (Std.OrientedCmp.not_lt_of_lt hlow.lt (hnone low hlow.isBoundary))

/-- After all boundaries the last one is nearest. -/
theorem IsLastBelow.isNearest (h : d.IsLastBelow v low)
    (hnone : ∀ c, d.IsBoundary c → compare c v = .lt) :
    d.IsNearest v low where
  mem := mem_boundaries.mpr h.isBoundary
  minimal c hc := h.minimal hgrow hP hv hc (hnone c hc)
  neighbour := .inl h
  tie _ high _ hhigh _ _ :=
    False.elim (Std.OrientedCmp.not_lt_of_lt hhigh.lt (hnone high hhigh.isBoundary))

include hd hoff

private theorem IsFirstAbove.isNearest_of_shorter (hlow : d.IsLastBelow v low)
    (hhigh : d.IsFirstAbove v high)
    (h : shorter (since high v) (since v low) = true) : d.IsNearest v high where
  mem := mem_boundaries.mpr hhigh.isBoundary
  minimal c hc := by
    rcases hd.lt_or_lt hoff hc with hlt | hlt
    · apply hgrow.trans _ (apart low v)
      · exact hlow.minimal hgrow hP hv hc hlt
      · rw [apart_of_lt hlow.lt, apart_of_gt hhigh.lt]
        exact hgrow.asymm _ _ h
    · exact hhigh.minimal hgrow hP hv hc hlt
  neighbour := .inr hhigh
  tie low' high' hlow' hhigh' _ hnot := by
    rw [hlow'.unique hlow, hhigh'.unique hhigh, apart_of_lt hlow.lt, apart_of_gt hhigh.lt,
      h] at hnot
    contradiction

private theorem IsLastBelow.isNearest_of_not_shorter (hlow : d.IsLastBelow v low)
    (hhigh : d.IsFirstAbove v high)
    (h : shorter (since high v) (since v low) = false) : d.IsNearest v low where
  mem := mem_boundaries.mpr hlow.isBoundary
  minimal c hc := by
    rcases hd.lt_or_lt hoff hc with hlt | hlt
    · exact hlow.minimal hgrow hP hv hc hlt
    · apply hgrow.trans _ (apart high v)
      · exact hhigh.minimal hgrow hP hv hc hlt
      · rwa [apart_of_lt hlow.lt, apart_of_gt hhigh.lt]
  neighbour := .inl hlow
  tie low' _ hlow' _ _ _ := hlow.unique hlow'

/-- A value that is not offered moves to a nearest boundary. -/
theorem Ordered.exists_isNearest (hne : d.isEmpty = false) :
    ∃ b, d.nearest? v = some b ∧ d.IsNearest v b := by
  rw [nearest?_eq_nearer? hoff]
  cases hb : d.below? v with
  | none =>
    have habove := fun c hc ↦ lt_of_below?_eq_none (c := c) hb hc
    cases ha : d.above? v with
    | none =>
      obtain ⟨c, hc⟩ := exists_isBoundary hne
      have hbelow := hd.lt_of_above?_eq_none hoff ha hc
      exact False.elim (Std.OrientedCmp.not_lt_of_lt (habove c hc) hbelow)
    | some high => exact ⟨high, rfl, (isFirstAbove_of_above? ha).isNearest hgrow hP hv habove⟩
  | some low =>
    have hlow := hd.isLastBelow_of_below? hoff hb
    cases ha : d.above? v with
    | none =>
      exact ⟨low, rfl, hlow.isNearest hgrow hP hv fun c hc ↦ hd.lt_of_above?_eq_none hoff ha hc⟩
    | some high =>
      have hhigh := isFirstAbove_of_above? ha
      rw [nearer?]
      split
      · next h => exact ⟨high, rfl, hhigh.isNearest_of_shorter hd hgrow hP hv hoff hlow h⟩
      · next h =>
        exact ⟨low, rfl, hlow.isNearest_of_not_shorter hd hgrow hP hv hoff hhigh
          (Bool.eq_false_iff.mpr h)⟩

end Moves

/-- Where distances grow, an ordered domain snaps every value. -/
theorem Ordered.snaps (hd : d.Ordered) (hgrow : GrowOn P) (hP : ∀ b, d.IsBoundary b → P b)
    (hv : P v) :
    d.Snaps v where
  kept h := nearest?_eq_some_self (offers_iff.mpr h)
  moved h hne := by
    have hoff : d.offers v = false := by
      rw [Domain.offers, List.any_eq_false]
      intro e he
      rw [h e he]
      decide
    exact hd.exists_isNearest hgrow hP hv hoff hne

/-- A time domain outside leap seconds snaps every instant outside leap seconds, and so does a
domain of any kind of value, on the values among which distances grow. -/
theorem snaps_nearest :
    (∀ (d : TimeDomain) (t : Instant), d.Ordered → (∀ b, d.IsBoundary b → b.inLeapSecond = false) →
      t.inLeapSecond = false → d.Snaps t) ∧
    (∀ (α : Type) [AxisValue α] [Std.TransOrd α] [Std.LawfulEqOrd α] (P : α → Prop), GrowOn P →
      ∀ (d : Domain α) (v : α), d.Ordered → (∀ b, d.IsBoundary b → P b) → P v → d.Snaps v) := by
  constructor
  · intro d t hd hP ht
    exact hd.snaps Instant.growOn_not_inLeapSecond hP ht
  · intro α _ _ _ P hgrow d v hd hP hv
    exact hd.snaps hgrow hP hv

/-- An instant halfway between a span and a point snaps, and so does one before both. -/
theorem snaps_nearest_halfway :
    let d : TimeDomain :=
      .ofList [.span { day := 0, second := 0, nano := 0 } { day := 10, second := 0, nano := 0 },
        .point { day := 20, second := 0, nano := 0 }]
    let halfway : Instant := { day := 15, second := 0, nano := 0 }
    let before : Instant := { day := -5, second := 0, nano := 0 }
    (d.Ordered ∧ ∀ b, d.IsBoundary b → b.inLeapSecond = false) ∧
      (halfway.inLeapSecond = false ∧ d.Snaps halfway) ∧
      (GrowOn fun t : Instant ↦ t.inLeapSecond = false) ∧ before.inLeapSecond = false ∧
        d.Snaps before := by
  intro d halfway before
  have hd : d.Ordered := ordered_ofList (by decide)
  have hP : ∀ b, d.IsBoundary b → b.inLeapSecond = false := by
    intro b hb
    exact (by decide : ∀ b ∈ _, b.inLeapSecond = false) b (isBoundary_ofList.mp hb)
  have hgrow := Instant.growOn_not_inLeapSecond
  exact ⟨⟨hd, hP⟩, ⟨rfl, snaps_nearest.1 d halfway hd hP rfl⟩, hgrow, rfl,
    snaps_nearest.2 Instant _ hgrow d before hd hP rfl⟩

end CoverageSubset.Domain

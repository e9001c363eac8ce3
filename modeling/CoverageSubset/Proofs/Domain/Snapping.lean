import CoverageSubset.Proofs.Domain.Boundaries

/-!
# Snapping stays on offered values

Whatever the distances are, even where they are not numbers, a value that moves can only move to one
of its neighbours, and these are boundaries. An ordered domain offers all its boundaries, so a value
moves at most once.
-/

namespace CoverageSubset.Domain

variable {α : Type} [AxisValue α] {v b : α} {below above : Option α}

private theorem nearer?_eq_none_iff :
    nearer? v below above = none ↔ below = none ∧ above = none := by
  cases below with
  | none => simp [nearer?]
  | some low =>
    cases above with
    | none => simp [nearer?]
    | some high =>
      rw [nearer?]
      split <;> simp

/-- A value moves to one of its neighbours. -/
theorem eq_or_eq_of_nearer? (h : nearer? v below above = some b) :
    below = some b ∨ above = some b := by
  cases below with
  | none => exact .inr h
  | some low =>
    cases above with
    | none => exact .inl h
    | some high =>
      rw [nearer?] at h
      split at h
      · exact .inr h
      · exact .inl h

variable [Std.TransOrd α] [Std.LawfulEqOrd α] {d : Domain α}

private theorem isBoundary_of_nearest? (hv : d.offers v = false) (h : d.nearest? v = some b) :
    d.IsBoundary b := by
  rw [nearest?_eq_nearer? hv] at h
  rcases eq_or_eq_of_nearer? h with hb | hb
  · exact mem_boundaries.mp (List.mem_filter.mp (List.mem_of_getLast? hb)).1
  · exact (isFirstAbove_of_above? hb).isBoundary

/-- A value has nowhere to go exactly in a domain that offers nothing. -/
theorem nearest?_eq_none_iff : d.nearest? v = none ↔ d.isEmpty = true := by
  cases hv : d.offers v with
  | true =>
    obtain ⟨e, he, -⟩ := offers_iff.mp hv
    simp [nearest?_eq_some_self hv, isEmpty_eq_false_of_mem he]
  | false =>
    constructor
    · intro hnone
      obtain ⟨hbelow, habove⟩ := nearer?_eq_none_iff.mp ((nearest?_eq_nearer? hv).symm.trans hnone)
      cases hempty : d.isEmpty with
      | true => rfl
      | false =>
        -- A boundary would have to be both beyond the value and not beyond it.
        obtain ⟨b, hb⟩ := exists_isBoundary hempty
        have hbeyond := AxisValue.not_atMost_of_lt (lt_of_below?_eq_none hbelow hb)
        rw [atMost_of_above?_eq_none habove hb] at hbeyond
        contradiction
    · intro hempty
      cases hnearest : d.nearest? v with
      | none => rfl
      | some b =>
        obtain ⟨e, he, -⟩ := isBoundary_of_nearest? hv hnearest
        rw [isEmpty_eq_false_of_mem he] at hempty
        contradiction

/-- A value stays where it is or moves to a boundary. -/
theorem eq_or_isBoundary_of_nearest? (h : d.nearest? v = some b) : b = v ∨ d.IsBoundary b := by
  cases hv : d.offers v with
  | true => exact .inl (Option.some.inj ((nearest?_eq_some_self hv).symm.trans h)).symm
  | false => exact .inr (isBoundary_of_nearest? hv h)

private theorem Ordered.offers_of_nearest? (hd : d.Ordered) (h : d.nearest? v = some b) :
    d.offers b = true := by
  cases hv : d.offers v with
  | true => rwa [← Option.some.inj ((nearest?_eq_some_self hv).symm.trans h)]
  | false => exact hd.offers (isBoundary_of_nearest? hv h)

/-- In an ordered domain a value is kept exactly if it is offered. -/
theorem Ordered.nearest?_eq_some_self_iff (hd : d.Ordered) :
    d.nearest? v = some v ↔ d.offers v = true :=
  ⟨hd.offers_of_nearest?, nearest?_eq_some_self⟩

/-- A value that is offered is its own slice, and so is every value where nothing is. -/
theorem snap_eq_slice (h : d.offers v = true ∨ d.isEmpty = true) : d.snap v = .slice v := by
  rw [snap]
  rcases h with hv | hempty
  · rw [nearest?_eq_some_self hv, Option.getD_some]
  · rw [nearest?_eq_none_iff.mpr hempty, Option.getD_none]

/-- An ordered domain offers every value that it snaps to, unless it offers nothing. -/
theorem Ordered.offers_snap (hd : d.Ordered) (hne : d.isEmpty = false) (v : α) :
    d.offers (d.snap v).low = true := by
  cases h : d.nearest? v with
  | none =>
    rw [nearest?_eq_none_iff.mp h] at hne
    contradiction
  | some b =>
    rw [snap, h]
    exact hd.offers_of_nearest? h

/-- A value that an ordered domain has snapped to stays there. -/
theorem Ordered.snap_snap (hd : d.Ordered) (v : α) : d.snap (d.snap v).low = d.snap v := by
  have hkept : d.snap (d.snap v).low = .slice (d.snap v).low := by
    apply snap_eq_slice
    cases hempty : d.isEmpty with
    | true => exact .inr rfl
    | false => exact .inl (hd.offers_snap hempty v)
  rw [hkept]
  rfl

/-- The nearest value is missing only where nothing is offered, is offered, and is the value itself
or a boundary; it is the value itself exactly if that is offered, and snapping twice is snapping
once. -/
theorem Ordered.snapping_laws (hd : d.Ordered) (v : α) :
    (d.nearest? v = none ↔ d.isEmpty = true) ∧
      (∀ b, d.nearest? v = some b → d.offers b = true ∧ (b = v ∨ b ∈ d.boundaries)) ∧
      d.snap (d.snap v).low = d.snap v ∧
      (d.isEmpty = false → (d.offers v = true ↔ d.nearest? v = some v)) := by
  refine ⟨nearest?_eq_none_iff, ?_, hd.snap_snap v, fun _ ↦ hd.nearest?_eq_some_self_iff.symm⟩
  intro b hb
  exact ⟨hd.offers_of_nearest? hb, (eq_or_isBoundary_of_nearest? hb).imp_right mem_boundaries.mpr⟩

/-- Between minus infinity and a pattern that is no number, at distances that are infinite and no
number, a value moves down and stays there; between two leap seconds an instant moves and stays. -/
theorem Ordered.snapping_laws_beyond_numbers :
    let elevations : ElevationDomain := .ofPoints [.notANumber false, .infinity true]
    let ground : Double := .zero false
    let times : TimeDomain :=
      .ofList
        [.span { day := 0, second := 0, nano := 0 }
            { day := 0, second := 86399, nano := 1100000000 },
          .point { day := 1, second := 86399, nano := 1900000000 }]
    let inLeap : Instant := { day := 0, second := 86399, nano := 1200000000 }
    (elevations.Ordered ∧ elevations.nearest? ground = some (.infinity true) ∧
        elevations.offers (.infinity true) = true ∧
        elevations.snap (elevations.snap ground).low = elevations.snap ground) ∧
      times.Ordered ∧ times.isEmpty = false ∧ times.nearest? inLeap ≠ none ∧
        times.nearest? inLeap ≠ some inLeap ∧
        times.snap (times.snap inLeap).low = times.snap inLeap := by
  intro elevations ground times inLeap
  have hground : elevations.nearest? ground = some (.infinity true) := by decide +kernel
  have hempty : times.isEmpty = false := by decide +kernel
  have hmoves : times.offers inLeap ≠ true := by decide +kernel
  have helevations : elevations.Ordered := ordered_ofList (by decide)
  have htimes : times.Ordered := ordered_ofList (by decide)
  obtain ⟨-, hoffered, hstays, -⟩ := helevations.snapping_laws ground
  obtain ⟨hnone, -, hstays', hkept⟩ := htimes.snapping_laws inLeap
  refine ⟨⟨helevations, hground, (hoffered _ hground).1, hstays⟩, htimes, hempty, ?_, ?_, hstays'⟩
  · rw [ne_eq, hnone, hempty]
    decide
  · rwa [ne_eq, ← hkept hempty]

end CoverageSubset.Domain

import CoverageSubset.Granule
import CoverageSubset.Proofs.Domain.Boundaries

/-!
# What records offer along a dimension

The domain of some records has the entries of those with a usable start, and nothing else. It
depends on which records there are, not on their order or on how often each is stored, and its spans
have their ends in order whatever the records hold.
-/

namespace CoverageSubset

open AxisValue

variable {α : Type} [AxisValue α]

/-- A record offers something exactly if it has a usable start. -/
theorem DimensionSource.entry?_eq_none_iff [AttributeKind α] {s : DimensionSource} {g : Granule} :
    s.entry? g = (none : Option (DomainEntry α)) ↔ g.value? s.start = (none : Option α) := by
  unfold entry?
  exact Option.map_eq_none_iff

variable [Std.TransOrd α]

private theorem DomainEntry.atMost_between (a b : α) :
    atMost (between a b).low (between a b).high = true := by
  rw [between, isGT_compare]
  cases h : atMost a b with
  | true => exact h
  | false => exact atMost_of_lt (atMost_eq_false_iff.mp h)

namespace DimensionSource

variable [AttributeKind α] {s : DimensionSource} {g : Granule} {gs gs' : List Granule}
  {e : DomainEntry α}

private theorem atMost_of_entry? (h : s.entry? g = some e) : atMost e.low e.high = true := by
  obtain ⟨low, -, rfl⟩ := Option.map_eq_some_iff.mp h
  cases s.stop.bind fun stop ↦ (g.value? stop : Option α) with
  | none => exact atMost_refl low
  | some high => exact DomainEntry.atMost_between low high

variable [Std.LawfulEqOrd α] [DecidableEq α]

/-- The entries of the domain are what the records offer. -/
theorem mem_entries_domain : e ∈ (s.domain gs).entries ↔ ∃ g ∈ gs, s.entry? g = some e := by
  rw [domain, Domain.mem_entries_ofList, List.mem_filterMap]

/-- The domain of records is ordered. -/
theorem ordered_domain (s : DimensionSource) (gs : List Granule) :
    (s.domain gs : Domain α).Ordered := by
  intro e he
  obtain ⟨g, -, hg⟩ := mem_entries_domain.mp he
  exact atMost_of_entry? hg

/-- The domain of records offers nothing exactly if no record has a usable start. -/
theorem isEmpty_domain_iff :
    (s.domain gs : Domain α).isEmpty = true ↔ ∀ g ∈ gs, g.value? s.start = (none : Option α) := by
  rw [Domain.isEmpty, List.isEmpty_iff, List.eq_nil_iff_forall_not_mem]
  constructor
  · intro h g hg
    rw [← entry?_eq_none_iff, Option.eq_none_iff_forall_ne_some]
    intro e he
    exact h e (mem_entries_domain.mpr ⟨g, hg, he⟩)
  · intro h e he
    obtain ⟨g, hg, hentry⟩ := mem_entries_domain.mp he
    rw [entry?_eq_none_iff.mpr (h g hg)] at hentry
    cases hentry

/-- The domain of records without a usable end has a point for each value of their start. -/
theorem domain_eq_ofPoints {vs : List α}
    (hstart : ∀ v, (∃ g ∈ gs, g.value? s.start = some v) ↔ v ∈ vs)
    (hstop : ∀ stop, s.stop = some stop → ∀ g ∈ gs, g.value? stop = (none : Option α)) :
    s.domain gs = Domain.ofPoints vs := by
  have hentry {g : Granule} (hg : g ∈ gs) : s.entry? g =
      (g.value? s.start : Option α).map .point := by
    cases h : s.stop with
    | none => simp only [DimensionSource.entry?, h, Option.bind_none]
    | some stop => simp only [DimensionSource.entry?, h, Option.bind_some, hstop stop h g hg]
  apply Domain.ext
  intro e
  rw [mem_entries_domain, Domain.ofPoints, Domain.mem_entries_ofList, List.mem_map]
  simp only [← hstart]
  constructor
  · rintro ⟨g, hg, he⟩
    rw [hentry hg, Option.map_eq_some_iff] at he
    obtain ⟨v, hv, rfl⟩ := he
    exact ⟨v, ⟨g, hg, hv⟩, rfl⟩
  · rintro ⟨v, ⟨g, hg, hv⟩, rfl⟩
    exact ⟨g, hg, by rw [hentry hg, hv, Option.map_some]⟩

/-- The same records, in another order or repeated, have the same domain. -/
theorem domain_congr (h : ∀ g, g ∈ gs ↔ g ∈ gs') : (s.domain gs : Domain α) = s.domain gs' := by
  apply Domain.ext
  intro e
  simp only [mem_entries_domain, h]

end DimensionSource

end CoverageSubset

import CoverageSubset.Proofs.Granule.Slices

/-!
# A slice selects no span

Where records hold spans, the domain and the filter part ways. A value inside a span is offered, so
a slice stays there; but the filter asks for records whose span lies in the slice, and a slice holds
one value only. So a slice always meets the span of a record, and selects exactly the records whose
span is its value alone, if there are any.
-/

namespace CoverageSubset

open AxisValue

variable {α : Type} [AxisValue α] [AttributeKind α] {s : DimensionSource} {stop : String}
  {g : Granule} {gs : List Granule} {v w : α}

private theorem GranuleFilter.matchesGranule_atLeast_iff [LawfulAttributeKind α] {name : String} :
    (atLeast name (AttributeKind.toAttribute v)).matchesGranule g = true ↔
      ∃ w : α, g.value? name = some w ∧ AxisValue.atMost v w = true := by
  rw [matchesGranule]
  exact Granule.any_attribute?_iff (LawfulAttributeKind.value_atMost v)

private theorem GranuleFilter.matchesGranule_atMost_iff [LawfulAttributeKind α] {name : String} :
    (GranuleFilter.atMost name (AttributeKind.toAttribute v)).matchesGranule g = true ↔
      ∃ w : α, g.value? name = some w ∧ AxisValue.atMost w v = true := by
  rw [matchesGranule]
  exact Granule.any_attribute?_iff (LawfulAttributeKind.atMost_value v)

/-- A record of spans lies in an interval exactly if its start is not below the low end and its stop
not above the high end. -/
theorem GranuleFilter.matchesGranule_inInterval_stop_iff [LawfulAttributeKind α]
    (hs : s.stop = some stop) {i : Interval α} :
    (inInterval s i).matchesGranule g = true ↔
      (∃ low, g.value? s.start = some low ∧ AxisValue.atMost i.low low = true) ∧
        ∃ high, g.value? stop = some high ∧ AxisValue.atMost high i.high = true := by
  rw [inInterval, dimension, hs, matchesGranule, matchesEach_eq_all, List.all_cons, List.all_cons,
    List.all_nil, Bool.and_true, Bool.and_eq_true, matchesGranule_atLeast_iff,
    matchesGranule_atMost_iff]

namespace DimensionSource

/-- A record holds both ends of a span, in order. -/
structure HoldsSpan (s : DimensionSource) (g : Granule) (low high : α) : Prop where
  start : g.value? s.start = some low
  stop : ∃ name, s.stop = some name ∧ g.value? name = some high
  ordered : AxisValue.atMost low high = true

/-- The end of a span is in the attribute for it. -/
theorem HoldsSpan.value?_stop {low high : α} (h : s.HoldsSpan g low high)
    (hs : s.stop = some stop) :
    g.value? stop = some high := by
  obtain ⟨name, hname, hhigh⟩ := h.stop
  rwa [Option.some.inj (hs.symm.trans hname)]

/-- A record that holds a span offers it. -/
theorem HoldsSpan.entry? {low high : α} (h : s.HoldsSpan g low high) :
    s.entry? g = some (.span low high) := by
  obtain ⟨name, hname, hhigh⟩ := h.stop
  have hbetween : DomainEntry.between low high = .span low high := by
    rw [DomainEntry.between, isGT_compare, h.ordered]
    rfl
  rw [DimensionSource.entry?, h.start, Option.map_some, hname, Option.bind_some, hhigh, ← hbetween]

/-- A record holds the span whose ends were set. -/
theorem holdsSpan_withAttribute {name start : String} {a b : Attribute} {low high : α}
    (hne : stop ≠ start) (ha : AttributeKind.ofAttribute? a = some low)
    (hb : AttributeKind.ofAttribute? b = some high) (h : AxisValue.atMost low high = true) :
    HoldsSpan ⟨name, start, some stop⟩ ((g.withAttribute start a).withAttribute stop b) low high
      where
  start := by
    rw [Granule.value?_withAttribute, if_neg hne, Granule.value?_withAttribute, if_pos rfl]
    exact ha
  stop := by
    refine ⟨stop, rfl, ?_⟩
    rw [Granule.value?_withAttribute, if_pos rfl]
    exact hb
  ordered := h

/-- What a slice selects from records of spans, once its value has snapped to their domain. -/
structure SliceMeets [Std.TransOrd α] (s : DimensionSource) (gs : List Granule) (v : α) : Prop where
  /-- The value that is snapped to lies in the span of some record. -/
  meets : ∃ g ∈ gs, ∃ low high, s.HoldsSpan g low high ∧
    AxisValue.atMost low ((s.domain gs).snap v).low = true ∧
    AxisValue.atMost ((s.domain gs).snap v).low high = true
  /-- A record is selected exactly if its span is that value alone. -/
  exactly : ∀ g ∈ gs, (GranuleFilter.inInterval s ((s.domain gs).snap v)).matchesGranule g = true ↔
    s.HoldsSpan g ((s.domain gs).snap v).low ((s.domain gs).snap v).low
  /-- Some record is selected exactly if some span is that value alone. -/
  selected :
    (∃ g ∈ gs, (GranuleFilter.inInterval s ((s.domain gs).snap v)).matchesGranule g = true) ↔
      ∃ g ∈ gs, s.HoldsSpan g ((s.domain gs).snap v).low ((s.domain gs).snap v).low

variable [Std.TransOrd α] [Std.LawfulEqOrd α]

/-- A span lies in a slice exactly if both its ends are the value. -/
theorem HoldsSpan.matchesGranule_slice_iff [LawfulAttributeKind α] {low high : α}
    (h : s.HoldsSpan g low high) :
    (GranuleFilter.inInterval s (.slice v)).matchesGranule g = true ↔ s.HoldsSpan g v v := by
  obtain ⟨stop, hs, hhigh⟩ := h.stop
  rw [GranuleFilter.matchesGranule_inInterval_stop_iff hs]
  constructor
  · rintro ⟨⟨a, ha, hva⟩, b, hb, hbv⟩
    obtain rfl := Option.some.inj (h.start.symm.trans ha)
    obtain rfl := Option.some.inj (hhigh.symm.trans hb)
    -- The ends are in order, so both are squeezed onto the value.
    have hlow : low = v := atMost_antisymm (atMost_trans h.ordered hbv) hva
    have hhigh : high = v := atMost_antisymm hbv (atMost_trans hva h.ordered)
    rwa [hlow, hhigh] at h
  · intro hv
    exact ⟨⟨v, hv.start, atMost_refl v⟩, v, hv.value?_stop hs, atMost_refl v⟩

private theorem exists_holdsSpan_of_offers [DecidableEq α]
    (hgs : ∀ g ∈ gs, ∃ low high : α, s.HoldsSpan g low high) (hv : (s.domain gs).offers v = true) :
    ∃ g ∈ gs, ∃ low high, s.HoldsSpan g low high ∧ AxisValue.atMost low v = true ∧
      AxisValue.atMost v high = true := by
  obtain ⟨e, he, hcontains⟩ := Domain.offers_iff.mp hv
  obtain ⟨g, hg, hentry⟩ := mem_entries_domain.mp he
  obtain ⟨low, high, hspan⟩ := hgs g hg
  obtain rfl := Option.some.inj (hspan.entry?.symm.trans hentry)
  exact ⟨g, hg, low, high, hspan, Bool.and_eq_true_iff.mp hcontains⟩

/-- Slices meet the spans of records, for each kind of value that attributes compare as its axis
does. -/
theorem sliceMeets_of_lawful [LawfulAttributeKind α] [DecidableEq α]
    (hne : (s.domain gs : Domain α).isEmpty = false)
    (hgs : ∀ g ∈ gs, ∃ low high : α, s.HoldsSpan g low high) (v : α) : s.SliceMeets gs v := by
  have hexactly : ∀ g ∈ gs, (GranuleFilter.inInterval s ((s.domain gs).snap v)).matchesGranule g =
    true ↔
      s.HoldsSpan g ((s.domain gs).snap v).low ((s.domain gs).snap v).low := by
    intro g hg
    obtain ⟨low, high, hspan⟩ := hgs g hg
    exact hspan.matchesGranule_slice_iff
  constructor
  · exact exists_holdsSpan_of_offers hgs ((ordered_domain s gs).offers_snap hne v)
  · exact hexactly
  · exact exists_congr fun g ↦ and_congr_right (hexactly g)

/-- Among records that hold spans, a slice in time or in elevation meets a span, and selects exactly
the records whose span is the value that it snaps to. -/
theorem sliceMeets_spans (s : DimensionSource) (gs : List Granule) :
    ((s.domain gs : TimeDomain).isEmpty = false →
      (∀ g ∈ gs, ∃ low high : Instant, s.HoldsSpan g low high) →
        ∀ t : Instant, s.SliceMeets gs t) ∧
      ((s.domain gs : ElevationDomain).isEmpty = false →
        (∀ g ∈ gs, ∃ low high : Double, s.HoldsSpan g low high) →
        ∀ x : Double, s.SliceMeets gs x) :=
  ⟨sliceMeets_of_lawful, sliceMeets_of_lawful⟩

/-- A slice that snaps to an instant where one span is a point and another begins selects the point
alone, and an elevation above all others the point that is the highest. -/
theorem sliceMeets_spans_at_points :
    let s : DimensionSource := ⟨"time", "begin", some "end"⟩
    let noon : Instant := { day := 20, second := 43200, nano := 0 }
    let night : Instant := { day := 21, second := 0, nano := 0 }
    let span (id : String) (low high : Attribute) : Granule :=
      ((Granule.ofId id).withAttribute "begin" low).withAttribute "end" high
    let early := span "early" (.time .epoch) (.time .epoch)
    let point := span "point" (.time noon) (.time noon)
    let late := span "late" (.time noon) (.time night)
    let gs := [early, point, late]
    let filter := GranuleFilter.inInterval s
      ((s.domain gs).snap ({ day := 15, second := 0, nano := 0 } : Instant))
    let peak := span "peak" (.number (.zero true)) (.number (.zero true))
    let above := GranuleFilter.inInterval s ((s.domain [peak]).snap (.infinity false : Double))
    ((s.domain gs : TimeDomain).isEmpty = false ∧
      (∀ g ∈ gs, ∃ low high : Instant, s.HoldsSpan g low high) ∧
        filter.matchesGranule point = true ∧ filter.matchesGranule late = false) ∧
      (s.domain [peak] : ElevationDomain).isEmpty = false ∧
        (∀ g ∈ [peak], ∃ low high : Double, s.HoldsSpan g low high) ∧
          above.matchesGranule peak = true := by
  intro s noon night span early point late gs filter peak above
  have htimes : (s.domain gs : TimeDomain).isEmpty = false := by decide +kernel
  have helevations : (s.domain [peak] : ElevationDomain).isEmpty = false := by decide +kernel
  have hsnap :
      ((s.domain gs).snap ({ day := 15, second := 0, nano := 0 } : Instant)).low = noon := by
    decide +kernel
  have habove : ((s.domain [peak]).snap (.infinity false : Double)).low = .zero true := by
    decide +kernel
  have hne : "end" ≠ "begin" := by decide
  have hspan (id : String) (low high : Instant) (h : atMost low high = true) :
      ∃ low' high' : Instant, s.HoldsSpan (span id (.time low) (.time high)) low' high' :=
    ⟨low, high, holdsSpan_withAttribute hne rfl rfl h⟩
  have hspans : ∀ g ∈ gs, ∃ low high : Instant, s.HoldsSpan g low high := by
    simp only [gs, List.forall_mem_cons]
    exact ⟨hspan _ _ _ (by decide), hspan _ _ _ (by decide), hspan _ _ _ (by decide), by simp⟩
  have hpeak : s.HoldsSpan peak (.zero true) (.zero true : Double) :=
    holdsSpan_withAttribute hne rfl rfl (by decide)
  have hpeaks : ∀ g ∈ [peak], ∃ low high : Double, s.HoldsSpan g low high := by
    intro g hg
    obtain rfl := List.mem_singleton.mp hg
    exact ⟨_, _, hpeak⟩
  have hmeets := (sliceMeets_spans s gs).1 htimes hspans { day := 15, second := 0, nano := 0 }
  have hmeetsAbove := (sliceMeets_spans s [peak]).2 helevations hpeaks (.infinity false)
  have hpoint : filter.matchesGranule point = true := by
    rw [hmeets.exactly point (by simp [gs]), hsnap]
    exact holdsSpan_withAttribute hne rfl rfl (by decide)
  have hlate : filter.matchesGranule late = false := by
    rw [← Bool.not_eq_true, hmeets.exactly late (by simp [gs]), hsnap]
    intro h
    have hstop := h.value?_stop rfl
    revert hstop
    decide +kernel
  refine ⟨⟨htimes, hspans, hpoint, hlate⟩, helevations, hpeaks, ?_⟩
  rw [hmeetsAbove.exactly peak (by simp), habove]
  exact hpeak

/-- A value inside the only span is offered, so a slice stays there and selects nothing. -/
theorem slice_selects_no_span :
    let s : DimensionSource := ⟨"time", "begin", some "end"⟩
    let low : Instant := { day := 18262, second := 0, nano := 0 }
    let inside : Instant := { day := 18263, second := 0, nano := 0 }
    let high : Instant := { day := 18264, second := 0, nano := 0 }
    let g :=
      ((Granule.ofId "g1").withAttribute "begin" (.time low)).withAttribute "end" (.time high)
    (s.domain [g] : TimeDomain).isEmpty = false ∧ s.HoldsSpan g low high ∧
      (s.domain [g]).snap inside = .slice inside ∧
      ¬ ∃ g' ∈ [g],
        (GranuleFilter.inInterval s ((s.domain [g]).snap inside)).matchesGranule g' = true := by
  intro s low inside high g
  have hempty : (s.domain [g] : TimeDomain).isEmpty = false := by decide +kernel
  have hsnap : (s.domain [g]).snap inside = .slice inside := by decide +kernel
  have hunmatched :
      (GranuleFilter.inInterval s ((s.domain [g]).snap inside)).matchesGranule g = false := by
    decide +kernel
  refine ⟨hempty, holdsSpan_withAttribute (by decide) rfl rfl (by decide), hsnap, ?_⟩
  rintro ⟨g', hg', hmatches⟩
  obtain rfl := List.mem_singleton.mp hg'
  rw [hunmatched] at hmatches
  cases hmatches

end DimensionSource

end CoverageSubset

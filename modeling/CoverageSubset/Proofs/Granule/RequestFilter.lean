import CoverageSubset.Proofs.Domain.Canonical
import CoverageSubset.Proofs.Granule.Spans

/-!
# The filter of a request and what a record offers

A request selects records by a filter on their attributes, and a domain is made of the same
attributes. For one record the two readings agree: the filter lets it through exactly if the domain
that it makes alone lies in the interval of each dimension, and its footprint in the envelope. A
record whose span has no usable end, or ends before it starts, may be read in two ways.
-/

namespace CoverageSubset

open AxisValue

/-! ### Conjunctions -/

namespace GranuleFilter

variable {g : Granule} {fs : List GranuleFilter}

private theorem matchesGranule_of_isAll {f : GranuleFilter} (h : f.isAll = true) :
    f.matchesGranule g = true := by
  cases f with
  | all => rw [matchesGranule]
  | _ => cases h

/-- A conjunction in its simplest form still holds exactly if all of its conditions do. -/
theorem matchesGranule_conjunction_iff :
    (conjunction fs).matchesGranule g = true ↔ ∀ f ∈ fs, f.matchesGranule g = true := by
  have hkept : (∀ f ∈ fs, f.matchesGranule g = true) ↔
      ∀ f ∈ fs.filter (fun f ↦ !f.isAll), f.matchesGranule g = true := by
    constructor
    · exact fun h f hf ↦ h f (List.mem_of_mem_filter hf)
    · intro h f hf
      by_cases hall : f.isAll = true
      · exact matchesGranule_of_isAll hall
      · exact h f (List.mem_filter.mpr ⟨hf, by simp [hall]⟩)
  rw [hkept, conjunction]
  split
  · next hnil => simp [hnil, matchesGranule]
  · next f hone => simp [hone]
  · rw [matchesGranule, matchesEach_eq_all, List.all_eq_true]

end GranuleFilter

/-! ### The domain of one record -/

section Record

variable {α : Type} [AxisValue α]

/-- The domain offers something, and nothing outside the interval. -/
structure Domain.LiesIn [Std.TransOrd α] (d : Domain α) (i : Interval α) : Prop where
  offering : d.isEmpty = false
  low : ∃ v, d.lowest? = some v ∧ atMost i.low v = true
  high : ∃ v, d.highest? = some v ∧ atMost v i.high = true

variable [AttributeKind α] {s : DimensionSource} {g : Granule} {i : Interval α}

namespace DimensionSource

/-- A record with a usable start also has a usable end that is not below it, if the dimension has
ends. -/
def EndsInOrder (α : Type) [AxisValue α] [AttributeKind α] (s : DimensionSource) (g : Granule) :
    Prop :=
  ∀ (low : α) (stop : String), g.value? s.start = some low → s.stop = some stop →
    ∃ high : α, g.value? stop = some high ∧ atMost low high = true

private theorem EndsInOrder.exists_holdsSpan {stop : String} {low : α} (h : s.EndsInOrder α g)
    (hs : s.stop = some stop)
    (hlow : g.value? s.start = some low) : ∃ high, s.HoldsSpan g low high := by
  obtain ⟨high, hhigh, hle⟩ := h low stop hlow hs
  exact ⟨high, hlow, ⟨stop, hs, hhigh⟩, hle⟩

private theorem HoldsSpan.endsInOrder {low high : α} (h : s.HoldsSpan g low high) :
    s.EndsInOrder α g := by
  intro low' stop hlow' hs
  obtain rfl := Option.some.inj (h.start.symm.trans hlow')
  exact ⟨high, h.value?_stop hs, h.ordered⟩

/-- Where a dimension has no ends, none is missing. -/
theorem endsInOrder_of_stop_eq_none (hs : s.stop = none) : s.EndsInOrder α g := by
  intro low stop _ hstop
  rw [hs] at hstop
  cases hstop

/-- A record lies in an interval exactly if what it offers does. -/
theorem EndsInOrder.matchesGranule_inInterval_iff [LawfulAttributeKind α] (h : s.EndsInOrder α g) :
    (GranuleFilter.inInterval s i).matchesGranule g = true ↔
      ∃ e, s.entry? g = some e ∧ atMost i.low e.low = true ∧ atMost e.high i.high = true := by
  cases hs : s.stop with
  | none =>
    rw [GranuleFilter.matchesGranule_inInterval_iff hs]
    constructor
    · rintro ⟨v, hv, hlow, hhigh⟩
      exact ⟨.point v, (entry?_eq_some_iff hs).mpr ⟨v, hv, rfl⟩, hlow, hhigh⟩
    · rintro ⟨e, he, hlow, hhigh⟩
      obtain ⟨v, hv, rfl⟩ := (entry?_eq_some_iff hs).mp he
      exact ⟨v, hv, hlow, hhigh⟩
  | some stop =>
    rw [GranuleFilter.matchesGranule_inInterval_stop_iff hs]
    constructor
    · rintro ⟨⟨low, hlow, hilow⟩, high, hhigh, hihigh⟩
      obtain ⟨high', hspan⟩ := h.exists_holdsSpan hs hlow
      obtain rfl := Option.some.inj (hhigh.symm.trans (hspan.value?_stop hs))
      exact ⟨_, hspan.entry?, hilow, hihigh⟩
    · rintro ⟨e, he, hlow, hhigh⟩
      obtain ⟨low, hstart, -⟩ := Option.map_eq_some_iff.mp he
      obtain ⟨high, hspan⟩ := h.exists_holdsSpan hs hstart
      obtain rfl := Option.some.inj (hspan.entry?.symm.trans he)
      exact ⟨⟨low, hstart, hlow⟩, high, hspan.value?_stop hs, hhigh⟩

variable [Std.TransOrd α] [Std.LawfulEqOrd α] [DecidableEq α]

private theorem entries_domain_singleton {o : Option (DomainEntry α)} (h : s.entry? g = o) :
    (s.domain [g] : Domain α).entries = o.toList := by
  rw [domain, Domain.entries_ofList]
  cases o with
  | none => simp [h, sortedOnce, List.eraseRepsBy]
  | some e => simp [h, sortedOnce, List.eraseRepsBy, List.eraseRepsBy.loop]

/-- The domain of one record lies in an interval exactly if what the record offers does. -/
theorem liesIn_domain_singleton_iff :
    (s.domain [g] : Domain α).LiesIn i ↔
      ∃ e, s.entry? g = some e ∧ atMost i.low e.low = true ∧ atMost e.high i.high = true := by
  constructor
  · rintro ⟨hoffering, ⟨low, hlow, hilow⟩, high, hhigh, hihigh⟩
    obtain ⟨o, ho⟩ : ∃ o : Option (DomainEntry α), s.entry? g = o := ⟨_, rfl⟩
    have hentries := entries_domain_singleton ho
    cases o with
    | none =>
      rw [Domain.isEmpty, hentries] at hoffering
      cases hoffering
    | some e =>
      rw [Domain.lowest?, hentries] at hlow
      rw [Domain.highest?, hentries] at hhigh
      obtain rfl := Option.some.inj hlow
      obtain rfl := Option.some.inj hhigh
      exact ⟨e, ho, hilow, hihigh⟩
  · rintro ⟨e, he, hlow, hhigh⟩
    have hentries := entries_domain_singleton he
    refine ⟨?_, ⟨e.low, ?_, hlow⟩, e.high, ?_, hhigh⟩
    · rw [Domain.isEmpty, hentries]
      rfl
    · rw [Domain.lowest?, hentries]
      rfl
    · rw [Domain.highest?, hentries]
      rfl

end DimensionSource

/-! ### All conditions of a request -/

namespace GridRequest

private theorem forall_mem_dimensionFilter_iff [Std.TransOrd α] [Std.LawfulEqOrd α] [DecidableEq α]
    [LawfulAttributeKind α] {subset : Option (Interval α)} {source : Option DimensionSource}
    (h : ∀ s ∈ source, s.EndsInOrder α g) :
    (∀ f ∈ dimensionFilter subset source, f.matchesGranule g = true) ↔
      ∀ i ∈ subset, ∀ s ∈ source, (s.domain [g] : Domain α).LiesIn i := by
  cases subset with
  | none => simp [dimensionFilter]
  | some i =>
    cases source with
    | none => simp [dimensionFilter]
    | some s =>
      have hiff := (h s rfl).matchesGranule_inInterval_iff.trans
        (DimensionSource.liesIn_domain_singleton_iff (i := i)).symm
      simpa [dimensionFilter] using hiff

end GridRequest

end Record

namespace GridRequest

/-- The filter of a request lets a record through exactly if the domain that the record alone makes
lies in the interval of each dimension that has one, and its footprint in the envelope. -/
theorem matchesGranule_granuleFilter_iff (r : GridRequest) {g : Granule}
    {time elevation : Option DimensionSource} (htime : ∀ s ∈ time, s.EndsInOrder Instant g)
    (helevation : ∀ s ∈ elevation, s.EndsInOrder Double g) :
    (r.granuleFilter time elevation).matchesGranule g = true ↔
      (∀ i ∈ r.elevation, ∀ s ∈ elevation, (s.domain [g] : ElevationDomain).LiesIn i) ∧
        (∀ i ∈ r.temporal, ∀ s ∈ time, (s.domain [g] : TimeDomain).LiesIn i) ∧
        ∀ e ∈ r.spatial, ∃ footprint, g.footprint = some footprint ∧
          e.contains footprint = true := by
  have hspatial : (∀ f ∈ (r.spatial.map GranuleFilter.within).toList, f.matchesGranule g = true) ↔
      ∀ e ∈ r.spatial, ∃ footprint, g.footprint = some footprint ∧ e.contains footprint = true := by
    cases r.spatial with
    | none => simp
    | some e => simp [GranuleFilter.matchesGranule, Option.any_eq_true]
  rw [granuleFilter, GranuleFilter.matchesGranule_conjunction_iff, List.forall_mem_append,
    List.forall_mem_append,
    forall_mem_dimensionFilter_iff helevation, forall_mem_dimensionFilter_iff htime, hspatial,
      and_assoc]

/-- A record with a span of days, a depth and a footprint is let through by a request for a span and
a footprint that it touches, and by none whose envelope leaves the footprint out; a record with a
text for its depth is not let through. -/
theorem matchesGranule_granuleFilter_touching :
    let time : DimensionSource := ⟨"time", "begin", some "end"⟩
    let depth : DimensionSource := .single "elevation" "depth"
    let first : Instant := .epoch
    let last : Instant := { day := 2, second := 0, nano := 0 }
    let ground : Double := .zero false
    let square : Envelope := ⟨ground, ground, ground, ground⟩
    let outside : Envelope := ⟨.infinity false, ground, .infinity false, ground⟩
    let dated (g : Granule) : Granule :=
      (g.withAttribute "begin" (.time first)).withAttribute "end" (.time last)
    let flat : Granule :=
      dated (((Granule.ofId "flat").withFootprint square).withAttribute "depth" (.number ground))
    let vague : Granule :=
      dated (((Granule.ofId "vague").withFootprint square).withAttribute "depth" (.text "0"))
    let r : GridRequest := ⟨some ⟨first, last⟩, some (.slice ground), ∅, some square⟩
    ((∀ s ∈ some time, s.EndsInOrder Instant flat) ∧ (∀ s ∈ some depth, s.EndsInOrder Double flat) ∧
        (r.granuleFilter (some time) (some depth)).matchesGranule flat = true ∧
        ((r.withSpatial outside).granuleFilter (some time) (some depth)).matchesGranule flat =
          false) ∧
      (∀ s ∈ some time, s.EndsInOrder Instant vague) ∧
        (∀ s ∈ some depth, s.EndsInOrder Double vague) ∧
        (r.granuleFilter (some time) (some depth)).matchesGranule vague = false := by
  intro time depth first last ground square outside dated flat vague r
  have hspan (g : Granule) : time.HoldsSpan (dated g) first last :=
    DimensionSource.holdsSpan_withAttribute (by decide) rfl rfl (by decide)
  have htime (g : Granule) : ∀ s ∈ some time, s.EndsInOrder Instant (dated g) := by
    rintro s ⟨⟩
    exact (hspan g).endsInOrder
  have hdepth (g : Granule) : ∀ s ∈ some depth, s.EndsInOrder Double (dated g) := by
    rintro s ⟨⟩
    exact DimensionSource.endsInOrder_of_stop_eq_none rfl
  refine ⟨⟨htime _, hdepth _, ?_, ?_⟩, htime _, hdepth _, ?_⟩
  · rw [matchesGranule_granuleFilter_iff r (htime _) (hdepth _)]
    refine ⟨?_, ?_, ?_⟩
    · rintro i ⟨⟩ s ⟨⟩
      exact DimensionSource.liesIn_domain_singleton_iff.mpr
        ⟨.point ground, by decide +kernel, by decide, by decide⟩
    · rintro i ⟨⟩ s ⟨⟩
      exact DimensionSource.liesIn_domain_singleton_iff.mpr
        ⟨_, DimensionSource.HoldsSpan.entry? (hspan _), by decide, by decide⟩
    · rintro e ⟨⟩
      exact ⟨square, rfl, by decide⟩
  · rw [← Bool.not_eq_true, matchesGranule_granuleFilter_iff _ (htime _) (hdepth _)]
    rintro ⟨-, -, hspatial⟩
    obtain ⟨footprint, hfootprint, hcontains⟩ := hspatial outside rfl
    obtain rfl : square = footprint := Option.some.inj hfootprint
    revert hcontains
    decide
  · rw [← Bool.not_eq_true, matchesGranule_granuleFilter_iff r (htime _) (hdepth _)]
    rintro ⟨helevation, -⟩
    have hoffering := (helevation (.slice ground) rfl depth rfl).offering
    revert hoffering
    decide +kernel

end GridRequest

end CoverageSubset

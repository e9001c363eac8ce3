import CoverageSubset.Proofs.CoverageSet.Answering
import CoverageSubset.Proofs.Domain.Extremes
import CoverageSubset.Proofs.Granule.Offers

/-!
# The period of a series

The period of a series is read off the domain of its times: the low end of the first entry and the
greatest high end. It is the least span that no record exceeds, whatever the records hold: a record
that ends before it starts counts with both of its times, one without a usable end with its start
alone, and one without a usable start not at all. All records of the series count, so the period
does not depend on what a request asks for.
-/

namespace CoverageSubset

open AxisValue

namespace Domain

variable {α : Type} [AxisValue α] [Std.TransOrd α] {d : Domain α} {i : Interval α}

/-- The interval from the least to the greatest offered value. -/
def extent? (d : Domain α) : Option (Interval α) := do
  let low ← d.lowest?
  let high ← d.highest?
  some ⟨low, high⟩

private theorem extent?_eq_none_iff : d.extent? = none ↔ d.isEmpty = true := by
  cases hlow : d.lowest? with
  | none => simp [extent?, hlow, ← lowest?_eq_none_iff]
  | some low =>
    cases hhigh : d.highest? with
    | none => simp [extent?, hlow, hhigh, ← highest?_eq_none_iff]
    | some high => simp [extent?, hlow, hhigh, ← lowest?_eq_none_iff]

private theorem extent?_eq_some_iff :
    d.extent? = some i ↔ d.lowest? = some i.low ∧ d.highest? = some i.high := by
  simp only [extent?, Option.bind_eq_bind, Option.bind_eq_some_iff, Option.some.injEq]
  constructor
  · rintro ⟨low, hlow, high, hhigh, rfl⟩
    exact ⟨hlow, hhigh⟩
  · rintro ⟨hlow, hhigh⟩
    exact ⟨i.low, hlow, i.high, hhigh, rfl⟩

end Domain

/-! ### The values of a record -/

private theorem DomainEntry.mem_ends_between {α : Type} [AxisValue α] {a b v : α} :
    v ∈ (between a b).ends ↔ v = a ∨ v = b := by
  rw [between]
  split
  · simp [ends, or_comm]
  · simp [ends]

namespace DimensionSource

variable {α : Type} [AxisValue α] [AttributeKind α] {s : DimensionSource} {g : Granule}
  {gs : List Granule} {v : α}

/-- The value is what a record starts with, or what it stops with if it has a usable start as
well. -/
def Marks (s : DimensionSource) (g : Granule) (v : α) : Prop :=
  ∃ start : α, g.value? s.start = some start ∧
    (v = start ∨ ∃ stop, s.stop = some stop ∧ g.value? stop = some v)

private theorem mem_ends_entry?_iff :
    (∃ e : DomainEntry α, s.entry? g = some e ∧ v ∈ e.ends) ↔ s.Marks g v := by
  unfold entry? Marks
  simp only [Option.map_eq_some_iff, exists_exists_and_eq_and]
  refine exists_congr fun start ↦ and_congr_right fun _ ↦ ?_
  rw [← Option.bind_eq_some_iff (x := s.stop)]
  cases s.stop.bind fun stop ↦ (g.value? stop : Option α) with
  | none => simp [DomainEntry.ends]
  | some last => simp [DomainEntry.mem_ends_between, eq_comm]

variable [Std.TransOrd α] [Std.LawfulEqOrd α] [DecidableEq α]

/-- The boundaries of the domain of records are the values of these. -/
theorem isBoundary_domain_iff : (s.domain gs : Domain α).IsBoundary v ↔ ∃ g ∈ gs, s.Marks g v := by
  simp only [Domain.IsBoundary, mem_entries_domain, ← mem_ends_entry?_iff]
  constructor
  · rintro ⟨e, ⟨g, hg, he⟩, hv⟩
    exact ⟨g, hg, e, he, hv⟩
  · rintro ⟨g, hg, e, he, hv⟩
    exact ⟨e, ⟨g, hg, he⟩, hv⟩

/-- The interval has the values of some records, and begins and ends with one of them. -/
structure Spans (s : DimensionSource) (gs : List Granule) (i : Interval α) : Prop where
  covers : ∀ g ∈ gs, ∀ v, s.Marks g v → atMost i.low v = true ∧ atMost v i.high = true
  low : ∃ g ∈ gs, s.Marks g i.low
  high : ∃ g ∈ gs, s.Marks g i.high
  ordered : atMost i.low i.high = true

/-- There is an interval exactly if some record has a usable start, and then it spans the
records. -/
structure IsPeriod (s : DimensionSource) (gs : List Granule) (period : Option (Interval α)) :
    Prop where
  none_iff : period = none ↔ ∀ g ∈ gs, g.value? s.start = (none : Option α)
  spans : ∀ i, period = some i → s.Spans gs i

/-- The extent of the domain of records is their period. -/
theorem isPeriod_extent? (s : DimensionSource) (gs : List Granule) :
    s.IsPeriod gs (s.domain gs : Domain α).extent? where
  none_iff := by rw [Domain.extent?_eq_none_iff, isEmpty_domain_iff]
  spans i hi := by
    obtain ⟨hlow, hhigh⟩ := Domain.extent?_eq_some_iff.mp hi
    have hleast := (s.ordered_domain gs).isLeast_of_lowest? hlow
    have hgreatest := (s.ordered_domain gs).isGreatest_of_highest? hhigh
    constructor
    · intro g hg v hv
      have hboundary := isBoundary_domain_iff.mpr ⟨g, hg, hv⟩
      exact ⟨hleast.least v hboundary, hgreatest.greatest v hboundary⟩
    · exact isBoundary_domain_iff.mp hleast.isBoundary
    · exact isBoundary_domain_iff.mp hgreatest.isBoundary
    · exact hleast.least i.high hgreatest.isBoundary

end DimensionSource

/-! ### Descriptions -/

/-- The period of a coverage is the extent of the times of all its records. -/
theorem Coverage.period_eq (c : Coverage) (store : GranuleStore) :
    c.period store =
      c.time?.bind fun source ↦ (source.domain store.granules : TimeDomain).extent? := by
  have hall : store.found .all = store.granules := List.filter_eq_self.mpr fun _ _ ↦ rfl
  rw [period, GranuleQuery.all, ← GranuleQuery.ofFilter, GranuleStore.select_ofFilter, hall]
  rfl

namespace DescriptionRequest

variable {r : DescriptionRequest} {catalogue : Catalogue} {archive : GranuleArchive} {id : String}
  {d : Description} {s : SeriesDescription}

/-- The description goes by an identifier and has the period of all records of the series that this
finds. -/
structure HasPeriod (catalogue : Catalogue) (archive : GranuleArchive) (id : String)
    (s : SeriesDescription) : Prop where
  seriesId : s.seriesId = id
  period : ∃ v store source, catalogue.series? id = some v ∧ archive[v.fullName]? = some store ∧
    v.time? = some source ∧ source.IsPeriod store.granules s.period

/-- What goes by an identifier as its description has the period of the series. -/
theorem IsSeriesDescription.hasPeriod (h : IsSeriesDescription catalogue archive id s) :
    HasPeriod catalogue archive id s where
  seriesId := h.seriesId
  period := by
    obtain ⟨v, store, hv, hstore, hperiod⟩ := h.period
    have hseries := Catalogue.isSeries_of_series?_eq_some hv
    simp only [Coverage.isSeries, Bool.and_eq_true] at hseries
    obtain ⟨source, hsource⟩ := Option.isSome_iff_exists.mp hseries.1.2
    refine ⟨v, store, source, hv, hstore, hsource, ?_⟩
    rw [hperiod, Coverage.period_eq, hsource]
    exact source.isPeriod_extent? store.granules

private theorem rightUnique_isSeriesDescription :
    Relator.RightUnique (IsSeriesDescription catalogue archive) := by
  intro id s s' h h'
  obtain ⟨hid, v, store, hv, hstore, hperiod⟩ := h
  obtain ⟨hid', v', store', hv', hstore', hperiod'⟩ := h'
  obtain rfl := Option.some.inj (hv.symm.trans hv')
  obtain rfl := Option.some.inj (hstore.symm.trans hstore')
  cases s
  cases s'
  rw [SeriesDescription.mk.injEq]
  exact ⟨hid.trans hid'.symm, hperiod.trans hperiod'.symm⟩

/-- An answer with descriptions of series gives the period of each of them, and this does not depend
on the directives of the request or on its limit. -/
theorem hasPeriod_of_describe (h : r.describe catalogue archive = .ok d)
    (hseries : Section.series.isIncluded r.sections = true) :
    List.Forall₂ (HasPeriod catalogue archive) r.seriesIds d.series ∧
      ∀ directives count d', describe { r with directives, count } catalogue archive = .ok d' →
        d'.series = d.series := by
  have hdescribed := isSeriesDescription_of_mem_series h
  rw [if_pos hseries] at hdescribed
  refine ⟨hdescribed.imp fun _ _ ↦ IsSeriesDescription.hasPeriod, fun directives count d' h' ↦ ?_⟩
  have hdescribed' := isSeriesDescription_of_mem_series h'
  rw [if_pos hseries] at hdescribed'
  exact List.right_unique_forall₂' rightUnique_isSeriesDescription hdescribed' hdescribed

/-- A series is described by a request for none of its days: its records are one that ends before it
starts, one whose end is no time and one that has an end alone. -/
theorem hasPeriod_of_describe_reversed :
    let catalogue : Catalogue :=
      ⟨none, [], [⟨"sst", none, true, true, ⟨some ⟨true, "from", some "to"⟩, none, []⟩⟩]⟩
    let first : Instant := { day := 4, second := 0, nano := 0 }
    let middle : Instant := { day := 6, second := 0, nano := 0 }
    let last : Instant := { day := 9, second := 0, nano := 0 }
    let beyond : Instant := { day := 30, second := 0, nano := 0 }
    let store : GranuleStore := .ofList [
      ((Granule.ofId "reversed").withAttribute "from" (.time last)).withAttribute "to"
        (.time first),
      ((Granule.ofId "mistyped").withAttribute "from" (.time middle)).withAttribute "to"
        (.text "1970-02-01"),
      (Granule.ofId "unstarted").withAttribute "to" (.time beyond)]
    let archive : GranuleArchive := (∅ : GranuleArchive).insert "sst" store
    let r : DescriptionRequest := ⟨["sst_dss"], 0, some [.series], [.slice "time" "2020"]⟩
    ∃ d, r.describe catalogue archive = .ok d ∧ d.series.map SeriesDescription.period =
      [some ⟨first, last⟩] ∧
      List.Forall₂ (HasPeriod catalogue archive) r.seriesIds d.series ∧
      ∀ directives count d', describe { r with directives, count } catalogue archive = .ok d' →
        d'.series = d.series := by
  intro catalogue first middle last beyond store archive r
  have hperiods : (r.describe catalogue archive).toOption.map (fun d ↦
    d.series.map SeriesDescription.period) =
      some [some ⟨first, last⟩] := by decide +kernel
  obtain ⟨d, hd, hperiod⟩ := Option.map_eq_some_iff.mp hperiods
  have h := toOption_eq_some_iff.mp hd
  exact ⟨d, h, hperiod, hasPeriod_of_describe h (by decide)⟩

end DescriptionRequest

end CoverageSubset

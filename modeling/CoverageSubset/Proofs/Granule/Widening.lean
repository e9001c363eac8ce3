import CoverageSubset.Proofs.Envelope
import CoverageSubset.Proofs.Granule.RequestFilter

/-!
# Wider requests

A request is wider than another if it leaves out conditions of the other or loosens them: an
interval may begin earlier and end later, and an envelope may grow. The filters of the two can
differ in shape, as a conjunction that loses conditions may become a single one or none; but it
follows from another as soon as each of its conditions follows from one of the other's. So no record
is lost by asking for more, whatever the records hold.
-/

namespace CoverageSubset

open AxisValue

/-! ### Wider intervals -/

namespace Interval

variable {α : Type} [AxisValue α] {i i' : Interval α}

/-- An interval begins no later than another and ends no earlier. -/
structure ReachesOver (i' i : Interval α) : Prop where
  low : atMost i'.low i.low = true
  high : atMost i.high i'.high = true

end Interval

/-! ### Conditions that follow from others -/

namespace GranuleFilter

variable {fs fs' gs gs' : List GranuleFilter} {s : DimensionSource}

/-- Every record that meets another condition meets this one. -/
def FollowsFrom (f' f : GranuleFilter) : Prop :=
  ∀ g, f.matchesGranule g = true → f'.matchesGranule g = true

/-- Each of some conditions follows from one of others. -/
def EachFollowsFrom (fs' fs : List GranuleFilter) : Prop := ∀ f' ∈ fs', ∃ f ∈ fs, f'.FollowsFrom f

private theorem EachFollowsFrom.append (hf : EachFollowsFrom fs' fs) (hg : EachFollowsFrom gs' gs) :
    EachFollowsFrom (fs' ++ gs') (fs ++ gs) := by
  refine List.forall_mem_append.mpr ⟨fun f' hf' ↦ ?_, fun g' hg' ↦ ?_⟩
  · obtain ⟨f, hmem, hfollows⟩ := hf f' hf'
    exact ⟨f, List.mem_append_left gs hmem, hfollows⟩
  · obtain ⟨g, hmem, hfollows⟩ := hg g' hg'
    exact ⟨g, List.mem_append_right fs hmem, hfollows⟩

/-- A conjunction follows from another if each of its conditions follows from one of the other's. -/
theorem EachFollowsFrom.conjunction (h : EachFollowsFrom fs' fs) :
    (conjunction fs').FollowsFrom (conjunction fs) := by
  intro g hg
  rw [matchesGranule_conjunction_iff] at hg ⊢
  intro f' hf'
  obtain ⟨f, hf, hfollows⟩ := h f' hf'
  exact hfollows g (hg f hf)

private theorem inInterval_followsFrom {α : Type} [AxisValue α] [Std.TransOrd α] [AttributeKind α]
    [LawfulAttributeKind α] {i i' : Interval α} (h : i'.ReachesOver i) :
    (inInterval s i').FollowsFrom (inInterval s i) := by
  intro g hg
  cases hs : s.stop with
  | none =>
    rw [matchesGranule_inInterval_iff hs] at hg ⊢
    obtain ⟨v, hv, hlow, hhigh⟩ := hg
    exact ⟨v, hv, atMost_trans h.low hlow, atMost_trans hhigh h.high⟩
  | some stop =>
    rw [matchesGranule_inInterval_stop_iff hs] at hg ⊢
    obtain ⟨⟨low, hstart, hlow⟩, high, hstop, hhigh⟩ := hg
    exact ⟨⟨low, hstart, atMost_trans h.low hlow⟩, high, hstop, atMost_trans hhigh h.high⟩

private theorem within_followsFrom {e e' : Envelope} (h : e'.contains e = true) :
    (within e').FollowsFrom (within e) := by
  intro g hg
  rw [matchesGranule, Option.any_eq_true] at hg ⊢
  obtain ⟨footprint, hfootprint, hcontains⟩ := hg
  exact ⟨footprint, hfootprint, Envelope.contains_trans h hcontains⟩

end GranuleFilter

/-! ### Requests -/

/-- An optional condition is absent, or is a looser one than another that is there. -/
def Loosens {β : Type} (looser : β → β → Prop) (given' given : Option β) : Prop :=
  ∀ b', given' = some b' → ∃ b, given = some b ∧ looser b' b

namespace GridRequest

/-- The request leaves out conditions of another or loosens them, and adds none. -/
structure WiderThan (r' r : GridRequest) : Prop where
  temporal : Loosens Interval.ReachesOver r'.temporal r.temporal
  elevation : Loosens Interval.ReachesOver r'.elevation r.elevation
  spatial : Loosens (fun e' e ↦ e'.contains e = true) r'.spatial r.spatial

private theorem eachFollowsFrom_dimensionFilter {α : Type} [AxisValue α] [Std.TransOrd α]
    [AttributeKind α] [LawfulAttributeKind α] {subset subset' : Option (Interval α)}
    (h : Loosens Interval.ReachesOver subset' subset) (source : Option DimensionSource) :
    GranuleFilter.EachFollowsFrom (dimensionFilter subset' source)
      (dimensionFilter subset source) := by
  intro f' hf'
  cases source with
  | none => cases subset' <;> cases hf'
  | some s =>
    cases subset' with
    | none => cases hf'
    | some i' =>
      obtain ⟨i, rfl, hreaches⟩ := h i' rfl
      obtain rfl := List.mem_singleton.mp hf'
      exact ⟨_, List.mem_singleton_self _, GranuleFilter.inInterval_followsFrom hreaches⟩

private theorem eachFollowsFrom_within {envelope envelope' : Option Envelope}
    (h : Loosens (fun e' e ↦ e'.contains e = true) envelope' envelope) :
    GranuleFilter.EachFollowsFrom (envelope'.map GranuleFilter.within).toList
      (envelope.map GranuleFilter.within).toList := by
  intro f' hf'
  cases envelope' with
  | none => cases hf'
  | some e' =>
    obtain ⟨e, rfl, hcontains⟩ := h e' rfl
    obtain rfl := List.mem_singleton.mp hf'
    exact ⟨_, List.mem_singleton_self _, GranuleFilter.within_followsFrom hcontains⟩

/-- A wider request is met by every record that meets the other one, whatever the sources of its
dimensions are. -/
theorem matchesGranule_of_widerThan {r r' : GridRequest} (h : r'.WiderThan r)
    (time elevation : Option DimensionSource)
    (g : Granule) (hg : (r.granuleFilter time elevation).matchesGranule g = true) :
    (r'.granuleFilter time elevation).matchesGranule g = true := by
  have helevation := eachFollowsFrom_dimensionFilter h.elevation elevation
  have htemporal := eachFollowsFrom_dimensionFilter h.temporal time
  have hspatial := eachFollowsFrom_within h.spatial
  exact ((helevation.append htemporal).append hspatial).conjunction g hg

/-- A record that ends before it starts meets a request for the time between, and so a wider one
that leaves out the depth; a record without a depth meets the wider one alone. -/
theorem matchesGranule_of_widerThan_reversed :
    let time : DimensionSource := ⟨"time", "begin", some "end"⟩
    let depth : DimensionSource := .single "elevation" "depth"
    let first : Instant := .epoch
    let middle : Instant := { day := 1, second := 0, nano := 0 }
    let last : Instant := { day := 2, second := 0, nano := 0 }
    let ground : Double := .zero false
    let square : Envelope := ⟨ground, ground, ground, ground⟩
    let plane : Envelope := ⟨.infinity true, .infinity true, .infinity false, .infinity false⟩
    let shallow : Granule :=
      (((Granule.ofId "shallow").withFootprint square).withAttribute "begin" (.time last))
        |>.withAttribute "end" (.time first)
    let deep : Granule := shallow.withAttribute "depth" (.number ground)
    let r : GridRequest := ⟨some (.slice middle), some (.slice ground), ∅, some square⟩
    let wider : GridRequest := ⟨some ⟨first, last⟩, none, ∅, some plane⟩
    wider.WiderThan r ∧
      (r.granuleFilter (some time) (some depth)).matchesGranule deep = true ∧
      (wider.granuleFilter (some time) (some depth)).matchesGranule deep = true ∧
      (r.granuleFilter (some time) (some depth)).matchesGranule shallow = false ∧
      (wider.granuleFilter (some time) (some depth)).matchesGranule shallow = true := by
  intro time depth first middle last ground square plane shallow deep r wider
  have hwider : wider.WiderThan r := by
    refine ⟨?_, ?_, ?_⟩
    · rintro i' ⟨⟩
      exact ⟨_, rfl, by decide, by decide⟩
    · rintro i' ⟨⟩
    · rintro e' ⟨⟩
      exact ⟨_, rfl, by decide⟩
  have hmeets : (r.granuleFilter (some time) (some depth)).matchesGranule deep = true := by
    decide +kernel
  exact ⟨hwider, hmeets, matchesGranule_of_widerThan hwider _ _ deep hmeets,
    by decide +kernel, by decide +kernel⟩

end GridRequest

end CoverageSubset

import CoverageSubset.GridRequest
import CoverageSubset.Proofs.Domain.Snapping
import CoverageSubset.Proofs.Granule.Offers

/-!
# A slice selects records

A dimension is read from the records twice: once into the domain that a slice snaps to, once by the
filter that selects what lies in the slice. Where records hold single values the two readings agree:
a slice selects the records that hold its value, and where anything is offered it selects a record.
-/

namespace CoverageSubset

open AxisValue

/-- Attributes compare the values of a kind as its axis does, and hold no bound on attributes of
other kinds. -/
class LawfulAttributeKind (α : Type) [AxisValue α] [AttributeKind α] : Prop where
  value_atMost : ∀ (v : α) (a : Attribute),
    (AttributeKind.toAttribute v).atMost a =
      (AttributeKind.ofAttribute? a).any fun w : α ↦ AxisValue.atMost v w
  atMost_value : ∀ (v : α) (a : Attribute),
    a.atMost (AttributeKind.toAttribute v) =
      (AttributeKind.ofAttribute? a).any fun w : α ↦ AxisValue.atMost w v

instance : LawfulAttributeKind Instant where
  value_atMost v a := by cases a <;> rfl
  atMost_value v a := by cases a <;> rfl

instance : LawfulAttributeKind Double where
  value_atMost v a := by cases a <;> rfl
  atMost_value v a := by cases a <;> rfl

/-- A condition that holds only of attributes of a kind is met exactly by a value of the kind. -/
theorem Granule.any_attribute?_iff {α : Type} [AttributeKind α] {g : Granule} {name : String}
    {p : Attribute → Bool} {q : α → Bool} (h : ∀ a, p a = (AttributeKind.ofAttribute? a).any q) :
    (g.attribute? name).any p = true ↔ ∃ v, g.value? name = some v ∧ q v = true := by
  rw [Granule.value?]
  cases g.attribute? name with
  | none => simp
  | some a => rw [Option.any_some, h, Option.bind_some, Option.any_eq_true]

variable {α : Type} [AxisValue α] [AttributeKind α] {s : DimensionSource} {g : Granule}
  {gs : List Granule} {v : α}

/-- A record of single values lies in an interval exactly if it holds a value between the ends. -/
theorem GranuleFilter.matchesGranule_inInterval_iff [LawfulAttributeKind α] (hs : s.stop = none)
    {i : Interval α} :
    (inInterval s i).matchesGranule g = true ↔
      ∃ v, g.value? s.start = some v ∧ AxisValue.atMost i.low v = true ∧
        AxisValue.atMost v i.high = true := by
  have hbetween (a : Attribute) :
      ((AttributeKind.toAttribute i.low).atMost a && a.atMost (AttributeKind.toAttribute i.high)) =
        (AttributeKind.ofAttribute? a).any fun v ↦
          AxisValue.atMost i.low v && AxisValue.atMost v i.high := by
    rw [LawfulAttributeKind.value_atMost, LawfulAttributeKind.atMost_value]
    cases (AttributeKind.ofAttribute? a : Option α) <;> rfl
  rw [inInterval, dimension, hs, matchesGranule, Granule.any_attribute?_iff hbetween]
  simp only [Bool.and_eq_true]

namespace DimensionSource

/-- What a slice selects from the records of a dimension, once its value has snapped to their
domain. -/
structure SliceSelects [Std.TransOrd α] (s : DimensionSource) (gs : List Granule) (v : α) :
    Prop where
  /-- A record is selected exactly if it holds the value that is snapped to. -/
  exactly : ∀ g, (GranuleFilter.inInterval s ((s.domain gs).snap v)).matchesGranule g = true ↔
    g.value? s.start = some ((s.domain gs).snap v).low
  /-- Some record is selected unless none offers a value. -/
  selected : (s.domain gs : Domain α).isEmpty = false →
    ∃ g ∈ gs, (GranuleFilter.inInterval s ((s.domain gs).snap v)).matchesGranule g = true

/-- A record of single values offers the value that it holds. -/
theorem entry?_eq_some_iff (hs : s.stop = none) {e : DomainEntry α} :
    s.entry? g = some e ↔ ∃ v, g.value? s.start = some v ∧ .point v = e := by
  unfold entry?
  rw [hs]
  exact Option.map_eq_some_iff

variable [Std.TransOrd α] [Std.LawfulEqOrd α]

/-- A record of single values lies in a slice exactly if it holds the value. -/
theorem matchesGranule_slice_iff [LawfulAttributeKind α] (hs : s.stop = none) :
    (GranuleFilter.inInterval s (.slice v)).matchesGranule g = true ↔
      g.value? s.start = some v := by
  rw [GranuleFilter.matchesGranule_inInterval_iff hs]
  constructor
  · intro ⟨w, hw, hlow, hhigh⟩
    have heq : v = w := atMost_antisymm hlow hhigh
    rw [hw, heq]
  · intro hv
    exact ⟨v, hv, atMost_refl v, atMost_refl v⟩

private theorem exists_value?_of_offers [DecidableEq α] (hs : s.stop = none)
    (hv : (s.domain gs).offers v = true) :
    ∃ g ∈ gs, g.value? s.start = some v := by
  obtain ⟨e, he, hcontains⟩ := Domain.offers_iff.mp hv
  obtain ⟨g, hg, hentry⟩ := mem_entries_domain.mp he
  obtain ⟨w, hw, rfl⟩ := (entry?_eq_some_iff hs).mp hentry
  have heq : w = v := Std.LawfulEqCmp.eq_of_compare (beq_iff_eq.mp hcontains)
  exact ⟨g, hg, heq ▸ hw⟩

/-- Slices select from records of single values, for each kind of value that attributes compare as
its axis does. -/
theorem sliceSelects_of_lawful [LawfulAttributeKind α] [DecidableEq α] (hs : s.stop = none)
    (gs : List Granule) (v : α) : s.SliceSelects gs v where
  exactly g := matchesGranule_slice_iff hs
  selected hne := by
    have hoffered := (ordered_domain s gs).offers_snap hne v
    obtain ⟨g, hg, hvalue⟩ := exists_value?_of_offers hs hoffered
    exact ⟨g, hg, (matchesGranule_slice_iff hs).mpr hvalue⟩

/-- A slice in time or in elevation selects exactly the records that hold the value it snaps to, and
some record wherever any value is offered. -/
theorem sliceSelects_single (hs : s.stop = none) (gs : List Granule) :
    (∀ t : Instant, s.SliceSelects gs t) ∧ ∀ x : Double, s.SliceSelects gs x :=
  ⟨sliceSelects_of_lawful hs gs, sliceSelects_of_lawful hs gs⟩

/-- A slice at zero selects the record at zero, not the one at negative zero, nor a text; a time
before the only one selects that. -/
theorem sliceSelects_signed_zeros :
    let s : DimensionSource := .single "elevation" "depth"
    let below : Granule := (Granule.ofId "below").withAttribute "depth" (.number (.zero true))
    let ground : Granule := (Granule.ofId "ground").withAttribute "depth" (.number (.zero false))
    let vague : Granule := (Granule.ofId "vague").withAttribute "depth" (.text "0")
    let dated : Granule := (Granule.ofId "dated").withAttribute "depth" (.time .epoch)
    let gs : List Granule := [below, ground, vague, dated, ground]
    let filter := GranuleFilter.inInterval s ((s.domain gs).snap (.zero false : Double))
    let earlier : Instant := { day := -1, second := 0, nano := 0 }
    s.stop = none ∧ ((s.domain gs : ElevationDomain).isEmpty = false ∧
      s.SliceSelects gs (.zero false : Double) ∧
      filter.matchesGranule ground = true ∧ filter.matchesGranule below = false ∧
        filter.matchesGranule vague = false) ∧
      (s.domain gs : TimeDomain).isEmpty = false ∧
        ∃ g ∈ gs, (GranuleFilter.inInterval s ((s.domain gs).snap earlier)).matchesGranule g =
          true := by
  intro s below ground vague dated gs filter earlier
  have hs : s.stop = none := rfl
  have helevations : (s.domain gs : ElevationDomain).isEmpty = false := by decide +kernel
  have htimes : (s.domain gs : TimeDomain).isEmpty = false := by decide +kernel
  obtain ⟨hinstants, hdoubles⟩ := sliceSelects_single hs gs
  have hzero := hdoubles (.zero false)
  have hsnap : ((s.domain gs).snap (.zero false : Double)).low = .zero false := by decide +kernel
  have hground : filter.matchesGranule ground = true := by
    rw [hzero.exactly, hsnap]
    decide +kernel
  have hbelow : filter.matchesGranule below = false := by
    rw [← Bool.not_eq_true, hzero.exactly, hsnap]
    decide +kernel
  have hvague : filter.matchesGranule vague = false := by
    rw [← Bool.not_eq_true, hzero.exactly, hsnap]
    decide +kernel
  exact ⟨hs, ⟨helevations, hzero, hground, hbelow, hvague⟩, htimes,
    (hinstants earlier).selected htimes⟩

end DimensionSource

end CoverageSubset

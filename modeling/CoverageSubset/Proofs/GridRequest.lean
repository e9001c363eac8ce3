import CoverageSubset.GridRequest
import CoverageSubset.Proofs.Domain.Extremes
import CoverageSubset.Proofs.Domain.Snapping
import CoverageSubset.Proofs.Subsetting

/-!
# A resolved request is about offered values

Against a domain, directives are resolved exactly if they are read to the end and ask for one value
or for nothing: the value is snapped to the domain, and for nothing the greatest boundary is taken.
So whatever a resolved request names is offered, except where the domain has nothing to offer and
the requested value is kept.
-/

namespace CoverageSubset

/-- An interval with equal ends is the slice at either. -/
theorem Interval.isDegenerate_iff {α : Type} [AxisValue α] [Std.TransOrd α] [Std.LawfulEqOrd α]
    {i : Interval α} :
    i.isDegenerate = true ↔ i = .slice i.low := by
  rw [isDegenerate, beq_iff_eq, Std.LawfulEqCmp.compare_eq_iff_eq, slice]
  cases i
  simp [eq_comm]

namespace Subsetting

variable {α : Type} [AxisValue α] [Requestable α] {s : Subsetting}

/-- A directive about the dimension writes no single value, as a trim does whose ends differ. -/
def AsksForMore (α : Type) [AxisValue α] [Requestable α] (s : Subsetting) : Prop :=
  ∃ directive ∈ s.about α, ∀ v : α, ¬ Writes directive (.slice v)

private theorem asksForMore_of_trim {axis low high : String} {a b : α}
    (hmem : .trim axis low high ∈ s.about α) (ha : Requestable.ofLiteral low = .ok a)
    (hb : Requestable.ofLiteral high = .ok b) (hne : a ≠ b) :
    s.AsksForMore α := by
  refine ⟨_, hmem, ?_⟩
  rintro v ⟨hlow, hhigh, -⟩
  have hav : a = v := Except.ok.inj (ha.symm.trans hlow)
  have hbv : b = v := Except.ok.inj (hb.symm.trans hhigh)
  exact hne (hav.trans hbv.symm)

variable [Std.TransOrd α] {d : Domain α} {domain : Option (Domain α)} {r : Option (Interval α)}

/-- What a request gets along a dimension. It is nothing where the coverage lacks the dimension, or
offers nothing on it and is asked for nothing, and else one value: an offered one if any is, the
greatest boundary if none is asked for, and what the requested one snaps to. -/
structure GetsOffered (s : Subsetting) (domain : Option (Domain α)) (got : Option (Interval α)) :
    Prop where
  nothing : got = none ↔ domain = none ∨ ∃ d, domain = some d ∧ d.isEmpty = true ∧ s.about α = []
  single : ∀ i, got = some i → i.low = i.high
  offered : ∀ d i, domain = some d → got = some i → d.isEmpty = false → d.offers i.low = true
  greatest : ∀ d i, domain = some d → got = some i → s.about α = [] → d.IsGreatest i.low
  snapped : ∀ d v, domain = some d → s.requested? α = .ok (some (.slice v)) → got = some (d.snap v)

private theorem getsOffered_highest? (hd : d.Ordered) (hnone : s.about α = []) :
    s.GetsOffered (some d) (d.highest?.map .slice) where
  nothing := by simp [Domain.highest?_eq_none_iff, hnone]
  single i hi := by
    obtain ⟨b, -, rfl⟩ := Option.map_eq_some_iff.mp hi
    rfl
  offered := by
    rintro _ i ⟨⟩ hi -
    obtain ⟨b, hb, rfl⟩ := Option.map_eq_some_iff.mp hi
    exact hd.offers (hd.isGreatest_of_highest? hb).isBoundary
  greatest := by
    rintro _ i ⟨⟩ hi -
    obtain ⟨b, hb, rfl⟩ := Option.map_eq_some_iff.mp hi
    exact hd.isGreatest_of_highest? hb
  snapped := by
    rintro _ v ⟨⟩ hv
    obtain ⟨-, ⟨-, hv⟩ | ⟨sole, i, hsole, -⟩⟩ := requested?_eq_ok_iff.mp hv
    · cases hv
    · rw [hnone] at hsole
      cases hsole

variable [Std.LawfulEqOrd α]

private theorem getsOffered_snap {sole : Directive} {v : α} (hd : d.Ordered)
    (hsole : s.about α = [sole])
    (hv : Writes sole (.slice v)) : s.GetsOffered (some d) (some (d.snap v)) where
  nothing := by simp [hsole]
  single i hi := by
    obtain rfl := Option.some.inj hi
    rfl
  offered := by
    rintro _ i ⟨⟩ hi hne
    obtain rfl := Option.some.inj hi
    exact hd.offers_snap hne v
  greatest _ _ _ _ hnone := by
    rw [hsole] at hnone
    cases hnone
  snapped := by
    rintro _ w ⟨⟩ hw
    obtain ⟨-, ⟨-, hw⟩ | ⟨other, i, hother, hi, hw⟩⟩ := requested?_eq_ok_iff.mp hw
    · cases hw
    · obtain rfl := List.singleton_inj.mp (hsole.symm.trans hother)
      have heq : Interval.slice v = .slice w := (hv.unique hi).trans (Option.some.inj hw).symm
      obtain rfl : v = w := congrArg Interval.low heq
      rfl

/-- Directives resolve against a domain exactly if they ask for nothing, which gives the greatest
offered value, or for one value, which is snapped. -/
theorem resolve?_eq_ok_iff :
    s.resolve? (some d) = .ok r ↔
      Labelled s.prefixes s.directives ∧
        ((s.about α = [] ∧ r = d.highest?.map .slice) ∨
          ∃ directive v, s.about α = [directive] ∧ Writes directive (.slice v) ∧
            r = some (d.snap v)) := by
  simp only [resolve?, bind_eq_ok_iff]
  constructor
  · rintro ⟨requested, hrequested, h⟩
    obtain ⟨hlabelled, ⟨hnone, rfl⟩ | ⟨directive, i, hsole, hi, rfl⟩⟩ :=
      requested?_eq_ok_iff.mp hrequested
    · exact ⟨hlabelled, .inl ⟨hnone, (Except.ok.inj h).symm⟩⟩
    · dsimp only at h
      split at h
      · next hdegenerate =>
        rw [Interval.isDegenerate_iff.mp hdegenerate] at hi
        exact ⟨hlabelled, .inr ⟨directive, i.low, hsole, hi, (Except.ok.inj h).symm⟩⟩
      · cases h
  · rintro ⟨hlabelled, ⟨hnone, rfl⟩ | ⟨directive, v, hsole, hv, rfl⟩⟩
    · exact ⟨none, requested?_eq_ok_iff.mpr ⟨hlabelled, .inl ⟨hnone, rfl⟩⟩, rfl⟩
    · refine ⟨some (.slice v), ?_, ?_⟩
      · exact requested?_eq_ok_iff.mpr ⟨hlabelled, .inr ⟨directive, _, hsole, hv, rfl⟩⟩
      dsimp only
      rw [if_pos (Interval.isDegenerate_iff.mpr rfl)]
      rfl

/-- Nothing is resolved where more than a single value is asked for. -/
theorem resolve?_ne_ok_of_asksForMore (h : s.AsksForMore α) : s.resolve? (some d) ≠ .ok r := by
  intro hr
  obtain ⟨directive, hmem, hmore⟩ := h
  obtain ⟨-, ⟨hnone, -⟩ | ⟨sole, v, hsole, hv, -⟩⟩ := resolve?_eq_ok_iff.mp hr
  · rw [hnone] at hmem
    cases hmem
  · rw [hsole, List.mem_singleton] at hmem
    exact hmore v (hmem ▸ hv)

/-- What directives resolve to against an ordered domain is offered. -/
theorem getsOffered_of_resolve? (hd : ∀ d, domain = some d → d.Ordered)
    (h : s.resolve? domain = .ok r) :
    s.GetsOffered domain r := by
  cases domain with
  | none =>
    obtain rfl := Except.ok.inj h
    constructor <;> simp
  | some d =>
    obtain ⟨-, ⟨hnone, rfl⟩ | ⟨sole, v, hsole, hv, rfl⟩⟩ := resolve?_eq_ok_iff.mp h
    · exact getsOffered_highest? (hd d rfl) hnone
    · exact getsOffered_snap (hd d rfl) hsole hv

end Subsetting

namespace GridRequest

variable {s : Subsetting} {times : Option TimeDomain} {elevations : Option ElevationDomain}
  {names : List String} {r : GridRequest}

/-- A request is resolved exactly if its time, its elevation and its custom dimensions are. -/
theorem resolve_eq_ok_iff :
    resolve s times elevations names = .ok r ↔
      s.resolve? times = .ok r.temporal ∧ s.resolve? elevations = .ok r.elevation ∧
        s.customValues names = .ok r.custom ∧ r.spatial = none := by
  simp only [resolve, bind_eq_ok_iff, Except.ok.injEq]
  constructor
  · rintro ⟨temporal, htemporal, elevation, helevation, custom, hcustom, rfl⟩
    exact ⟨htemporal, helevation, hcustom, rfl⟩
  · rintro ⟨htemporal, helevation, hcustom, hspatial⟩
    refine ⟨_, htemporal, _, helevation, _, hcustom, ?_⟩
    rw [← hspatial]

/-- A resolved request gets offered values in time and in elevation, and a request for more than one
value on a dimension of the coverage is not resolved. -/
theorem resolve_getsOffered (htimes : ∀ d, times = some d → d.Ordered)
    (helevations : ∀ d, elevations = some d → d.Ordered) :
    (∀ r, resolve s times elevations names = .ok r →
        s.GetsOffered times r.temporal ∧ s.GetsOffered elevations r.elevation) ∧
      ((times.isSome = true ∧ s.AsksForMore Instant) ∨
        (elevations.isSome = true ∧ s.AsksForMore Double) →
        ∃ e, resolve s times elevations names = .error e) := by
  constructor
  · intro r hr
    obtain ⟨htemporal, helevation, -⟩ := resolve_eq_ok_iff.mp hr
    exact ⟨Subsetting.getsOffered_of_resolve? htimes htemporal,
      Subsetting.getsOffered_of_resolve? helevations helevation⟩
  · intro hmore
    cases hr : resolve s times elevations names with
    | error e => exact ⟨e, rfl⟩
    | ok r =>
      obtain ⟨htemporal, helevation, -⟩ := resolve_eq_ok_iff.mp hr
      rcases hmore with ⟨hsome, hmore⟩ | ⟨hsome, hmore⟩
      · obtain ⟨d, rfl⟩ := Option.isSome_iff_exists.mp hsome
        exact False.elim (Subsetting.resolve?_ne_ok_of_asksForMore hmore htemporal)
      · obtain ⟨d, rfl⟩ := Option.isSome_iff_exists.mp hsome
        exact False.elim (Subsetting.resolve?_ne_ok_of_asksForMore hmore helevation)

/-- A request for an elevation gets the nearest one and the latest time, though that is the end of a
span that begins first; a request for all of a year gets no time. -/
theorem resolve_getsOffered_elevation_only :
    let last : Instant := { day := 10, second := 0, nano := 0 }
    let times : TimeDomain :=
      .ofList [.span { day := 0, second := 0, nano := 0 } last,
        .point { day := 5, second := 0, nano := 0 }]
    let elevations : ElevationDomain := .ofPoints [.zero false, .infinity false]
    let one : Subsetting := { directives := [.slice "Elevation" "24"] }
    let year : Subsetting := { directives := [.trim "time" "1970-01-01" "1970-12-31"] }
    (times.Ordered ∧ elevations.Ordered) ∧
      (∃ r, resolve one (some times) (some elevations) [] = .ok r ∧
        r.temporal = some (.slice last) ∧
        r.elevation = some (.slice (.zero false)) ∧ one.GetsOffered (some times) r.temporal ∧
        one.GetsOffered (some elevations) r.elevation) ∧
      year.AsksForMore Instant ∧
        ∃ e, resolve year (some times) (some elevations) [] = .error e := by
  intro last times elevations one year
  have hvalues :
      (resolve one (some times) (some elevations) []).toOption.map
        (fun r ↦ (r.temporal, r.elevation)) =
      some (some (.slice last), some (.slice (.zero false))) := by decide +kernel
  have htimes : ∀ d, some times = some d → d.Ordered := by
    rintro _ ⟨⟩
    exact Domain.ordered_ofList (by decide)
  have helevations : ∀ d, some elevations = some d → d.Ordered := by
    rintro _ ⟨⟩
    exact Domain.ordered_ofList (by decide)
  let first : Instant := { day := 0, second := 0, nano := 0 }
  let final : Instant := { day := 364, second := 0, nano := 0 }
  have hmore : year.AsksForMore Instant :=
    Subsetting.asksForMore_of_trim
      (by decide +kernel : .trim "time" "1970-01-01" "1970-12-31" ∈ year.about Instant)
      (rfl : Requestable.ofLiteral "1970-01-01" = .ok first)
      (rfl : Requestable.ofLiteral "1970-12-31" = .ok final) (by decide)
  refine ⟨⟨htimes times rfl, helevations elevations rfl⟩, ?_, hmore,
    (resolve_getsOffered htimes helevations).2 (.inl ⟨rfl, hmore⟩)⟩
  cases hr : resolve one (some times) (some elevations) [] with
  | error e =>
    rw [hr] at hvalues
    cases hvalues
  | ok r =>
    rw [hr] at hvalues
    obtain ⟨htemporal, helevation⟩ := Prod.mk.inj (Option.some.inj hvalues)
    obtain ⟨hgotTime, hgotElevation⟩ := (resolve_getsOffered htimes helevations).1 r hr
    exact ⟨r, rfl, htemporal, helevation, hgotTime, hgotElevation⟩

end GridRequest

end CoverageSubset

import CoverageSubset.Proofs.AxisOrder
import CoverageSubset.Proofs.Granule.KeyOrder
import CoverageSubset.Proofs.Sorting

/-!
# The record with the latest time

Records that are put in order by a time in descending order begin with a record of the latest time.
Where a value of another kind stands between two times, sorting by insertion need not: that value is
held equal to both, so a later record stops behind it.
-/

namespace CoverageSubset

open AxisValue GranuleStore

/-- A time is the latest of those that some records hold in an attribute. -/
def IsLatest (t : Instant) (name : String) (gs : List Granule) : Prop :=
  ∀ g ∈ gs, ∀ u : Instant, g.value? name = some u → atMost u t = true

/-- Some records hold no value of another kind in an attribute. -/
def HoldTimes (name : String) (gs : List Granule) : Prop :=
  ∀ g ∈ gs, ((g.attribute? name).all fun a ↦ a.time?.isSome) = true

/-- Records are compared by an attribute from the greatest value down, and then by other keys. -/
def compareDescending (name : String) (keys : List SortKey) : Granule → Granule → Ordering :=
  SortKey.compareAll (⟨name, .descending⟩ :: keys)

variable {name : String} {keys : List SortKey} {g h f : Granule} {gs sorted : List Granule}
  {t u : Instant}

/-- A record holds a time exactly if its attribute is that time. -/
theorem Granule.value?_eq_some_iff :
    g.value? name = some t ↔ g.attribute? name = some (.time t) := by
  rw [Granule.value?]
  cases hattr : g.attribute? name with
  | none => simp
  | some a => cases a <;> simp [AttributeKind.ofAttribute?, Attribute.time?]

private theorem compareGranules_times (hg : g.value? name = some t) (hh : h.value? name = some u) :
    (⟨name, .descending⟩ : SortKey).compareGranules g h = compare u t := by
  rw [SortKey.compareGranules, Granule.value?_eq_some_iff.mp hg, Granule.value?_eq_some_iff.mp hh]
  exact (Std.OrientedOrd.eq_swap (α := Instant)).symm

private theorem atMost_of_isLE (hg : g.value? name = some t) (hh : h.value? name = some u)
    (hle : (compareDescending name keys g h).isLE = true) : atMost u t = true := by
  rw [compareDescending, SortKey.compareAll, List.foldr_cons, compareGranules_times hg hh] at hle
  rw [atMost]
  cases hcmp : compare u t with
  | lt => rfl
  | eq => rfl
  | gt => simp [hcmp] at hle

private theorem atMost_of_ne_lt (hg : g.value? name = some t) (hh : h.value? name = some u)
    (hne : compareDescending name keys g h ≠ .lt) : atMost t u = true := by
  rw [compareDescending, SortKey.compareAll, List.foldr_cons, compareGranules_times hg hh] at hne
  cases hcmp : atMost t u with
  | true => rfl
  | false => simp [atMost_eq_false_iff.mp hcmp] at hne

private theorem lt_of_attribute?_eq_none (hg : g.value? name = some t)
    (hh : h.attribute? name = none) :
    compareDescending name keys g h = .lt := by
  rw [compareDescending, SortKey.compareAll, List.foldr_cons, SortKey.compareGranules,
    Granule.value?_eq_some_iff.mp hg, hh]
  rfl

/-! ### Where the records are in an order -/

/-- Times are values of one kind. -/
theorem HoldTimes.holdOneKind (hgs : HoldTimes name gs) (order : SortOrder) :
    HoldOneKind ⟨name, order⟩ gs := by
  have htime {g : Granule} (hg : g ∈ gs) {a : Attribute} (ha : a ∈ g.attribute? name) :
      ∃ t, a = .time t := by
    have hsome := hgs g hg
    rw [Option.mem_def.mp ha, Option.all_some] at hsome
    cases a <;> simp [Attribute.time?] at hsome ⊢
  intro g hg h hh a ha b hb
  obtain ⟨t, rfl⟩ := htime hg ha
  obtain ⟨u, rfl⟩ := htime hh hb
  rfl

/-- Keys with values of one kind after a time put records in an order that hold times alone. -/
theorem HoldTimes.ordersOn (hgs : HoldTimes name gs) (hkeys : ∀ k ∈ keys, HoldOneKind k gs) :
    OrdersOn (compareDescending name keys) gs :=
  ordersOn_compareAll (List.forall_mem_cons.mpr ⟨hgs.holdOneKind _, hkeys⟩)

/-- What a stable sort puts first holds the latest time. -/
theorem isLatest_of_stablySorts (hsorts : StablySorts (compareDescending name keys) gs sorted)
    (hf : sorted.head? = some f) (ht : f.value? name = some t) : IsLatest t name gs := by
  intro g hg u hu
  by_cases hfg : f = g
  · obtain rfl := Option.some.inj ((hfg ▸ ht).symm.trans hu)
    exact atMost_refl t
  · exact atMost_of_isLE ht hu (hsorts.isLE_of_head? hf hg hfg)

/-! ### Sorting by insertion -/

/-- Where all values are times, the record that is inserted first holds the latest. -/
theorem isLatest_of_holdTimes (hgs : HoldTimes name gs)
    (hf : (insertionSort (compareDescending name keys) gs).head? = some f)
    (ht : f.value? name = some t) : IsLatest t name gs := by
  induction gs using List.reverseRecOn with
  | nil => cases hf
  | append_singleton gs last ih =>
    rw [head?_insertionSort_append_singleton] at hf
    intro g hg u hu
    split at hf
    · next hall =>
      obtain rfl := Option.some.inj hf
      rcases List.mem_append.mp hg with hg | hg
      · have hlt : compareDescending name keys last g = .lt := by
          simpa using List.all_eq_true.mp hall g hg
        exact atMost_of_isLE ht hu (by rw [hlt]; rfl)
      · obtain rfl := List.mem_singleton.mp hg
        obtain rfl := Option.some.inj (ht.symm.trans hu)
        exact atMost_refl t
    · next hall =>
      have hlatest : IsLatest t name gs := ih (fun g hg ↦ hgs g (by simp [hg])) hf
      rcases List.mem_append.mp hg with hg | hg
      · exact hlatest g hg u hu
      · obtain rfl := List.mem_singleton.mp hg
        -- The record stopped behind one that holds a time as late as its own.
        obtain ⟨h, hmem, hstop⟩ : ∃ h ∈ gs, compareDescending name keys g h ≠ .lt := by
          simpa using hall
        cases hattr : h.attribute? name with
        | none => exact absurd (lt_of_attribute?_eq_none hu hattr) hstop
        | some a =>
          have htime : a.time?.isSome = true := by simpa [hattr] using hgs h (by simp [hmem])
          obtain ⟨w, hw⟩ := Option.isSome_iff_exists.mp htime
          have hvalue : h.value? name = some w := by
            rw [Granule.value?, hattr, ← hw, Option.bind_some]
            rfl
          exact atMost_trans (atMost_of_ne_lt hu hvalue hstop) (hlatest h hmem w hvalue)

/-- The record that is inserted first holds the latest time exactly if some record of the latest
time is lower than every record stored before it. -/
theorem isLatest_iff (hf : (insertionSort (compareDescending name keys) gs).head? = some f)
    (ht : f.value? name = some t) :
    IsLatest t name gs ↔
      ∃ before g after u, gs = before ++ g :: after ∧ g.value? name = some u ∧
        IsLatest u name gs ∧ ∀ h ∈ before, compareDescending name keys g h = .lt := by
  constructor
  · intro hlatest
    obtain ⟨before, after, hgs, hbefore⟩ := lt_of_head?_insertionSort hf
    exact ⟨before, f, after, t, hgs, ht, hlatest, hbefore⟩
  · rintro ⟨before, g, after, u, hgs, hu, hlatest, hbefore⟩
    rcases eq_or_lt_of_head?_insertionSort hf hgs hbefore with rfl | hlt
    · obtain rfl := Option.some.inj (ht.symm.trans hu)
      exact hlatest
    · intro h hmem w hw
      exact atMost_trans (hlatest h hmem w hw) (atMost_of_isLE ht hu (by rw [hlt]; rfl))

end CoverageSubset

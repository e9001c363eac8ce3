import CoverageSubset.Proofs.Granule.Selection

/-!
# Records in the order of their keys

Under one key a record comes before another if its value does, in the direction of the key, or if
the other has no value; under several keys the first one counts that tells the two apart. This is an
order wherever the values of each key are of one kind, and then a query selects the first records of
a list in that order, in which records that no key tells apart stand as they are stored.
-/

namespace CoverageSubset

namespace Attribute

variable {a b c : Attribute}

/-- Two values are of one kind. -/
def SameKind (a b : Attribute) : Prop := a.ctorIdx = b.ctorIdx

instance : DecidableRel SameKind := fun a b ↦ inferInstanceAs (Decidable (a.ctorIdx = b.ctorIdx))

/-- The first value is below the second, and of its kind. -/
def Below (a b : Attribute) : Prop := a.compare? b = some .lt

/-- Two values are compared the other way round with the opposite result. -/
theorem compare?_swap (a b : Attribute) : (a.compare? b).map Ordering.swap = b.compare? a := by
  cases a <;> cases b <;> simp [compare?, ← Std.OrientedCmp.eq_swap]

private theorem compare?_eq_some_eq_iff : a.compare? b = some .eq ↔ a = b := by
  cases a <;> cases b <;> simp [compare?]

/-- What is below a value is below what that is below. -/
theorem Below.trans (hab : a.Below b) (hbc : b.Below c) : a.Below c := by
  unfold Below at *
  cases a <;> cases b <;> simp only [compare?, Option.some.injEq, reduceCtorEq] at hab <;>
    cases c <;> simp only [compare?, Option.some.injEq, reduceCtorEq] at hbc ⊢ <;>
    exact Std.TransCmp.lt_trans hab hbc

private theorem SameKind.exists_compare? (h : a.SameKind b) : ∃ o, a.compare? b = some o := by
  cases a <;> cases b <;> simp_all [SameKind, compare?, Attribute.ctorIdx]

end Attribute

namespace SortKey

variable {k : SortKey} {keys : List SortKey} {f g h : Granule}

/-- The first value comes before the second in the direction of the key. -/
def Leads (k : SortKey) (a b : Attribute) : Prop :=
  match k.order with
  | .ascending => a.Below b
  | .descending => b.Below a

/-- Under a key, a record comes before another: its value leads, or the other has none. -/
def Before (k : SortKey) (g h : Granule) : Prop :=
  match g.attribute? k.name, h.attribute? k.name with
  | some a, some b => k.Leads a b
  | some _, none => True
  | none, _ => False

/-- Under a key, two records are tied: they have the same value, or none. -/
def Tied (k : SortKey) (g h : Granule) : Prop := g.attribute? k.name = h.attribute? k.name

/-- Two records have values of one kind for a key, where both have one. -/
def Comparable (k : SortKey) (g h : Granule) : Prop :=
  ∀ a ∈ g.attribute? k.name, ∀ b ∈ h.attribute? k.name, a.SameKind b

instance (k : SortKey) (g h : Granule) : Decidable (k.Comparable g h) :=
  inferInstanceAs (Decidable (∀ a ∈ g.attribute? k.name, ∀ b ∈ h.attribute? k.name, a.SameKind b))

/-- Under several keys, a record comes before another by the first key that tells them apart. -/
inductive Precedes : List SortKey → Granule → Granule → Prop where
  | first {k : SortKey} {keys : List SortKey} {g h : Granule} (hk : k.Before g h) :
    Precedes (k :: keys) g h
  | later {k : SortKey} {keys : List SortKey} {g h : Granule} (hk : k.Tied g h)
    (hkeys : Precedes keys g h) :
    Precedes (k :: keys) g h

/-- No key tells two records apart. -/
def AllTied (keys : List SortKey) (g h : Granule) : Prop := ∀ k ∈ keys, k.Tied g h

instance (keys : List SortKey) (g : Granule) : DecidablePred (AllTied keys g) :=
  fun h ↦ inferInstanceAs (Decidable (∀ k ∈ keys, g.attribute? k.name = h.attribute? k.name))

/-! ### One key -/

/-- To lead is transitive in either direction. -/
theorem Leads.trans {a b c : Attribute} (hab : k.Leads a b) (hbc : k.Leads b c) : k.Leads a c := by
  unfold Leads at *
  cases hk : k.order with
  | ascending =>
    rw [hk] at hab hbc
    exact hab.trans hbc
  | descending =>
    rw [hk] at hab hbc
    exact hbc.trans hab

private theorem compareValues_eq_lt_iff {a b : Attribute} :
    k.compareValues a b = .lt ↔ k.Leads a b := by
  unfold compareValues Leads Attribute.Below
  cases k.order with
  | ascending => cases a.compare? b <;> simp
  | descending =>
    rw [← Attribute.compare?_swap a b]
    cases a.compare? b <;> simp

private theorem compareValues_eq_eq_iff {a b : Attribute} (hab : a.SameKind b) :
    k.compareValues a b = .eq ↔ a = b := by
  obtain ⟨o, ho⟩ := hab.exists_compare?
  rw [← Attribute.compare?_eq_some_eq_iff, compareValues, ho]
  cases k.order <;> cases o <;> simp

private theorem compareValues_swap (k : SortKey) (a b : Attribute) :
    (k.compareValues a b).swap = k.compareValues b a := by
  have hswap : ((a.compare? b).getD .eq).swap = (b.compare? a).getD .eq := by
    rw [← Attribute.compare?_swap a b]
    cases a.compare? b <;> rfl
  unfold compareValues
  cases k.order with
  | ascending => exact hswap
  | descending => exact congrArg Ordering.swap hswap

private theorem compareGranules_swap (k : SortKey) (g h : Granule) :
    (k.compareGranules g h).swap = k.compareGranules h g := by
  unfold compareGranules
  cases g.attribute? k.name with
  | none => cases h.attribute? k.name <;> rfl
  | some a =>
    cases h.attribute? k.name with
    | none => rfl
    | some b => exact k.compareValues_swap a b

private theorem compareGranules_eq_lt_iff : k.compareGranules g h = .lt ↔ k.Before g h := by
  unfold compareGranules Before
  cases g.attribute? k.name with
  | none => cases h.attribute? k.name <;> simp
  | some a =>
    cases h.attribute? k.name with
    | none => simp
    | some b => exact compareValues_eq_lt_iff

private theorem compareGranules_eq_eq_iff (hk : k.Comparable g h) :
    k.compareGranules g h = .eq ↔ k.Tied g h := by
  unfold Comparable at hk
  unfold compareGranules Tied
  cases hg : g.attribute? k.name with
  | none => cases h.attribute? k.name <;> simp
  | some a =>
    cases hh : h.attribute? k.name with
    | none => simp
    | some b => simpa using compareValues_eq_eq_iff (hk a hg b hh)

/-- To come before is transitive. -/
theorem Before.trans (hfg : k.Before f g) (hgh : k.Before g h) : k.Before f h := by
  unfold Before at *
  cases hf : f.attribute? k.name with
  | none => simp [hf] at hfg
  | some a =>
    cases hg : g.attribute? k.name with
    | none => simp [hg] at hgh
    | some b =>
      cases hh : h.attribute? k.name with
      | none => trivial
      | some c =>
        rw [hf, hg] at hfg
        rw [hg, hh] at hgh
        exact hfg.trans hgh

private theorem Comparable.symm (hk : k.Comparable g h) : k.Comparable h g :=
  fun a ha b hb ↦ Eq.symm (hk b hb a ha)

private theorem Tied.before (hfg : k.Tied f g) (hfh : k.Before f h) : k.Before g h := by
  unfold Before at *
  rwa [← hfg]

private theorem Before.of_tied (hfg : k.Before f g) (hgh : k.Tied g h) : k.Before f h := by
  unfold Before at *
  rwa [← hgh]

/-! ### Several keys -/

/-- To precede is transitive. -/
theorem Precedes.trans (hfg : Precedes keys f g) (hgh : Precedes keys g h) : Precedes keys f h := by
  induction hfg with
  | first hk =>
    cases hgh with
    | first hk' => exact .first (hk.trans hk')
    | later hk' _ => exact .first (hk.of_tied hk')
  | later hk hkeys ih =>
    cases hgh with
    | first hk' => exact .first (Tied.before (Eq.symm hk) hk')
    | later hk' hkeys' => exact .later (Eq.trans hk hk') (ih hkeys')

/-- A record precedes what another precedes that no key tells from it. -/
theorem AllTied.precedes (hfg : AllTied keys f g) (hfh : Precedes keys f h) :
    Precedes keys g h := by
  induction hfh with
  | first hk => exact .first ((hfg _ List.mem_cons_self).before hk)
  | later hk _ ih =>
    have htied := hfg _ List.mem_cons_self
    exact .later (Eq.trans (Eq.symm htied) hk) (ih fun k hk ↦ hfg k (List.mem_cons_of_mem _ hk))

/-- Records with values of one kind for each key are compared as lower exactly if they precede. -/
theorem compareAll_eq_lt_iff (hkeys : ∀ k ∈ keys, k.Comparable g h) :
    compareAll keys g h = .lt ↔ Precedes keys g h := by
  induction keys with
  | nil =>
    simp only [compareAll, List.foldr_nil, reduceCtorEq, false_iff]
    intro hnil
    cases hnil
  | cons k keys ih =>
    obtain ⟨hk, hrest⟩ := List.forall_mem_cons.mp hkeys
    have hlater := ih hrest
    rw [compareAll] at hlater
    rw [compareAll, List.foldr_cons, Ordering.then_eq_lt, compareGranules_eq_lt_iff,
      compareGranules_eq_eq_iff hk, hlater]
    constructor
    · rintro (hbefore | ⟨htied, hprecedes⟩)
      · exact .first hbefore
      · exact .later htied hprecedes
    · intro hprecedes
      cases hprecedes with
      | first hbefore => exact .inl hbefore
      | later htied hprecedes => exact .inr ⟨htied, hprecedes⟩

/-- Records with values of one kind for each key are compared as equal exactly if no key tells them
apart. -/
theorem compareAll_eq_eq_iff (hkeys : ∀ k ∈ keys, k.Comparable g h) :
    compareAll keys g h = .eq ↔ AllTied keys g h := by
  induction keys with
  | nil => simp [compareAll, AllTied]
  | cons k keys ih =>
    obtain ⟨hk, hrest⟩ := List.forall_mem_cons.mp hkeys
    have hlater := ih hrest
    rw [compareAll] at hlater
    rw [compareAll, List.foldr_cons, Ordering.then_eq_eq, compareGranules_eq_eq_iff hk, hlater,
      AllTied, AllTied, List.forall_mem_cons]

/-- Two records are compared the other way round with the opposite result. -/
theorem compareAll_swap (keys : List SortKey) (g h : Granule) :
    (compareAll keys g h).swap = compareAll keys h g := by
  induction keys with
  | nil => rfl
  | cons k keys ih =>
    simp only [compareAll] at ih
    simp only [compareAll, List.foldr_cons, Ordering.swap_then, compareGranules_swap, ih]

/-- Of two records with values of one kind for each key, one precedes the other or no key tells them
apart. -/
theorem precedes_or_allTied_or_precedes (hkeys : ∀ k ∈ keys, k.Comparable g h) :
    Precedes keys g h ∨ AllTied keys g h ∨ Precedes keys h g := by
  cases hcmp : compareAll keys g h with
  | lt => exact .inl ((compareAll_eq_lt_iff hkeys).mp hcmp)
  | eq => exact .inr (.inl ((compareAll_eq_eq_iff hkeys).mp hcmp))
  | gt =>
    have hlt : compareAll keys h g = .lt := by rw [← compareAll_swap, hcmp, Ordering.swap_gt]
    exact .inr (.inr ((compareAll_eq_lt_iff fun k hk ↦ (hkeys k hk).symm).mp hlt))

/-- Of records with values of one kind for each key, one comes no later than the other exactly if
that does not precede it. -/
theorem isLE_compareAll_iff (hkeys : ∀ k ∈ keys, k.Comparable h g) :
    (compareAll keys g h).isLE = true ↔ ¬ Precedes keys h g := by
  rw [← compareAll_eq_lt_iff hkeys, ← compareAll_swap keys g h]
  cases compareAll keys g h <;> simp

end SortKey

/-! ### Queries -/

namespace GranuleStore

variable {keys : List SortKey} {gs sorted : List Granule}

/-- The records have values of one kind for a key, as far as they have any. -/
def HoldOneKind (k : SortKey) (gs : List Granule) : Prop := ∀ g ∈ gs, ∀ h ∈ gs, k.Comparable g h

instance (k : SortKey) (gs : List Granule) : Decidable (HoldOneKind k gs) :=
  inferInstanceAs (Decidable (∀ g ∈ gs, ∀ h ∈ gs, k.Comparable g h))

/-- A list has the same records in the order of some keys. -/
structure InKeyOrder (keys : List SortKey) (gs sorted : List Granule) : Prop where
  perm : sorted.Perm gs
  /-- No record precedes one that stands before it. -/
  ordered : sorted.Pairwise fun g h ↦ ¬ SortKey.Precedes keys h g
  /-- Records that no key tells from a given one stand as they are stored. -/
  stable : ∀ g, (sorted.filter fun h ↦ SortKey.AllTied keys g h) =
    gs.filter fun h ↦ SortKey.AllTied keys g h

/-- Keys with values of one kind are an order on the records. -/
theorem ordersOn_compareAll (hkeys : ∀ k ∈ keys, HoldOneKind k gs) :
    OrdersOn (SortKey.compareAll keys) gs where
  swap g _ h _ := (SortKey.compareAll_swap keys g h).symm
  trans f hf g hg h hh hfg hgh := by
    have hone {g h : Granule} (hg : g ∈ gs) (hh : h ∈ gs) : ∀ k ∈ keys, k.Comparable g h :=
      fun k hk ↦ hkeys k hk g hg h hh
    rw [SortKey.isLE_compareAll_iff (hone hg hf)] at hfg
    rw [SortKey.isLE_compareAll_iff (hone hh hg)] at hgh
    rw [SortKey.isLE_compareAll_iff (hone hh hf)]
    intro hhf
    -- The last record does not precede the one in the middle, so that precedes the first as the
    -- last does.
    rcases SortKey.precedes_or_allTied_or_precedes (hone hh hg) with hbefore | htied | hafter
    · exact hgh hbefore
    · exact hfg (htied.precedes hhf)
    · exact hfg (hafter.trans hhf)

/-- A stable sort by keys with values of one kind puts the records in their order. -/
theorem inKeyOrder_of_stablySorts (hkeys : ∀ k ∈ keys, HoldOneKind k gs)
    (h : StablySorts (SortKey.compareAll keys) gs sorted) : InKeyOrder keys gs sorted where
  perm := h.perm
  ordered := by
    apply h.ordered.imp_of_mem
    intro f g hf hg hle
    rw [h.perm.mem_iff] at hf hg
    exact (SortKey.isLE_compareAll_iff fun k hk ↦ hkeys k hk g hg f hf).mp hle
  stable g := by
    by_cases hsome : ∃ f ∈ gs, SortKey.AllTied keys g f
    · obtain ⟨g', hg', htied⟩ := hsome
      -- No key tells the stored record from the given one, so the two have the same records beside
      -- them.
      have hsame (f : Granule) (hf : f ∈ gs) :
          decide (SortKey.AllTied keys g f) = (SortKey.compareAll keys g' f == .eq) := by
        rw [Bool.eq_iff_iff, decide_eq_true_iff, beq_iff_eq,
          SortKey.compareAll_eq_eq_iff fun k hk ↦ hkeys k hk g' hg' f hf]
        exact ⟨fun hgf k hk ↦ (htied k hk).symm.trans (hgf k hk),
          fun hgf k hk ↦ (htied k hk).trans (hgf k hk)⟩
      rw [List.filter_congr hsame, ← h.stable g' hg',
        List.filter_congr fun f hf ↦ hsame f (h.perm.mem_iff.mp hf)]
    · have hnone (fs : List Granule) (hfs : ∀ f ∈ fs, f ∈ gs) :
          (fs.filter fun f ↦ SortKey.AllTied keys g f) = [] :=
        List.filter_eq_nil_iff.mpr fun f hf htied ↦ hsome ⟨f, hfs f hf, of_decide_eq_true htied⟩
      rw [hnone sorted fun f hf ↦ h.perm.mem_iff.mp hf, hnone gs fun _ ↦ id]

/-- Records with values of one kind for each key are in the order of the keys before a query takes
the first of them. -/
theorem exists_inKeyOrder (sorter : Sorter Granule) (hkeys : ∀ k ∈ keys, HoldOneKind k gs) :
    ∃ sorted, (if keys.isEmpty then some gs else sorter.sort (SortKey.compareAll keys) gs) =
      some sorted ∧
      InKeyOrder keys gs sorted := by
  cases keys with
  | nil => exact ⟨gs, rfl, .refl gs, List.pairwise_of_forall fun _ _ h ↦ (by cases h), fun _ ↦ rfl⟩
  | cons k keys =>
    obtain ⟨sorted, hsort, hsorts⟩ := sorter.sorts (ordersOn_compareAll hkeys)
    exact ⟨sorted, hsort, inKeyOrder_of_stablySorts hkeys hsorts⟩

/-- A query whose keys have values of one kind selects the first records, as many as it asks for, of
those that meet its filter in the order of the keys. -/
theorem select_inKeyOrder (s : GranuleStore) (q : GranuleQuery)
    (hkeys : ∀ k ∈ q.keys, HoldOneKind k (s.found q.filter)) :
    ∃ sorted selected, InKeyOrder q.keys (s.found q.filter) sorted ∧ s.select q = some selected ∧
      selected <+: sorted ∧
      selected.length = q.most.elim (s.found q.filter).length fun n ↦
        min n (s.found q.filter).length := by
  obtain ⟨sorted, hsort, horder⟩ := exists_inKeyOrder s.sorter hkeys
  refine ⟨sorted, _, horder, congrArg (Option.map _) hsort, ?_⟩
  cases q.most with
  | none => exact ⟨List.prefix_rfl, horder.perm.length_eq⟩
  | some n =>
    refine ⟨List.take_prefix n _, ?_⟩
    refine List.length_take.trans ?_
    exact congrArg (min n) horder.perm.length_eq

/-- From the latest time down and by band upwards, records without a band come after those of their
time, records of one time and band stay as stored, and a limit ends before the records of earlier
times and of none. -/
theorem select_inKeyOrder_missing_and_tied :
    let first : Attribute := .time { day := 18262, second := 0, nano := 0 }
    let later : Attribute := .time { day := 18263, second := 0, nano := 0 }
    let store : GranuleStore := .ofList [
      ((Granule.ofId "early").withAttribute "ingestion" first).withAttribute "band" (.text "B02"),
      (Granule.ofId "undated").withAttribute "band" (.text "B01"),
      (Granule.ofId "plain").withAttribute "ingestion" later,
      ((Granule.ofId "second").withAttribute "ingestion" later).withAttribute "band" (.text "B04"),
      ((Granule.ofId "third").withAttribute "ingestion" later).withAttribute "band" (.text "B04"),
      ((Granule.ofId "lowest").withAttribute "ingestion" later).withAttribute "band" (.text "B03")]
    let q : GranuleQuery := ⟨.all, [⟨"ingestion", .descending⟩, ⟨"band", .ascending⟩], some 4⟩
    (∀ k ∈ q.keys, HoldOneKind k (store.found q.filter)) ∧
      ∃ sorted selected, InKeyOrder q.keys (store.found q.filter) sorted ∧
        store.select q = some selected ∧
        selected <+: sorted ∧ selected.map Granule.id = ["lowest", "second", "third", "plain"] := by
  intro first later store q
  have hkeys : ∀ k ∈ q.keys, HoldOneKind k (store.found q.filter) := by decide +kernel +revert
  have hids : (store.select q).map (List.map Granule.id) =
    some ["lowest", "second", "third", "plain"] := by
    decide +kernel +revert
  obtain ⟨sorted, selected, horder, hselect, hprefix, -⟩ := select_inKeyOrder store q hkeys
  rw [hselect] at hids
  exact ⟨hkeys, sorted, selected, horder, hselect, hprefix, Option.some.inj hids⟩

end GranuleStore

end CoverageSubset

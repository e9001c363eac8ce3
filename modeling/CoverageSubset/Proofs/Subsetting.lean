import CoverageSubset.Subsetting
import CoverageSubset.Proofs.AxisOrder
import CoverageSubset.Proofs.Outcome

/-!
# The interval that directives ask for

The directives of a request are read from the first on, but what they ask for does not depend on
their order: every label has to name an axis, and of the directives that name the dimension there
must be at most one, which has to write an interval. Which of several faults is reported does depend
on the order; each blames the subsets of the request.
-/

namespace CoverageSubset

/-- The report blames a label or a subset of the request. -/
structure Fault.BlamesSubset (f : Fault) : Prop where
  kind : ∃ text, f = .invalidAxisLabel Fault.subsetLocator text ∨
    f = .invalidSubsetting Fault.subsetLocator text
  locator : f.locator = some "subset"
  status : f.status = 400

private theorem Fault.blamesSubset_of_eq {f : Fault} {text : String}
    (h : f = .invalidAxisLabel Fault.subsetLocator text ∨
      f = .invalidSubsetting Fault.subsetLocator text) :
    f.BlamesSubset := by
  rcases h with rfl | rfl
  · exact ⟨⟨text, .inl rfl⟩, rfl, rfl⟩
  · exact ⟨⟨text, .inr rfl⟩, rfl, rfl⟩

namespace Subsetting

open AxisValue

variable {α : Type} [AxisValue α] [Requestable α]

/-! ### What directives say -/

/-- The directive names the dimension of a kind of value. -/
def concerns (α : Type) [Requestable α] (ps : AxisPrefixes) (d : Directive) : Bool :=
  (ps.name? d.axis).any fun name ↦ matchesAlias name (Requestable.dimension α).aliases

/-- The directives that name the dimension of a kind of value. -/
def about (α : Type) [Requestable α] (s : Subsetting) : List Directive :=
  s.directives.filter (concerns α s.prefixes)

/-- Every label of some directives names an axis. -/
def Labelled (ps : AxisPrefixes) (ds : List Directive) : Prop :=
  ∀ d ∈ ds, (ps.name? d.axis).isSome = true

/-- The literals of the directive are the ends of the interval, in order and the same for a
slice. -/
def Writes : Directive → Interval α → Prop
  | .trim _ low high, i =>
    Requestable.ofLiteral low = .ok i.low ∧ Requestable.ofLiteral high = .ok i.high ∧
      atMost i.low i.high = true
  | .slice _ point, i => Requestable.ofLiteral point = .ok i.low ∧ i.high = i.low

variable {ps : AxisPrefixes} {d : Directive} {ds : List Directive} {i : Interval α}
  {found r : Option (Interval α)} {s : Subsetting} {e : SubsetFault}

/-- All labels name axes exactly if the first does and the others do. -/
theorem labelled_cons : Labelled ps (d :: ds) ↔ (ps.name? d.axis).isSome = true ∧ Labelled ps ds :=
  List.forall_mem_cons

/-- A directive has an interval exactly if its literals write it. -/
theorem interval_eq_ok_iff : interval d = .ok i ↔ Writes d i := by
  cases d with
  | trim axis low high =>
    simp only [interval, Writes, bind_eq_ok_iff, isGT_compare]
    constructor
    · rintro ⟨a, ha, b, hb, h⟩
      split at h
      · cases h
      · next hab =>
        obtain rfl := Except.ok.inj h
        exact ⟨ha, hb, by simpa using hab⟩
    · rintro ⟨ha, hb, hab⟩
      exact ⟨i.low, ha, i.high, hb, by simp [hab]⟩
  | slice axis point =>
    simp only [interval, Writes, bind_eq_ok_iff, Except.ok.injEq]
    constructor
    · rintro ⟨v, hv, rfl⟩
      exact ⟨hv, rfl⟩
    · rintro ⟨hv, hhigh⟩
      exact ⟨i.low, hv, congrArg (Interval.mk i.low) hhigh.symm⟩

/-- A directive writes one interval at most. -/
theorem Writes.unique {j : Interval α} (hi : Writes d i) (hj : Writes d j) : i = j :=
  Except.ok.inj ((interval_eq_ok_iff.mpr hi).symm.trans (interval_eq_ok_iff.mpr hj))

private theorem interval_eq_error (h : (interval d : Except SubsetFault (Interval α)) = .error e) :
    (∃ literal, (Requestable.ofLiteral literal : Except SubsetFault α) = .error e) ∨
      ∃ low high, e = .reversed low high := by
  cases d with
  | trim axis low high =>
    rcases bind_eq_error_iff.mp h with hlow | ⟨a, -, h⟩
    · exact .inl ⟨low, hlow⟩
    · rcases bind_eq_error_iff.mp h with hhigh | ⟨b, -, h⟩
      · exact .inl ⟨high, hhigh⟩
      · split at h
        · exact .inr ⟨low, high, (Except.error.inj h).symm⟩
        · cases h
  | slice axis point =>
    rcases bind_eq_error_iff.mp h with hpoint | ⟨v, -, h⟩
    · exact .inl ⟨point, hpoint⟩
    · cases h

/-! ### Reading to the end -/

private theorem findInterval_cons_eq_ok_iff :
    findInterval ps found (d :: ds) = .ok r ↔
      (ps.name? d.axis).isSome = true ∧
        if concerns α ps d then found = none ∧ ∃ i, Writes d i ∧ findInterval ps (some i) ds = .ok r
        else findInterval ps found ds = .ok r := by
  rw [findInterval, axisName, concerns]
  cases ps.name? d.axis with
  | none => simp [bind_eq_ok_iff]
  | some name =>
    cases halias : matchesAlias name (Requestable.dimension α).aliases with
    | false => simp [bind_eq_ok_iff, halias]
    | true =>
      cases found with
      | some i => simp [bind_eq_ok_iff, halias]
      | none => simp [bind_eq_ok_iff, interval_eq_ok_iff, halias]

private theorem findInterval_some_eq_ok_iff :
    findInterval ps (some i) ds = .ok r ↔
      Labelled ps ds ∧ ds.filter (concerns α ps) = [] ∧ r = some i := by
  induction ds with
  | nil =>
    rw [findInterval, Except.ok.injEq, eq_comm]
    simp [Labelled]
  | cons d ds ih =>
    rw [findInterval_cons_eq_ok_iff, ih, labelled_cons, List.filter_cons]
    split
    · simp
    · simp [and_assoc]

/-- The directives are read to the end exactly if every label names an axis and at most one of them
is about the dimension, which then writes the interval. -/
theorem findInterval_eq_ok_iff :
    findInterval ps none ds = .ok r ↔
      Labelled ps ds ∧
        ((ds.filter (concerns α ps) = [] ∧ r = none) ∨
          ∃ d i, ds.filter (concerns α ps) = [d] ∧ Writes d i ∧ r = some i) := by
  induction ds with
  | nil =>
    rw [findInterval, Except.ok.injEq, eq_comm]
    simp [Labelled]
  | cons d ds ih =>
    rw [findInterval_cons_eq_ok_iff, labelled_cons, List.filter_cons, and_assoc]
    apply and_congr_right
    intro _
    split
    · -- This directive is the only one about the dimension, as the rest has to be free of it.
      simp only [findInterval_some_eq_ok_iff, true_and]
      constructor
      · rintro ⟨i, hi, hds, hnone, rfl⟩
        exact ⟨hds, .inr ⟨d, i, by rw [hnone], hi, rfl⟩⟩
      · rintro ⟨hds, ⟨hnil, -⟩ | ⟨d', i, hsole, hi, rfl⟩⟩
        · cases hnil
        · obtain ⟨rfl, hnone⟩ := List.cons_eq_cons.mp hsole
          exact ⟨i, hi, hds, hnone, rfl⟩
    · exact ih

/-- What the directives ask for: nothing, or what the only one about the dimension writes. -/
theorem requested?_eq_ok_iff :
    s.requested? α = .ok r ↔
      Labelled s.prefixes s.directives ∧
        ((s.about α = [] ∧ r = none) ∨ ∃ d i, s.about α = [d] ∧ Writes d i ∧ r = some i) :=
  findInterval_eq_ok_iff

/-- Directives in another order ask for the same. -/
theorem requested?_eq_ok_iff_of_perm {s' : Subsetting} (hps : s'.prefixes = s.prefixes)
    (hds : s'.directives.Perm s.directives) : s'.requested? α = .ok r ↔ s.requested? α = .ok r := by
  have habout : (s'.about α).Perm (s.about α) := by
    rw [about, about, hps]
    exact hds.filter _
  have hlabelled : Labelled s'.prefixes s'.directives ↔ Labelled s.prefixes s.directives := by
    simp only [Labelled, hps, hds.mem_iff]
  have hnone : s'.about α = [] ↔ s.about α = [] := by
    rw [← List.perm_nil, ← List.perm_nil, habout.congr_left]
  have hsole (d : Directive) : s'.about α = [d] ↔ s.about α = [d] := by
    rw [← List.perm_singleton, ← List.perm_singleton, habout.congr_left]
  simp only [requested?_eq_ok_iff, hlabelled, hnone, hsole]

/-! ### Faults -/

/-- Literals that are no values of the kind are reported as bad subsets. -/
def ReportsLiterals (α : Type) [Requestable α] : Prop :=
  ∀ literal e, (Requestable.ofLiteral literal : Except SubsetFault α) = .error e →
    ∃ text, e.toFault = .invalidSubsetting Fault.subsetLocator text

/-- A literal that is no time is reported as a bad subset. -/
theorem reportsLiterals_instant : ReportsLiterals Instant := by
  intro literal e h
  simp only [Requestable.ofLiteral] at h
  split at h
  · cases h
  · obtain rfl := Except.error.inj h
    exact ⟨_, rfl⟩

/-- A literal that is no elevation, or stands for no number, is reported as a bad subset. -/
theorem reportsLiterals_double : ReportsLiterals Double := by
  intro literal e h
  simp only [Requestable.ofLiteral] at h
  split at h
  · split at h
    · obtain rfl := Except.error.inj h
      exact ⟨_, rfl⟩
    · cases h
  · obtain rfl := Except.error.inj h
    exact ⟨_, rfl⟩

private theorem blamesSubset_of_axisName (h : axisName ps d = .error e) :
    e.toFault.BlamesSubset := by
  rw [axisName] at h
  split at h
  · cases h
  · obtain rfl := Except.error.inj h
    exact Fault.blamesSubset_of_eq (.inl rfl)

private theorem blamesSubset_of_interval (hα : ReportsLiterals α)
    (h : (interval d : Except SubsetFault (Interval α)) = .error e) : e.toFault.BlamesSubset := by
  rcases interval_eq_error h with ⟨literal, hliteral⟩ | ⟨low, high, rfl⟩
  · obtain ⟨text, htext⟩ := hα literal e hliteral
    exact Fault.blamesSubset_of_eq (.inr htext)
  · exact Fault.blamesSubset_of_eq (.inr rfl)

private theorem blamesSubset_of_findInterval (hα : ReportsLiterals α)
    (h : findInterval ps found ds = .error e) :
    e.toFault.BlamesSubset := by
  induction ds generalizing found with
  | nil => cases h
  | cons d ds ih =>
    rcases bind_eq_error_iff.mp h with hname | ⟨name, -, h⟩
    · exact blamesSubset_of_axisName hname
    · split at h
      · split at h
        · obtain rfl := Except.error.inj h
          exact Fault.blamesSubset_of_eq (.inr rfl)
        · rcases bind_eq_error_iff.mp h with hinterval | ⟨i, -, h⟩
          · exact blamesSubset_of_interval hα hinterval
          · exact ih h
      · exact ih h

/-! ### All outcomes -/

/-- What the directives of a request ask of a dimension: an interval exactly if all labels name axes
and one directive is about the dimension and writes it, nothing exactly if all labels name axes and
none is about it, and in all other cases a fault that blames the subsets. Directives in another
order ask for the same. -/
structure ReadsExactly (α : Type) [AxisValue α] [Requestable α] (s : Subsetting) : Prop where
  interval : ∀ i : Interval α,
    s.requested? α = .ok (some i) ↔
      Labelled s.prefixes s.directives ∧ ∃ d, s.about α = [d] ∧ Writes d i
  nothing : s.requested? α = .ok none ↔ Labelled s.prefixes s.directives ∧ s.about α = []
  fault :
    (∀ i : Interval α,
      ¬ (Labelled s.prefixes s.directives ∧ ∃ d, s.about α = [d] ∧ Writes d i)) →
    ¬ (Labelled s.prefixes s.directives ∧ s.about α = []) →
      ∃ e, s.requested? α = .error e ∧ e.toFault.BlamesSubset
  order : ∀ s' : Subsetting, s'.prefixes = s.prefixes → s'.directives.Perm s.directives →
    ∀ r, s'.requested? α = .ok r ↔ s.requested? α = .ok r

/-- Directives are read exactly for each kind of value whose bad literals are reported as bad
subsets. -/
theorem readsExactly_of_reportsLiterals (hα : ReportsLiterals α) (s : Subsetting) :
    s.ReadsExactly α where
  interval i := by
    simp only [requested?_eq_ok_iff, reduceCtorEq, and_false, false_or, Option.some.injEq]
    constructor
    · rintro ⟨hlabelled, d, j, hsole, hj, rfl⟩
      exact ⟨hlabelled, d, hsole, hj⟩
    · rintro ⟨hlabelled, d, hsole, hi⟩
      exact ⟨hlabelled, d, i, hsole, hi, rfl⟩
  nothing := by simp [requested?_eq_ok_iff]
  fault hinterval hnothing := by
    cases h : s.requested? α with
    | error e => exact ⟨e, rfl, blamesSubset_of_findInterval hα h⟩
    | ok r =>
      obtain ⟨hlabelled, ⟨hnone, -⟩ | ⟨d, i, hsole, hi, -⟩⟩ := requested?_eq_ok_iff.mp h
      · exact False.elim (hnothing ⟨hlabelled, hnone⟩)
      · exact False.elim (hinterval i ⟨hlabelled, d, hsole, hi⟩)
  order _ hps hds _ := requested?_eq_ok_iff_of_perm hps hds

/-- The directives of every request are read exactly, in time and in elevation. -/
theorem requested?_readsExactly (s : Subsetting) : s.ReadsExactly Instant ∧ s.ReadsExactly Double :=
  ⟨readsExactly_of_reportsLiterals reportsLiterals_instant s,
    readsExactly_of_reportsLiterals reportsLiterals_double s⟩

/-- A trim under an alias in capitals, behind a prefix and after a directive for another
dimension. -/
example :
    let year : Directive := .trim "http://www.opengis.net/def/axis/OGC/0/TIME" "2020" "2020-02"
    let s : Subsetting := { directives := [.slice "elevation" "5", year] }
    s.requested? Instant =
      .ok (some ⟨{ day := 18262, second := 0, nano := 0 },
        { day := 18293, second := 0, nano := 0 }⟩) := by
  decide +kernel

end Subsetting

end CoverageSubset

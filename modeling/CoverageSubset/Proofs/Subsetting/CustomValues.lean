import CoverageSubset.Proofs.Subsetting

/-!
# The values of custom dimensions

Directives are read from the first on, and a slice of a known name replaces what was found for it
before. A name may be written in several ways, plainly or behind one prefix or another, and all of
these count as the same name. Whether reading succeeds depends on each directive by itself, and what
it finds for a name on the slices of this name alone: the last of them counts. So directives of
different names can trade places.
-/

namespace CoverageSubset

/-- The value that a slice writes. -/
def Directive.point? : Directive → Option String
  | .slice _ point => some point
  | .trim _ _ _ => none

private theorem Directive.point?_eq_none_iff {d : Directive} :
    d.point? = none ↔ d.isTrim = true := by
  cases d <;> simp [point?, isTrim]

namespace Subsetting

variable {ps : AxisPrefixes} {known : List String} {found values : CustomValues} {name : String}
  {d : Directive} {ds ds' : List Directive} {s : Subsetting}

/-! ### Directives of one name -/

/-- The directives whose labels denote a name. -/
def directivesOn (ps : AxisPrefixes) (name : String) (ds : List Directive) : List Directive :=
  ds.filter fun d ↦ ps.name? d.axis == some name

/-- The values that the slices of a name write, in their order. -/
def points (ps : AxisPrefixes) (name : String) (ds : List Directive) : List String :=
  (directivesOn ps name ds).filterMap Directive.point?

/-- What directives give for a name: the value of the last slice, if the name is known and has a
slice. -/
def lastGiven? (ps : AxisPrefixes) (known : List String) (name : String) (ds : List Directive) :
    Option (List CustomValue) :=
  if name ∈ known then (points ps name ds).getLast?.map fun point ↦ [.ofLiteral point] else none

private theorem lastGiven?_append : lastGiven? ps known name (ds ++ ds') =
    (lastGiven? ps known name ds').or (lastGiven? ps known name ds) := by
  unfold lastGiven?
  split
  · simp only [points, directivesOn, List.filter_append, List.filterMap_append,
      List.getLast?_append, Option.map_or]
  · rfl

/-! ### One directive -/

/-- The name that the label of a directive denotes, if it is known. -/
def knownName? (ps : AxisPrefixes) (known : List String) (d : Directive) : Option String :=
  (ps.name? d.axis).filter (known.contains ·)

private theorem knownName?_eq_some_iff :
    knownName? ps known d = some name ↔ name ∈ known ∧ ps.name? d.axis = some name := by
  simp [knownName?, Option.filter_eq_some_iff, and_comm]

/-- The label of the directive denotes a name, and if this is known, the directive is a slice. -/
structure IsReadable (ps : AxisPrefixes) (known : List String) (d : Directive) : Prop where
  named : ps.name? d.axis ≠ none
  sliced : d.isTrim = true → knownName? ps known d = none

private theorem not_isReadable_iff :
    ¬ IsReadable ps known d ↔
      ps.name? d.axis = none ∨ d.isTrim = true ∧ ∃ name ∈ known, ps.name? d.axis = some name := by
  simp only [← knownName?_eq_some_iff, ← Option.ne_none_iff_exists']
  constructor
  · intro h
    by_contra hno
    obtain ⟨hnamed, hsliced⟩ := not_or.mp hno
    exact h ⟨hnamed, fun htrim ↦ by_contra fun hknown ↦ hsliced ⟨htrim, hknown⟩⟩
  · rintro (hnone | ⟨htrim, hknown⟩) h
    · exact h.named hnone
    · exact hknown (h.sliced htrim)

/-- The values after one directive, given those before it. -/
def take (ps : AxisPrefixes) (known : List String) (found : CustomValues) (d : Directive) :
    CustomValues :=
  match knownName? ps known d, d.point? with
  | some name, some point => found.insert name [.ofLiteral point]
  | _, _ => found

private theorem findCustom_cons_eq_ok_iff :
    findCustom ps known found (d :: ds) = .ok values ↔
      IsReadable ps known d ∧ findCustom ps known (take ps known found d) ds = .ok values := by
  rw [findCustom, axisName]
  cases haxis : ps.name? d.axis with
  | none =>
    have hunreadable : ¬ IsReadable ps known d := fun h ↦ h.named haxis
    simp [bind_eq_ok_iff, hunreadable]
  | some name =>
    have hnamed : ps.name? d.axis ≠ none := by simp [haxis]
    by_cases hmem : name ∈ known
    · have hknown : knownName? ps known d = some name := knownName?_eq_some_iff.mpr ⟨hmem, haxis⟩
      cases d with
      | trim axis low high =>
        have hunreadable : ¬ IsReadable ps known (.trim axis low high) := by
          intro h
          rw [h.sliced rfl] at hknown
          cases hknown
        simp [bind_eq_ok_iff, hmem, hunreadable]
      | slice axis point =>
        have hreadable : IsReadable ps known (.slice axis point) :=
          ⟨hnamed, fun htrim ↦ absurd htrim Bool.false_ne_true⟩
        simp [bind_eq_ok_iff, hmem, hreadable, take, hknown, Directive.point?]
    · have hunknown : knownName? ps known d = none := by simp [knownName?, haxis, hmem]
      have hreadable : IsReadable ps known d := ⟨hnamed, fun _ ↦ hunknown⟩
      simp [bind_eq_ok_iff, hmem, hreadable, take, hunknown]

private theorem lastGiven?_singleton : lastGiven? ps known name [d] =
    if knownName? ps known d = some name then d.point?.map fun point ↦
      [.ofLiteral point] else none := by
  simp only [knownName?_eq_some_iff, lastGiven?]
  by_cases haxis : ps.name? d.axis = some name
  · cases hpoint : d.point? <;> simp [points, directivesOn, haxis, hpoint]
  · simp [points, directivesOn, haxis]

private theorem getElem?_take (found : CustomValues) :
    (take ps known found d)[name]? = (lastGiven? ps known name [d]).or found[name]? := by
  rw [lastGiven?_singleton, take]
  cases knownName? ps known d with
  | none => rfl
  | some axis =>
    cases d.point? with
    | none => simp
    | some point =>
      rw [Std.ExtTreeMap.getElem?_insert]
      by_cases heq : axis = name <;> simp [heq]

/-! ### All directives -/

/-- Directives are read to the end exactly if each of them is readable, and then each adds what it
gives. -/
theorem findCustom_eq_ok_iff :
    findCustom ps known found ds = .ok values ↔
      (∀ d ∈ ds, IsReadable ps known d) ∧ ds.foldl (take ps known) found = values := by
  induction ds generalizing found with
  | nil => simp [findCustom]
  | cons d ds ih =>
    rw [findCustom_cons_eq_ok_iff, ih, List.forall_mem_cons, List.foldl_cons, and_assoc]

private theorem getElem?_foldl_take (ds : List Directive) (found : CustomValues) :
    (ds.foldl (take ps known) found)[name]? = (lastGiven? ps known name ds).or found[name]? := by
  induction ds generalizing found with
  | nil => simp [lastGiven?, points, directivesOn]
  | cons d ds ih =>
    rw [List.foldl_cons, ih, getElem?_take, ← Option.or_assoc, ← lastGiven?_append,
      List.singleton_append]

private theorem foldl_take_eq_iff :
    ds.foldl (take ps known) ∅ = values ↔ ∀ name, values[name]? = lastGiven? ps known name ds := by
  have hfold (name : String) : (ds.foldl (take ps known) ∅)[name]? =
      lastGiven? ps known name ds := by
    rw [getElem?_foldl_take, Std.ExtTreeMap.getElem?_empty, Option.or_none]
  constructor
  · rintro rfl name
    exact hfold name
  · intro h
    exact Std.ExtTreeMap.ext_getElem? fun name ↦ (hfold name).trans (h name).symm

/-- Custom dimensions get the values given last, if every directive is readable or no name is
known. -/
theorem customValues_eq_ok_iff :
    s.customValues known = .ok values ↔
      (known ≠ [] → ∀ d ∈ s.directives, IsReadable s.prefixes known d) ∧
        ∀ name, values[name]? = lastGiven? s.prefixes known name s.directives := by
  rw [customValues, ← foldl_take_eq_iff]
  split
  · next hempty =>
    obtain rfl := List.isEmpty_iff.mp hempty
    have hnothing : s.directives.foldl (take s.prefixes []) ∅ = ∅ :=
      foldl_take_eq_iff.mpr fun name ↦ by simp [lastGiven?]
    simp [hnothing]
  · next hsome =>
    have hknown : known ≠ [] := fun hnil ↦ hsome (List.isEmpty_iff.mpr hnil)
    simp only [findCustom_eq_ok_iff, hknown, ne_eq, not_false_eq_true, true_imp_iff]

/-- Custom dimensions cannot be read exactly if some name is known and some directive is not
readable. -/
theorem exists_customValues_eq_error_iff :
    (∃ e, s.customValues known = .error e) ↔
      known ≠ [] ∧ ∃ d ∈ s.directives, ¬ IsReadable s.prefixes known d := by
  have hok : (∃ values, s.customValues known = .ok values) ↔
      (known ≠ [] → ∀ d ∈ s.directives, IsReadable s.prefixes known d) := by
    constructor
    · rintro ⟨values, hvalues⟩
      exact (customValues_eq_ok_iff.mp hvalues).1
    · intro hreadable
      exact ⟨_, customValues_eq_ok_iff.mpr ⟨hreadable, foldl_take_eq_iff.mp rfl⟩⟩
  rw [exists_eq_error_iff, hok]
  simp only [Classical.not_imp, not_forall]

private theorem isSome_lastGiven?_iff (h : known ≠ [] → ∀ d ∈ ds, IsReadable ps known d) :
    (lastGiven? ps known name ds).isSome = true ↔
      name ∈ known ∧ ∃ d ∈ ds, ps.name? d.axis = some name := by
  rw [lastGiven?]
  split
  · next hname =>
    rw [Option.isSome_map, List.getLast?_isSome, ← List.isEmpty_eq_false_iff,
      List.isEmpty_eq_false_iff_exists_mem, and_iff_right hname]
    simp only [points, directivesOn, List.mem_filterMap, List.mem_filter, beq_iff_eq]
    constructor
    · rintro ⟨-, d, ⟨hd, haxis⟩, -⟩
      exact ⟨d, hd, haxis⟩
    · rintro ⟨d, hd, haxis⟩
      have hpoint : d.point? ≠ none := by
        intro hnone
        have htrim := Directive.point?_eq_none_iff.mp hnone
        have hunknown := (h (List.ne_nil_of_mem hname) d hd).sliced htrim
        rw [knownName?_eq_some_iff.mpr ⟨hname, haxis⟩] at hunknown
        cases hunknown
      obtain ⟨point, hpoint⟩ := Option.ne_none_iff_exists'.mp hpoint
      exact ⟨point, d, ⟨hd, haxis⟩, hpoint⟩
  · next hname => simp [hname]

/-! ### All outcomes -/

/-- The values of custom dimensions depend on which directives there are and, for each name, on the
last slice of it. -/
structure ReadsCustomExactly (s : Subsetting) (known : List String) : Prop where
  /-- Reading fails at a label that denotes no name and at a trim on a known one, wherever it
  stands. -/
  fault : (∃ e, s.customValues known = .error e) ↔
    known ≠ [] ∧ ∃ d ∈ s.directives, s.prefixes.name? d.axis = none ∨
      d.isTrim = true ∧ ∃ name ∈ known, s.prefixes.name? d.axis = some name
  names : ∀ values, s.customValues known = .ok values →
    ∀ name, name ∈ values ↔ name ∈ known ∧ ∃ d ∈ s.directives, s.prefixes.name? d.axis = some name
  value : ∀ values, s.customValues known = .ok values → ∀ name ∈ known,
    values[name]? = (points s.prefixes name s.directives).getLast?.map fun point ↦
      [.ofLiteral point]
  /-- Directives of different names can trade places. -/
  order : ∀ s' : Subsetting, s'.prefixes = s.prefixes → s'.directives.Perm s.directives →
    (∀ name, directivesOn s.prefixes name s'.directives =
      directivesOn s.prefixes name s.directives) →
      ∀ values, s'.customValues known = .ok values ↔ s.customValues known = .ok values

/-- The values of the custom dimensions of every request are read exactly, whatever names are
known. -/
theorem customValues_readsCustomExactly (s : Subsetting) (known : List String) :
    s.ReadsCustomExactly known where
  fault := by
    rw [exists_customValues_eq_error_iff]
    simp only [not_isReadable_iff]
  names values hvalues name := by
    obtain ⟨hreadable, hget⟩ := customValues_eq_ok_iff.mp hvalues
    rw [Std.ExtTreeMap.mem_iff_isSome_getElem?, hget, isSome_lastGiven?_iff hreadable]
  value values hvalues name hname := by
    rw [(customValues_eq_ok_iff.mp hvalues).2, lastGiven?, if_pos hname]
  order s' hps hds hon values := by
    have hgiven (name : String) : lastGiven? s.prefixes known name s'.directives =
        lastGiven? s.prefixes known name s.directives := by
      rw [lastGiven?, lastGiven?, points, points, hon]
    simp only [customValues_eq_ok_iff, hps, hds.mem_iff, hgiven]

/-- Of two slices of one name the last counts, though the two write the name in different ways. -/
example :
    let s : Subsetting :=
      { directives := [.slice "BANDS" "red", .trim "time" "2020" "2021",
          .slice "http://www.opengis.net/def/axis/OGC/0/BANDS" "7"] }
    (s.customValues ["BANDS", "time-zone"]).toOption.map Std.ExtTreeMap.toList =
      some [("BANDS", [.integer 7])] := by
  decide +kernel

end Subsetting

end CoverageSubset

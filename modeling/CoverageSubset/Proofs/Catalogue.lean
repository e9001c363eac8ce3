import CoverageSubset.Catalogue.Basic

/-!
# Valid catalogues

Exactly those catalogues are accepted that have no blank name and no full name twice, so a full name
stands for one coverage. That coverage is found by it, whatever plain names the others have: a plain
name is only looked for where no full name fits, and then finds the first coverage that has it.
-/

namespace CoverageSubset.Catalogue

variable {c : Catalogue}

/-! ### Acceptance -/

/-- Coverages pass the check if no name is blank and no full name comes twice or before them. -/
theorem checkNames_eq_ok_iff (seen : List String) (coverages : List Coverage) :
    checkNames seen coverages = .ok () ↔
      (∀ v ∈ coverages, Text.strip v.name ≠ "") ∧ (coverages.map Coverage.fullName).Nodup ∧
        ∀ v ∈ coverages, v.fullName ∉ seen := by
  induction coverages generalizing seen with
  | nil => simp [checkNames]
  | cons v rest ih =>
    rw [checkNames]
    split
    · next hblank => simp [hblank]
    · next hname =>
      split
      · next hseen => simp [hseen]
      · next hnew =>
        rw [ih, List.map_cons, List.nodup_cons, List.forall_mem_cons, List.forall_mem_cons]
        constructor
        · rintro ⟨hnames, hnodup, hlater⟩
          refine ⟨⟨hname, hnames⟩, ⟨?_, hnodup⟩, hnew,
            fun w hw hseen ↦ hlater w hw (List.mem_cons_of_mem _ hseen)⟩
          intro hmem
          obtain ⟨w, hw, hsame⟩ := List.mem_map.mp hmem
          exact hlater w hw (hsame ▸ List.mem_cons_self)
        · rintro ⟨⟨-, hnames⟩, ⟨hfirst, hnodup⟩, -, hrest⟩
          refine ⟨hnames, hnodup, fun w hw hmem ↦ ?_⟩
          obtain hsame | hseen := List.mem_cons.mp hmem
          · exact hfirst (hsame ▸ List.mem_map_of_mem hw)
          · exact hrest w hw hseen

/-- A catalogue is accepted exactly if no name is blank and no full name comes twice. -/
theorem checked_eq_ok_iff :
    c.checked = .ok c ↔
      (∀ v ∈ c.coverages, Text.strip v.name ≠ "") ∧ (c.coverages.map Coverage.fullName).Nodup := by
  have hnames := checkNames_eq_ok_iff [] c.coverages
  simp only [List.not_mem_nil, not_false_eq_true, implies_true, and_true] at hnames
  rw [← hnames, checked]
  cases checkNames [] c.coverages with
  | error e => simp [Except.map]
  | ok u => simp [Except.map]

/-- No coverage of an accepted catalogue has the full name of one before it. -/
theorem fullName_ne_of_mem_before {v w : Coverage} {before after : List Coverage}
    (hc : c.checked = .ok c)
    (hsplit : c.coverages = before ++ v :: after) (hw : w ∈ before) : w.fullName ≠ v.fullName := by
  have hnodup := (checked_eq_ok_iff.mp hc).2
  rw [hsplit, List.map_append, List.map_cons] at hnodup
  exact (List.nodup_append.mp hnodup).2.2 _ (List.mem_map_of_mem hw) _ List.mem_cons_self

/-! ### Finding a coverage -/

variable {name : String} {v : Coverage}

/-- Some coverage has the full name. -/
def HasFullName (c : Catalogue) (name : String) : Prop := ∃ v ∈ c.coverages, v.fullName = name

/-- The coverage is the first one of a plain name. -/
def IsFirstNamed (c : Catalogue) (name : String) (v : Coverage) : Prop :=
  ∃ before after, c.coverages = before ++ v :: after ∧ v.name = name ∧ ∀ w ∈ before, w.name ≠ name

private theorem find?_of_fullName (h : c.coverages.find? (fun w ↦ w.fullName == name) = some v) :
    c.find? name = some v := by
  rw [find?, h, Option.some_or]

private theorem find?_of_not_hasFullName (h : ¬ c.HasFullName name) :
    c.find? name = c.coverages.find? fun w ↦ w.name == name := by
  have hnone : c.coverages.find? (fun w ↦ w.fullName == name) = none := by
    rw [List.find?_eq_none]
    intro w hw hsame
    exact h ⟨w, hw, beq_iff_eq.mp hsame⟩
  rw [find?, hnone, Option.none_or]

private theorem find?_fullName (hc : c.checked = .ok c) (hv : v ∈ c.coverages) :
    c.find? v.fullName = some v := by
  obtain ⟨before, after, hsplit⟩ := List.append_of_mem hv
  apply find?_of_fullName
  rw [List.find?_eq_some_iff_append]
  refine ⟨beq_self_eq_true _, before, after, hsplit, fun w hw ↦ ?_⟩
  rw [Bool.not_eq_true', beq_eq_false_iff_ne]
  exact fullName_ne_of_mem_before hc hsplit hw

/-- Where no full name fits, exactly the first coverage of the plain name is found. -/
theorem find?_eq_some_iff_isFirstNamed (h : ¬ c.HasFullName name) :
    c.find? name = some v ↔ c.IsFirstNamed name v := by
  rw [find?_of_not_hasFullName h, List.find?_eq_some_iff_append]
  simp only [beq_iff_eq, Bool.not_eq_true', beq_eq_false_iff_ne, IsFirstNamed]
  constructor
  · rintro ⟨hname, before, after, hsplit, hbefore⟩
    exact ⟨before, after, hsplit, hname, hbefore⟩
  · rintro ⟨before, after, hsplit, hname, hbefore⟩
    exact ⟨hname, before, after, hsplit, hbefore⟩

private theorem find?_eq_none_iff_of_not_hasFullName (h : ¬ c.HasFullName name) :
    c.find? name = none ↔ ∀ v ∈ c.coverages, v.name ≠ name := by
  rw [find?_of_not_hasFullName h, List.find?_eq_none]
  simp only [beq_iff_eq, ne_eq]

/-- Coverages are found by their full names, and where none fits, the first one by its plain
name. -/
structure FindsByName (c : Catalogue) : Prop where
  full : ∀ v ∈ c.coverages, c.find? v.fullName = some v
  plain : ∀ name, ¬ c.HasFullName name → ∀ v, c.find? name = some v ↔ c.IsFirstNamed name v
  unknown : ∀ name, ¬ c.HasFullName name → (c.find? name = none ↔ ∀ v ∈ c.coverages, v.name ≠ name)

/-- Exactly the catalogues without blank names and repeated full names are accepted, and these find
every coverage by its full name and the first one by any other name that it goes by. -/
theorem checked_findsByName (c : Catalogue) :
    (c.checked = .ok c ↔
      (∀ v ∈ c.coverages, Text.strip v.name ≠ "") ∧ c.coverages.Pairwise fun v w ↦
        v.fullName ≠ w.fullName) ∧
      (c.checked = .ok c → c.FindsByName) := by
  constructor
  · rw [checked_eq_ok_iff, List.Nodup, List.pairwise_map]
  · intro hc
    exact ⟨fun v ↦ find?_fullName hc, fun name h v ↦ find?_eq_some_iff_isFirstNamed h,
      fun name ↦ find?_eq_none_iff_of_not_hasFullName⟩

/-- A coverage is found behind one that has its full name as plain name, and behind another of its
own plain name; of two coverages of one plain name, the first is found by it. -/
theorem checked_findsByName_behind_plain_names :
    let day : Coverage := ⟨"eo:sst", some "day", false, false, .none⟩
    let sst : Coverage := ⟨"sst", some "eo", false, false, .none⟩
    let plain : Coverage := ⟨"sst", none, false, false, .none⟩
    let near : Coverage := ⟨"chl", some "eo", false, false, .none⟩
    let far : Coverage := ⟨"chl", some "na", false, false, .none⟩
    let catalogue : Catalogue := ⟨none, [], [day, sst, plain, near, far]⟩
    catalogue.checked = .ok catalogue ∧ catalogue.find? "eo:sst" = some sst ∧
      catalogue.find? "sst" = some plain ∧
      catalogue.find? "chl" = some near ∧ catalogue.find? "dem" = none := by
  intro day sst plain near far catalogue
  have hc : catalogue.checked = .ok catalogue :=
    (checked_findsByName catalogue).1.mpr (by decide +kernel)
  have hfinds := (checked_findsByName catalogue).2 hc
  have hunused (name : String) (h : ∀ v ∈ catalogue.coverages, v.fullName ≠ name) :
    ¬ catalogue.HasFullName name := by
    rintro ⟨v, hv, hname⟩
    exact h v hv hname
  refine ⟨hc, hfinds.full sst (by decide), hfinds.full plain (by decide), ?_, ?_⟩
  · rw [hfinds.plain "chl" (hunused "chl" (by decide +kernel))]
    exact ⟨[day, sst, plain], [far], rfl, rfl, by decide⟩
  · rw [hfinds.unknown "dem" (hunused "dem" (by decide +kernel))]
    decide

end CoverageSubset.Catalogue

import CoverageSubset.Subsetting

/-!
# What axis labels denote

The prefixes of axis labels are the built-in ones and then the others, each once and in the order in
which they are first given. Only the first prefix that a label starts with counts, whatever other
prefixes it or the rest starts with: the rest is the name of the axis, and so is the label itself if
no prefix fits. A label denotes nothing exactly if it is empty or is its first prefix.
-/

namespace CoverageSubset

/-! ### Beginnings of a text -/

namespace Text

/-- A text begins with another. -/
def Begins (start s : String) : Prop := ∃ rest, s = start ++ rest

private theorem isSome_afterStart?_iff {start s : String} :
    (afterStart? start s).isSome = true ↔ Begins start s := by
  simp only [Option.isSome_iff_exists, afterStart?_eq_some_iff, Begins]

private theorem afterStart?_eq_none_iff {start s : String} :
    afterStart? start s = none ↔ ¬ Begins start s := by
  rw [← isSome_afterStart?_iff, Option.not_isSome_iff_eq_none]

instance (start s : String) : Decidable (Begins start s) :=
  decidable_of_iff _ isSome_afterStart?_iff

end Text

namespace AxisPrefixes

variable {ps : AxisPrefixes} {known extra : List String} {p label name : String}

/-! ### The prefixes in order -/

private theorem foldl_add_of_known (h : ∀ p ∈ extra, p = "" ∨ p ∈ known) :
    extra.foldl add known = known := by
  induction extra with
  | nil => rfl
  | cons p extra ih =>
    obtain ⟨hp, hextra⟩ := List.forall_mem_cons.mp h
    rw [List.foldl_cons, add, if_pos hp]
    exact ih hextra

/-- Adding prefixes appends those that are neither empty nor known, each at its first place. -/
theorem foldl_add (known extra : List String) :
    extra.foldl add known = known ++ (extra.filter fun p ↦ p ≠ "" ∧ p ∉ known).eraseDups := by
  induction extra generalizing known with
  | nil => simp
  | cons p extra ih =>
    rw [List.foldl_cons, add]
    by_cases hp : p = "" ∨ p ∈ known
    · have hskip : ¬ (p ≠ "" ∧ p ∉ known) := by
        rintro ⟨hne, hnew⟩
        exact hp.elim hne hnew
      rw [if_pos hp, ih, List.filter_cons_of_neg (by simpa using hskip)]
    · obtain ⟨hne, hnew⟩ := not_or.mp hp
      -- Once added, the prefix is known, so its repetitions go.
      have hrest : extra.filter (fun q ↦ q ≠ "" ∧ q ∉ known ++ [p]) =
          (extra.filter fun q ↦ q ≠ "" ∧ q ∉ known).filter fun q ↦ !q == p := by
        rw [List.filter_filter]
        apply List.filter_congr
        intro q _
        rw [Bool.eq_iff_iff]
        simp only [List.mem_append, List.mem_singleton, not_or, Bool.and_eq_true, decide_eq_true_eq,
          Bool.not_eq_true', beq_eq_false_iff_ne]
        rw [← and_assoc, and_comm]
      rw [if_neg hp, ih, hrest, List.filter_cons_of_pos (by simpa using ⟨hne, hnew⟩),
        List.eraseDups_cons]
      simp

/-- The prefixes are the built-in ones and then the others that are not empty, each at its first
place. -/
theorem list_withExtra (extra : List String) :
    (withExtra extra).list = builtin ++ (extra.filter fun p ↦ p ≠ "" ∧ p ∉ builtin).eraseDups :=
  foldl_add builtin extra

private theorem mem_list_withExtra :
    p ∈ (withExtra extra).list ↔ p ∈ builtin ∨ p ∈ extra ∧ p ≠ "" := by
  simp only [list_withExtra, List.mem_append, List.mem_eraseDups, List.mem_filter,
    decide_eq_true_eq]
  constructor
  · rintro (hbuiltin | ⟨hmem, hne, -⟩)
    · exact .inl hbuiltin
    · exact .inr ⟨hmem, hne⟩
  · rintro (hbuiltin | ⟨hmem, hne⟩)
    · exact .inl hbuiltin
    · by_cases hbuiltin : p ∈ builtin
      · exact .inl hbuiltin
      · exact .inr ⟨hmem, hne, hbuiltin⟩

private theorem withExtra_append_append {before added after : List String}
    (h : ∀ p ∈ added, p = "" ∨ p ∈ builtin ∨ p ∈ before) :
    withExtra (before ++ (added ++ after)) = withExtra (before ++ after) := by
  have hknown : ∀ p ∈ added, p = "" ∨ p ∈ (withExtra before).list := by
    intro p hp
    by_cases hempty : p = ""
    · exact .inl hempty
    · have hlisted := (h p hp).resolve_left hempty
      exact .inr (mem_list_withExtra.mpr (hlisted.imp_right fun hbefore ↦ ⟨hbefore, hempty⟩))
  have hkept : added.foldl add (before.foldl add builtin) = before.foldl add builtin :=
    foldl_add_of_known hknown
  rw [withExtra, withExtra, List.foldl_append, List.foldl_append, List.foldl_append, hkept]

private theorem exists_list_withExtra_append (extra more : List String) :
    ∃ behind, (withExtra (extra ++ more)).list = (withExtra extra).list ++ behind := by
  rw [withExtra, List.foldl_append]
  exact ⟨_, foldl_add _ more⟩

/-! ### The first prefix that fits -/

/-- The prefix is the first one that the label begins with. -/
def IsFirst (ps : AxisPrefixes) (label p : String) : Prop :=
  Text.Begins p label ∧
    ∃ before after, ps.list = before ++ p :: after ∧ ∀ q ∈ before, ¬ Text.Begins q label

/-- No prefix fits the label. -/
def FitsNone (ps : AxisPrefixes) (label : String) : Prop := ∀ p ∈ ps.list, ¬ Text.Begins p label

/-- The label denotes the axis of a name: it is the name behind the first prefix that fits, or the
name alone if none does. -/
structure Denotes (ps : AxisPrefixes) (label name : String) : Prop where
  ne_empty : name ≠ ""
  eq : (∃ p, ps.IsFirst label p ∧ label = p ++ name) ∨ ps.FitsNone label ∧ name = label

private theorem findSome?_afterStart?_eq_some_iff {rest : String} :
    (ps.list.findSome? fun p ↦ Text.afterStart? p label) = some rest ↔
      ∃ p, ps.IsFirst label p ∧ label = p ++ rest := by
  simp only [List.findSome?_eq_some_iff, Text.afterStart?_eq_some_iff, Text.afterStart?_eq_none_iff]
  constructor
  · rintro ⟨before, p, after, hsplit, hlabel, hbefore⟩
    exact ⟨p, ⟨⟨rest, hlabel⟩, before, after, hsplit, hbefore⟩, hlabel⟩
  · rintro ⟨p, ⟨-, before, after, hsplit, hbefore⟩, hlabel⟩
    exact ⟨before, p, after, hsplit, hlabel, hbefore⟩

private theorem findSome?_afterStart?_eq_none_iff :
    (ps.list.findSome? fun p ↦ Text.afterStart? p label) = none ↔ ps.FitsNone label := by
  simp only [List.findSome?_eq_none_iff, Text.afterStart?_eq_none_iff, FitsNone]

/-- A label is stripped to what is behind its first prefix, or to itself if none fits. -/
theorem strip_eq_iff :
    ps.strip label = name ↔ (∃ p, ps.IsFirst label p ∧ label = p ++ name) ∨ ps.FitsNone label ∧
      name = label := by
  rw [strip, ← findSome?_afterStart?_eq_some_iff, ← findSome?_afterStart?_eq_none_iff]
  cases ps.list.findSome? fun p ↦ Text.afterStart? p label with
  | none => simp [eq_comm]
  | some rest => simp

private theorem strip_empty : ps.strip "" = "" := by
  cases hrest : ps.list.findSome? fun p ↦ Text.afterStart? p "" with
  | none => rw [strip, hrest, Option.getD_none]
  | some rest =>
    obtain ⟨p, -, hlabel⟩ := findSome?_afterStart?_eq_some_iff.mp hrest
    rw [strip, hrest, Option.getD_some]
    exact (String.append_eq_empty_iff.mp hlabel.symm).2

/-- A label has a name exactly if it denotes an axis of that name. -/
theorem name?_eq_some_iff : ps.name? label = some name ↔ ps.Denotes label name := by
  rw [name?, Option.ite_none_left_eq_some, Option.some.injEq]
  constructor
  · rintro ⟨hne, rfl⟩
    exact ⟨hne, strip_eq_iff.mp rfl⟩
  · rintro ⟨hne, heq⟩
    obtain rfl := strip_eq_iff.mpr heq
    exact ⟨hne, rfl⟩

/-- A label has no name exactly if it is empty or its first prefix. -/
theorem name?_eq_none_iff : ps.name? label = none ↔ label = "" ∨ ps.IsFirst label label := by
  have hempty : ps.name? label = none ↔ ps.strip label = "" := by
    rw [name?]
    split <;> simp_all
  rw [hempty, strip_eq_iff]
  constructor
  · rintro (⟨p, hfirst, hlabel⟩ | ⟨-, hlabel⟩)
    · rw [String.append_empty] at hlabel
      exact .inr (hlabel ▸ hfirst)
    · exact .inl hlabel.symm
  · rintro (rfl | hfirst)
    · rw [← strip_eq_iff]
      exact strip_empty
    · exact .inl ⟨label, hfirst, String.append_empty.symm⟩

private theorem name?_eq_of_list_append {ps' : AxisPrefixes} {behind : List String}
    (hlist : ps'.list = ps.list ++ behind)
    (hfits : ¬ ps.FitsNone label) : ps'.name? label = ps.name? label := by
  have hstrip : ps'.strip label = ps.strip label := by
    rw [← findSome?_afterStart?_eq_none_iff, ← ne_eq, Option.ne_none_iff_exists'] at hfits
    obtain ⟨rest, hrest⟩ := hfits
    rw [strip, strip, hlist, List.findSome?_append, hrest, Option.some_or]
  rw [name?, name?, hstrip]

/-! ### Labels of directives -/

variable {d : Directive}

/-- A directive is about the axis that its label denotes. -/
theorem axisName_eq_ok_iff : Subsetting.axisName ps d = .ok name ↔ ps.Denotes d.axis name := by
  rw [← name?_eq_some_iff, Subsetting.axisName]
  cases ps.name? d.axis <;> simp

/-- A directive is refused exactly if nothing is left of its label, which is reported. -/
theorem axisName_eq_error_iff {e : SubsetFault} :
    Subsetting.axisName ps d = .error e ↔
      e = .emptyLabel d.axis ∧ (d.axis = "" ∨ ps.IsFirst d.axis d.axis) := by
  rw [← name?_eq_none_iff, Subsetting.axisName]
  cases ps.name? d.axis <;> simp [eq_comm]

/-- The axis of every label is read by the first prefix that fits. -/
structure ReadsLabels (ps : AxisPrefixes) : Prop where
  denotes : ∀ (d : Directive) (name : String), Subsetting.axisName ps d = .ok name ↔
    ps.Denotes d.axis name
  refuses : ∀ (d : Directive) (e : SubsetFault),
    Subsetting.axisName ps d = .error e ↔
      e = .emptyLabel d.axis ∧ (d.axis = "" ∨ ps.IsFirst d.axis d.axis)

/-- Labels are read by the built-in prefixes and then by the others, each once and in the order in
which they are first given. Empty, built-in and repeated prefixes make no difference, nor do further
ones to a label that some prefix fits. -/
theorem withExtra_readsLabels (extra : List String) :
    (withExtra extra).list = builtin ++ (extra.filter fun p ↦ p ≠ "" ∧ p ∉ builtin).eraseDups ∧
      (withExtra extra).ReadsLabels ∧
      (∀ before added after : List String, extra = before ++ after →
        (∀ p ∈ added, p = "" ∨ p ∈ builtin ∨ p ∈ before) →
          withExtra (before ++ (added ++ after)) = withExtra extra) ∧
      ∀ (more : List String) (d : Directive), ¬ (withExtra extra).FitsNone d.axis →
        Subsetting.axisName (withExtra (extra ++ more)) d =
          Subsetting.axisName (withExtra extra) d := by
  refine ⟨list_withExtra extra, ⟨fun d name ↦ axisName_eq_ok_iff, fun d e ↦ axisName_eq_error_iff⟩,
    ?_, ?_⟩
  · rintro before added after rfl hadded
    exact withExtra_append_append hadded
  · intro more d hfits
    obtain ⟨behind, hlist⟩ := exists_list_withExtra_append extra more
    rw [Subsetting.axisName, Subsetting.axisName, name?_eq_of_list_append hlist hfits]

/-- Of two prefixes of which one begins with the other, the first one given counts, even where the
other would leave a shorter name; a label that is its first prefix is refused although a later one
would leave something of it. -/
theorem withExtra_readsLabels_overlapping :
    let extra := ["urn:eo:", "urn:", "urn:eo:axis:"]
    let axis (label : String) : Directive := .slice label ""
    withExtra ["urn:eo:", "", "http://opengis.net/def/axis/OGC/0/", "urn:", "urn:eo:",
      "urn:eo:axis:"] = withExtra extra ∧
      Subsetting.axisName (withExtra extra) (axis "urn:eo:axis:time") = .ok "axis:time" ∧
      Subsetting.axisName (withExtra extra) (axis "urn:eo:") = .error (.emptyLabel "urn:eo:") ∧
      Subsetting.axisName (withExtra (extra ++ ["urn:eo:axis:t"])) (axis "urn:eo:axis:time") =
        .ok "axis:time" := by
  intro extra axis
  obtain ⟨-, hreads, hadded, hmore⟩ := withExtra_readsLabels extra
  have hsplit : (withExtra extra).list = builtin ++ "urn:eo:" :: ["urn:", "urn:eo:axis:"] := by
    decide +kernel
  have hfirst (label : String) (hlabel : Text.Begins "urn:eo:" label)
    (hbuiltin : ∀ q ∈ builtin, ¬ Text.Begins q label) :
      (withExtra extra).IsFirst label "urn:eo:" := ⟨hlabel, _, _, hsplit, hbuiltin⟩
  have htime := hfirst "urn:eo:axis:time" (by decide +kernel) (by decide +kernel)
  have hread : Subsetting.axisName (withExtra extra) (axis "urn:eo:axis:time") = .ok "axis:time" :=
    (hreads.denotes _ _).mpr ⟨by decide, .inl ⟨_, htime, by decide +kernel⟩⟩
  have hfits : ¬ (withExtra extra).FitsNone "urn:eo:axis:time" :=
    fun h ↦ h "urn:eo:" (by decide +kernel) htime.1
  refine ⟨?_, hread, ?_, (hmore ["urn:eo:axis:t"] (axis _) hfits).trans hread⟩
  · calc
      withExtra ["urn:eo:", "", "http://opengis.net/def/axis/OGC/0/", "urn:", "urn:eo:",
          "urn:eo:axis:"]
      _ = withExtra ["urn:eo:", "", "http://opengis.net/def/axis/OGC/0/", "urn:", "urn:eo:axis:"] :=
        (withExtra_readsLabels _).2.2.1
          ["urn:eo:", "", "http://opengis.net/def/axis/OGC/0/", "urn:"] ["urn:eo:"] ["urn:eo:axis:"]
          rfl (by decide)
      _ = withExtra extra :=
        hadded ["urn:eo:"] ["", "http://opengis.net/def/axis/OGC/0/"] _ rfl (by decide)
  · exact (hreads.refuses _ _).mpr ⟨rfl,
      .inr (hfirst "urn:eo:" (by decide +kernel) (by decide +kernel))⟩

end AxisPrefixes

end CoverageSubset

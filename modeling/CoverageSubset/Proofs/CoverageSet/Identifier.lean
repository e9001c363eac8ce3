import CoverageSubset.CoverageSet.Identifier
import CoverageSubset.Proofs.Catalogue
import CoverageSubset.Proofs.Text.Separators

/-!
# What an identifier finds

An identifier finds the first coverage of its stem, if that is a series. Full names are distinct in
a catalogue, but stems need not be: the two underscores that separate a workspace from a name may
also belong to either of them. A series is hidden by a coverage before it whose stem is the same
text read in another way. Where the first two underscores of every stem are the separator, there is
one way only, and every series is found.
-/

namespace CoverageSubset

section Pairs

variable {α : Type} {u : α} {front back front' back' : List α}

/-- The parts around a pair and those around a later pair of the same list. The pairs share an item,
or the later one lies behind the other. -/
def LaterPair (u : α) (front back front' back' : List α) : Prop :=
  front' = front ++ [u] ∧ back = u :: back' ∨
    ∃ middle, front' = front ++ u :: u :: middle ∧ back = middle ++ u :: u :: back'

private theorem laterPair_iff :
    LaterPair u front back front' back' ↔ LaterSeparator [u, u] front back front' back' := Iff.rfl

private theorem append_pair_eq_iff :
    front ++ u :: u :: back = front' ++ u :: u :: back' ↔
      front = front' ∧ back = back' ∨ LaterPair u front back front' back' ∨
        LaterPair u front' back' front back :=
  (overlapsInOne_pair u).append_eq_iff

/-- In front of a later pair, the earlier one has begun. -/
theorem LaterPair.isInfix (h : LaterPair u front back front' back') : [u, u] <:+: front' ++ [u] :=
  (laterPair_iff.mp h).isInfix rfl

end Pairs

namespace Coverage

variable {v w : Coverage} {id : String}

/-- The stems are the same text, but the workspaces and names in them are not. -/
def Shadows (w v : Coverage) : Prop :=
  match w.workspace, v.workspace with
  | none, none => False
  | none, some workspace => w.name = workspace ++ "__" ++ v.name
  | some workspace, none => v.name = workspace ++ "__" ++ w.name
  | some workspace, some workspace' =>
    LaterPair '_' workspace.toList w.name.toList workspace'.toList v.name.toList ∨
      LaterPair '_' workspace'.toList v.name.toList workspace.toList w.name.toList

/-- Two coverages with one stem have one workspace and name, or one shadows the other. -/
theorem stem_eq_iff :
    w.stem = v.stem ↔ w.workspace = v.workspace ∧ w.name = v.name ∨ w.Shadows v := by
  unfold stem Shadows
  cases w.workspace with
  | none =>
    cases v.workspace with
    | none => simp
    | some workspace' => simp
  | some workspace =>
    cases v.workspace with
    | none => simp [eq_comm]
    | some workspace' =>
      have hpair : "__".toList = ['_', '_'] := rfl
      simp only [← String.toList_inj, String.toList_append, hpair, List.append_assoc,
        List.cons_append, List.nil_append, append_pair_eq_iff, Option.some.injEq]

/-- The workspace and one underscore, or the name alone. -/
def stemStart (v : Coverage) : List Char :=
  match v.workspace with
  | some workspace => workspace.toList ++ ['_']
  | none => v.name.toList

/-- The first two underscores of the stem, if any, separate a workspace from the name. -/
def HasClearStem (v : Coverage) : Prop := ¬ ['_', '_'] <:+: v.stemStart

instance : DecidablePred HasClearStem :=
  fun v ↦ inferInstanceAs (Decidable (¬ ['_', '_'] <:+: v.stemStart))

/-- A separator in a name without a workspace has two underscores. -/
private theorem isInfix_of_eq_append {name workspace name' : String}
    (h : name = workspace ++ "__" ++ name') :
    ['_', '_'] <:+: name.toList :=
  ⟨workspace.toList, name'.toList, by rw [h, String.toList_append, String.toList_append]; rfl⟩

/-- Coverages with clear stems do not shadow each other. -/
theorem not_shadows_of_clear (hw : w.HasClearStem) (hv : v.HasClearStem) : ¬ w.Shadows v := by
  unfold HasClearStem stemStart at hw hv
  unfold Shadows
  cases hleft : w.workspace with
  | none =>
    rw [hleft] at hw
    cases v.workspace with
    | none => exact id
    | some workspace' => exact fun h ↦ hw (isInfix_of_eq_append h)
  | some workspace =>
    rw [hleft] at hw
    cases hright : v.workspace with
    | none =>
      rw [hright] at hv
      exact fun h ↦ hv (isInfix_of_eq_append h)
    | some workspace' =>
      rw [hright] at hv
      rintro (h | h)
      · exact hv h.isInfix
      · exact hw h.isInfix

/-- A coverage has an identifier exactly if it is a series, and then it is the stem and the
ending. -/
theorem seriesId_eq_ok_iff :
    v.seriesId = .ok id ↔ v.isSeries = true ∧ v.stem ++ seriesEnding = id := by
  unfold seriesId
  split
  · next h => simp [h]
  · next h => simp [h]

end Coverage

namespace Catalogue

variable {c : Catalogue} {v : Coverage} {id : String}

/-- What an identifier finds is the series it belongs to, provided that no coverage before it has
its stem. -/
theorem series?_eq_some_iff :
    c.series? id = some v ↔
      v.seriesId = .ok id ∧
        ∃ before after, c.coverages = before ++ v :: after ∧ ∀ w ∈ before, w.stem ≠ v.stem := by
  rw [Coverage.seriesId_eq_ok_iff, series?, Option.bind_eq_some_iff]
  simp only [Text.beforeEnd?_eq_some_iff, Option.filter_eq_some_iff, List.find?_eq_some_iff_append,
    beq_iff_eq, Bool.not_eq_true', beq_eq_false_iff_ne]
  constructor
  · rintro ⟨stem, rfl, ⟨rfl, hfirst⟩, hseries⟩
    exact ⟨⟨hseries, rfl⟩, hfirst⟩
  · rintro ⟨⟨hseries, rfl⟩, hfirst⟩
    exact ⟨v.stem, rfl, ⟨rfl, hfirst⟩, hseries⟩

/-- In an accepted catalogue, only what shadows a coverage has its stem before it. -/
theorem stem_eq_iff_shadows {before after : List Coverage} (hc : c.checked = .ok c)
    (hsplit : c.coverages = before ++ v :: after) {w : Coverage} (hw : w ∈ before) :
    w.stem = v.stem ↔ w.Shadows v := by
  rw [Coverage.stem_eq_iff, or_iff_right]
  rintro ⟨hworkspace, hname⟩
  refine fullName_ne_of_mem_before hc hsplit hw ?_
  rw [Coverage.fullName, Coverage.fullName, hworkspace, hname]

/-- No coverage before a given one shadows it. -/
def Exposes (c : Catalogue) (v : Coverage) : Prop :=
  ∃ before after, c.coverages = before ++ v :: after ∧ ∀ w ∈ before, ¬ w.Shadows v

/-- Among clear stems, every coverage is exposed. -/
theorem exposes_of_clear (hv : v ∈ c.coverages) (hclear : ∀ w ∈ c.coverages, w.HasClearStem) :
    c.Exposes v := by
  obtain ⟨before, after, hsplit⟩ := List.append_of_mem hv
  refine ⟨before, after, hsplit,
    fun w hw ↦ Coverage.not_shadows_of_clear (hclear w ?_) (hclear v hv)⟩
  rw [hsplit]
  exact List.mem_append_left _ hw

/-- The identifier of a series of an accepted catalogue finds that series exactly if no coverage
before it shadows it, and so it does if all stems are clear. -/
theorem series?_seriesId (hc : c.checked = .ok c) (hv : v ∈ c.coverages)
    (hid : v.seriesId = .ok id) :
    (c.series? id = some v ↔ c.Exposes v) ∧
    ((∀ w ∈ c.coverages, w.HasClearStem) → c.series? id = some v) := by
  have hexposes : c.series? id = some v ↔ c.Exposes v := by
    rw [series?_eq_some_iff, and_iff_right hid, Exposes]
    constructor
    · rintro ⟨before, after, hsplit, hstem⟩
      exact ⟨before, after, hsplit, fun w hw ↦
        mt (stem_eq_iff_shadows hc hsplit hw).mpr (hstem w hw)⟩
    · rintro ⟨before, after, hsplit, hshadows⟩
      exact ⟨before, after, hsplit, fun w hw ↦
        mt (stem_eq_iff_shadows hc hsplit hw).mp (hshadows w hw)⟩
  exact ⟨hexposes, fun hclear ↦ hexposes.mpr (exposes_of_clear hv hclear)⟩

/-- A series is found after a coverage whose workspace and name its own begin with. -/
theorem series?_seriesId_prefixed :
    let time : CoverageDimensions := ⟨some ⟨true, "ingestion", none⟩, none, []⟩
    let sst : Coverage := ⟨"sst_day", some "eo", true, true, time⟩
    let catalogue : Catalogue :=
      ⟨none, [], [⟨"sst", some "eo", true, true, time⟩, ⟨"eo_sst", none, true, true, time⟩, sst]⟩
    catalogue.checked = .ok catalogue ∧ catalogue.series? "eo__sst_day_dss" = some sst := by
  dsimp only
  refine ⟨checked_eq_ok_iff.mpr ?_,
    (series?_seriesId (checked_eq_ok_iff.mpr ?_) ?_ (Coverage.seriesId_eq_ok_iff.mpr ?_)).2 ?_⟩
  all_goals decide +kernel

/-- A coverage without a workspace whose name has two underscores hides the series of the same stem
after it. -/
theorem series?_eq_none_behind_plain_name :
    let sst : Coverage := ⟨"sst", some "eo", true, true, ⟨some ⟨true, "ingestion", none⟩, none, []⟩⟩
    let catalogue : Catalogue := ⟨none, [], [⟨"eo__sst", none, false, false, .none⟩, sst]⟩
    catalogue.checked = .ok catalogue ∧ sst ∈ catalogue.coverages ∧
      sst.seriesId = .ok "eo__sst_dss" ∧
      catalogue.series? "eo__sst_dss" = none := by
  refine ⟨checked_eq_ok_iff.mpr ?_, ?_, Coverage.seriesId_eq_ok_iff.mpr ?_, ?_⟩
  all_goals decide +kernel

end Catalogue

end CoverageSubset

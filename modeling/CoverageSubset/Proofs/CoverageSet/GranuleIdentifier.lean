import Mathlib.Data.List.Nodup
import CoverageSubset.Proofs.CoverageSet.Identifier

/-!
# What the identifier of a granule tells

The identifier of a granule is the stem of its coverage, a separator and the name of the record, and
either text may have the separator in it. An identifier tells its coverage and record as far as
there is one place to read the separator at: within one coverage, and among stems in which the
separator does not begin.
-/

namespace CoverageSubset

private theorem overlapsInOne_granuleSeparator : OverlapsInOne granuleSeparator.toList where
  ends := by decide
  border := by
    have hborders : ∀ border ∈ granuleSeparator.toList.tails, border <+: granuleSeparator.toList →
        border.length ≤ 1 ∨ border = granuleSeparator.toList := by decide
    exact fun border hsuffix ↦ hborders border ((List.mem_tails _ _).mpr hsuffix)

namespace Coverage

variable {v w : Coverage} {x y : String}

/-- The separator stands behind the stem of the first coverage, and behind the longer stem of the
second one it stands again. The two places share an underscore, or one lies behind the other. -/
def SeparatesBefore (v : Coverage) (x : String) (w : Coverage) (y : String) : Prop :=
  w.stem = v.stem ++ "_granule" ∧ x = "granule_" ++ y ∨
    ∃ middle, w.stem = v.stem ++ granuleSeparator ++ middle ∧ x = middle ++ granuleSeparator ++ y

/-- What stands behind the longer stem is a later place of the separator. -/
theorem separatesBefore_iff :
    v.SeparatesBefore x w y ↔
      LaterSeparator granuleSeparator.toList v.stem.toList x.toList w.stem.toList y.toList := by
  have hinit : granuleSeparator.toList.dropLast = "_granule".toList := by decide
  have htail : granuleSeparator.toList.tail = "granule_".toList := by decide
  unfold SeparatesBefore LaterSeparator
  rw [hinit, htail]
  simp only [← String.toList_inj, String.toList_append, List.append_assoc]
  refine or_congr_right ⟨?_, ?_⟩
  · rintro ⟨middle, hstem, hname⟩
    exact ⟨middle.toList, hstem, hname⟩
  · rintro ⟨middle, hstem, hname⟩
    exact ⟨String.ofList middle, by rwa [String.toList_ofList], by rwa [String.toList_ofList]⟩

/-- Identifiers are the same exactly if the stems and names are, or if one stem goes on over the
separator behind the other. -/
theorem granuleId_eq_iff :
    v.granuleId x = w.granuleId y ↔
      v.stem = w.stem ∧ x = y ∨ v.SeparatesBefore x w y ∨ w.SeparatesBefore y v x := by
  rw [separatesBefore_iff, separatesBefore_iff, granuleId, granuleId]
  simp only [← String.toList_inj, String.toList_append, List.append_assoc]
  exact overlapsInOne_granuleSeparator.append_eq_iff

/-- Within one coverage, an identifier tells the name. -/
theorem granuleId_inj : v.granuleId x = v.granuleId y ↔ x = y := by
  simp only [granuleId, ← String.toList_inj, String.toList_append, List.append_cancel_left_eq]

/-- The stem has no separator in it, nor at its end all of one but the last underscore. -/
def HasClearSeparator (v : Coverage) : Prop := ¬ granuleSeparator.toList <:+: v.stem.toList ++ ['_']

instance : DecidablePred HasClearSeparator :=
  fun v ↦ inferInstanceAs (Decidable (¬ granuleSeparator.toList <:+: v.stem.toList ++ ['_']))

/-- A stem in which no separator begins does not go on over one. -/
theorem not_separatesBefore_of_clear (hw : w.HasClearSeparator) : ¬ v.SeparatesBefore x w y := by
  rw [separatesBefore_iff]
  exact fun h ↦ hw (h.isInfix (by decide))

end Coverage

namespace Catalogue

variable {c : Catalogue} {v w : Coverage}

private theorem eq_of_stem_eq (hc : c.checked = .ok c) (hv : v ∈ c.coverages) (hw : w ∈ c.coverages)
    (hshadows : ¬ v.Shadows w) (hstem : v.stem = w.stem) : v = w := by
  obtain ⟨hworkspace, hname⟩ := (Coverage.stem_eq_iff.mp hstem).resolve_right hshadows
  refine List.inj_on_of_nodup_map (checked_eq_ok_iff.mp hc).2 hv hw ?_
  rw [Coverage.fullName, Coverage.fullName, hworkspace, hname]

/-- How far the identifiers of a catalogue tell the coverages and records of granules. -/
structure TellsGranules (c : Catalogue) : Prop where
  /-- One coverage gives records of different names different identifiers. -/
  name : ∀ v ∈ c.coverages, ∀ x y : String, v.granuleId x = v.granuleId y → x = y
  /-- Two coverages give one identifier for the same stem and name, and where one stem goes on over
  the separator behind the other, and for nothing else. -/
  readings : ∀ v ∈ c.coverages, ∀ w ∈ c.coverages, ∀ x y : String,
    v.granuleId x = w.granuleId y ↔
      v.stem = w.stem ∧ x = y ∨ v.SeparatesBefore x w y ∨ w.SeparatesBefore y v x
  /-- One stem is one coverage, except for coverages that shadow each other. -/
  stem : ∀ v ∈ c.coverages, ∀ w ∈ c.coverages, ¬ v.Shadows w → v.stem = w.stem → v = w
  /-- Where no separator begins in the stems, an identifier tells coverage and name, except for
  coverages that shadow each other. -/
  clear : ∀ v ∈ c.coverages, ∀ w ∈ c.coverages, ¬ v.Shadows w → v.HasClearSeparator →
    w.HasClearSeparator →
    ∀ x y : String, v.granuleId x = w.granuleId y → v = w ∧ x = y

/-- The identifiers of an accepted catalogue tell the granules of each coverage, and they tell its
coverages where there is one way to read them. -/
theorem tellsGranules (hc : c.checked = .ok c) : c.TellsGranules where
  name := fun v _ x y ↦ Coverage.granuleId_inj.mp
  readings := fun v _ w _ x y ↦ Coverage.granuleId_eq_iff
  stem := fun v hv w hw ↦ eq_of_stem_eq hc hv hw
  clear := by
    intro v hv w hw hshadows hclear hclear' x y hid
    have hsame : v.stem = w.stem ∧ x = y := by
      refine (Coverage.granuleId_eq_iff.mp hid).resolve_right ?_
      rintro (hlater | hlater)
      · exact Coverage.not_separatesBefore_of_clear hclear' hlater
      · exact Coverage.not_separatesBefore_of_clear hclear hlater
    exact ⟨eq_of_stem_eq hc hv hw hshadows hsame.1, hsame.2⟩

/-- Granules of two series in one workspace are told apart, though one name begins with the
other. -/
theorem tellsGranules_series_of_one_workspace :
    let sst : Coverage := ⟨"sst", some "eo", true, true, .none⟩
    let night : Coverage := ⟨"sst_night", some "eo", true, true, .none⟩
    let catalogue : Catalogue := ⟨none, [], [sst, night]⟩
    catalogue.checked = .ok catalogue ∧ ∀ x y : String, sst.granuleId x ≠ night.granuleId y := by
  intro sst night catalogue
  have hc : catalogue.checked = .ok catalogue := checked_eq_ok_iff.mpr (by decide +kernel)
  have hshadows : ¬ sst.Shadows night :=
    Coverage.not_shadows_of_clear (by decide +kernel) (by decide +kernel)
  refine ⟨hc, fun x y hid ↦ absurd ?_ (show sst ≠ night by decide +kernel)⟩
  exact ((tellsGranules hc).clear sst (by simp [catalogue]) night (by simp [catalogue]) hshadows
    (by decide +kernel) (by decide +kernel) x y hid).1

/-- A coverage whose name goes on over the separator behind the name of another shares identifiers
with it. -/
theorem granuleId_eq_of_separator_in_name :
    let sst : Coverage := ⟨"sst", none, false, false, .none⟩
    let night : Coverage := ⟨"sst_granule_night", none, false, false, .none⟩
    let catalogue : Catalogue := ⟨none, [], [sst, night]⟩
    catalogue.checked = .ok catalogue ∧ sst ∈ catalogue.coverages ∧ night ∈ catalogue.coverages ∧
      sst ≠ night ∧
      sst.granuleId "night_granule_1" = night.granuleId "1" := by
  refine ⟨checked_eq_ok_iff.mpr ?_, ?_, ?_, ?_, ?_⟩
  all_goals decide +kernel

end Catalogue

end CoverageSubset

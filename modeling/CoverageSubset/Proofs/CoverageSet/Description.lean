import CoverageSubset.CoverageSet.Description
import CoverageSubset.Proofs.CoverageSet.Budget
import CoverageSubset.Proofs.Granule.Selection
import CoverageSubset.Proofs.Outcome

/-!
# What a description counts and lists

The granules that meet a request are those of its series, one series after another as they are
named, in the order of each store. A description counts all of them, returns as many as the limit
admits, and lists the first ones of them.
-/

namespace CoverageSubset

namespace Coverage

variable {c : Coverage} {archive : GranuleArchive} {wanted : GridRequest}

/-- The identifiers of the granules of a coverage that meet a request. -/
def matchedIds (c : Coverage) (archive : GranuleArchive) (wanted : GridRequest) : List String :=
  match archive[c.fullName]? with
  | some store =>
    (store.found (wanted.granuleFilter c.time? c.elevation?)).map fun g ↦ c.granuleId g.id
  | none => []

private theorem store_eq_ok_iff {store : GranuleStore} :
    c.store archive = .ok store ↔ archive[c.fullName]? = some store := by
  rw [Coverage.store]
  cases archive[c.fullName]? <;> simp

/-- A coverage is described exactly if its granules are there and it is a series. -/
theorem describe_eq_ok_iff {part : SeriesPart} :
    c.describe archive wanted = .ok part ↔
      ∃ store id, archive[c.fullName]? = some store ∧ c.seriesId = .ok id ∧
        part =
          ⟨⟨id, (c.matching wanted store).map fun g ↦ c.granuleId g.id, c.matching wanted store⟩,
            ⟨id, c.period store⟩⟩ := by
  simp only [describe, bind_eq_ok_iff, store_eq_ok_iff, mapError_eq_ok_iff, Except.ok.injEq]
  constructor
  · rintro ⟨store, hstore, id, hid, rfl⟩
    exact ⟨store, id, hstore, hid, rfl⟩
  · rintro ⟨store, id, hstore, hid, rfl⟩
    exact ⟨store, hstore, id, hid, rfl⟩

/-- The part of a coverage lists the granules that meet the request. -/
theorem listed_of_describe {part : SeriesPart} (h : c.describe archive wanted = .ok part) :
    part.listed.granuleIds = c.matchedIds archive wanted ∧ part.listed.Balanced := by
  obtain ⟨store, id, hstore, -, rfl⟩ := describe_eq_ok_iff.mp h
  constructor
  · rw [matchedIds, hstore, matching, GranuleStore.select_ofFilter, Option.getD_some]
  · exact List.length_map _

end Coverage

namespace DescriptionRequest

variable {r : DescriptionRequest} {catalogue : Catalogue} {archive : GranuleArchive}

/-- The identifiers of the granules that meet a request, one series after another. -/
def matchedIds (r : DescriptionRequest) (catalogue : Catalogue) (archive : GranuleArchive)
    (wanted : GridRequest) :
    List String :=
  r.seriesIds.flatMap fun id ↦ (catalogue.series? id).elim [] fun c ↦ c.matchedIds archive wanted

/-- The series of a request are there exactly if it names some and each name is that of one. -/
theorem named_eq_ok_iff {coverages : List Coverage} :
    r.named catalogue = .ok coverages ↔
      r.seriesIds ≠ [] ∧ List.Forall₂ (fun id c ↦ catalogue.series? id = some c) r.seriesIds
        coverages := by
  rw [named]
  split
  · next h => simp [List.isEmpty_iff.mp h]
  · next h =>
    rw [mapM_eq_ok_iff]
    constructor
    · intro hall
      refine ⟨fun hnil ↦ h (List.isEmpty_iff.mpr hnil), hall.imp ?_⟩
      intro id c hc
      cases hs : catalogue.series? id with
      | none => simp [hs] at hc
      | some found => simpa [hs] using hc
    · rintro ⟨-, hall⟩
      exact hall.imp fun id c hc ↦ by rw [hc]

/-- What a request asks for is known exactly if its times and its elevations are. -/
theorem wanted_eq_ok_iff {wanted : GridRequest} :
    r.wanted catalogue = .ok wanted ↔
      ∃ temporal elevation, (⟨r.directives, catalogue.prefixes⟩ : Subsetting).requested? Instant =
        .ok temporal ∧
        (⟨r.directives, catalogue.prefixes⟩ : Subsetting).requested? Double = .ok elevation ∧
        wanted = { GridRequest.unspecified with temporal, elevation } := by
  simp only [DescriptionRequest.wanted, bind_eq_ok_iff, mapError_eq_ok_iff, Except.ok.injEq]
  constructor
  · rintro ⟨temporal, ht, elevation, he, rfl⟩
    exact ⟨temporal, elevation, ht, he, rfl⟩
  · rintro ⟨temporal, elevation, ht, he, rfl⟩
    exact ⟨temporal, ht, elevation, he, rfl⟩

/-- A request is answered exactly if each of its series is described. -/
theorem describe_eq_ok_iff {d : Description} :
    r.describe catalogue archive = .ok d ↔
      ∃ coverages wanted parts, r.named catalogue = .ok coverages ∧
        r.wanted catalogue = .ok wanted ∧
        List.Forall₂ (fun c part ↦ c.describe archive wanted = .ok part) coverages parts ∧
        d = r.assemble catalogue.defaultCount parts := by
  simp only [describe, bind_eq_ok_iff, mapM_eq_ok_iff, Except.ok.injEq]
  constructor
  · rintro ⟨coverages, hc, wanted, hw, parts, hp, rfl⟩
    exact ⟨coverages, wanted, parts, hc, hw, hp, rfl⟩
  · rintro ⟨coverages, wanted, parts, hc, hw, hp, rfl⟩
    exact ⟨coverages, hc, wanted, hw, parts, hp, rfl⟩

/-- The parts of a description list the granules that meet the request. -/
theorem listed_of_describe {coverages : List Coverage} {parts : List SeriesPart}
    {wanted : GridRequest} {ids : List String}
    (hnamed : List.Forall₂ (fun id c ↦ catalogue.series? id = some c) ids coverages)
    (hparts : List.Forall₂ (fun c part ↦ c.describe archive wanted = .ok part) coverages parts) :
    (parts.map SeriesPart.listed).flatMap CoverageGranules.granuleIds =
        ids.flatMap (fun id ↦ (catalogue.series? id).elim [] fun c ↦ c.matchedIds archive wanted) ∧
      ∀ l ∈ parts.map SeriesPart.listed, l.Balanced := by
  induction hnamed generalizing parts with
  | nil =>
    cases hparts
    exact ⟨rfl, by simp⟩
  | cons hid _ ih =>
    cases hparts with
    | cons hpart hrest =>
      obtain ⟨hids, hbalanced⟩ := ih hrest
      obtain ⟨hpartIds, hpartBalanced⟩ := Coverage.listed_of_describe hpart
      constructor
      · rw [List.map_cons, List.flatMap_cons, List.flatMap_cons, hids, hpartIds, hid]
        rfl
      · simpa using ⟨hpartBalanced, by simpa using hbalanced⟩

/-- A description counts some identifiers and lists the first ones of them. -/
structure Lists (r : DescriptionRequest) (defaultCount : Option Nat) (ids : List String)
    (d : Description) : Prop where
  matched : d.matched = ids.length
  returned_of_count : 0 < r.count → d.returned = min d.matched r.count
  returned_of_default : ∀ n, r.count = 0 → defaultCount = some n → d.returned = min d.matched n
  returned_of_none : r.count = 0 → defaultCount = none → d.returned = d.matched
  listed : Section.coverages.isIncluded r.sections = true →
    d.coverages.flatMap CoverageGranules.granuleIds = ids.take d.returned

private theorem lists_assemble {parts : List SeriesPart} (defaultCount : Option Nat)
    (hparts : ∀ l ∈ parts.map SeriesPart.listed, l.Balanced) :
    r.Lists defaultCount ((parts.map SeriesPart.listed).flatMap CoverageGranules.granuleIds)
      (r.assemble defaultCount parts) where
  matched := by rw [CoverageGranules.length_flatMap_granuleIds hparts, assemble]
  returned_of_count h := by simp [assemble, listingLimit, h]
  returned_of_default n h hn := by simp [assemble, listingLimit, h, hn]
  returned_of_none h hn := by simp [assemble, listingLimit, h, hn]
  listed h := by
    simp only [assemble, h, ite_true]
    exact CoverageGranules.flatMap_limit hparts _

/-- The answer to a request counts the granules that meet it, whatever the limit and the selected
parts, and lists the first ones of them. -/
theorem describe_lists_matched {d : Description} (h : r.describe catalogue archive = .ok d) :
    ∃ temporal elevation,
      (⟨r.directives, catalogue.prefixes⟩ : Subsetting).requested? Instant = .ok temporal ∧
      (⟨r.directives, catalogue.prefixes⟩ : Subsetting).requested? Double = .ok elevation ∧
      r.Lists catalogue.defaultCount
        (r.matchedIds catalogue archive { GridRequest.unspecified with temporal, elevation }) d ∧
      ∀ count sections defaultCount, ∃ d',
        describe { r with count, sections } { catalogue with defaultCount } archive = .ok d' ∧
          d'.matched = d.matched := by
  obtain ⟨coverages, wanted, parts, hnamed, hwanted, hparts, rfl⟩ := describe_eq_ok_iff.mp h
  obtain ⟨temporal, elevation, ht, he, rfl⟩ := wanted_eq_ok_iff.mp hwanted
  obtain ⟨hids, hbalanced⟩ := listed_of_describe (named_eq_ok_iff.mp hnamed).2 hparts
  refine ⟨temporal, elevation, ht, he, ?_, ?_⟩
  · rw [matchedIds, ← hids]
    exact lists_assemble _ hbalanced
  · intro count sections defaultCount
    -- Neither the series nor what is asked of them depends on these three.
    exact ⟨_, describe_eq_ok_iff.mpr ⟨coverages, _, parts, hnamed, hwanted, hparts, rfl⟩, rfl⟩

/-- A request that names one series twice is answered within a limit that ends inside the second
listing. -/
theorem describe_lists_matched_repeated :
    let catalogue : Catalogue :=
      ⟨some 1, [], [⟨"sst", some "eo", true, true, ⟨some ⟨true, "t", none⟩, none, []⟩⟩]⟩
    let store : GranuleStore := .ofList [
      (Granule.ofId "first").withAttribute "t" (.time { day := 0, second := 0, nano := 0 }),
      (Granule.ofId "second").withAttribute "t" (.time { day := 10, second := 0, nano := 0 }),
      (Granule.ofId "third").withAttribute "t" (.time { day := 20, second := 0, nano := 0 })]
    let archive : GranuleArchive := (∅ : GranuleArchive).insert "eo:sst" store
    let r : DescriptionRequest :=
      ⟨["eo__sst_dss", "eo__sst_dss"], 3, none, [.trim "time" "1970-01-05" "1970-02"]⟩
    ∃ d, r.describe catalogue archive = .ok d ∧
      ∃ temporal elevation,
        (⟨r.directives, catalogue.prefixes⟩ : Subsetting).requested? Instant = .ok temporal ∧
        (⟨r.directives, catalogue.prefixes⟩ : Subsetting).requested? Double = .ok elevation ∧
        r.Lists catalogue.defaultCount
          (r.matchedIds catalogue archive { GridRequest.unspecified with temporal, elevation }) d ∧
        ∀ count sections defaultCount, ∃ d',
          describe { r with count, sections } { catalogue with defaultCount } archive = .ok d' ∧
            d'.matched = d.matched := by
  dsimp only
  refine Exists.imp (fun d hd ↦ ⟨hd, describe_lists_matched hd⟩) (exists_eq_ok ?_)
  decide +kernel

/-- The limit of a request cuts the second listing of a series that it names twice. -/
example :
    let catalogue : Catalogue :=
      ⟨some 1, [], [⟨"sst", none, true, true, ⟨some ⟨true, "t", none⟩, none, []⟩⟩]⟩
    let store : GranuleStore := .ofList (["first", "second"].map Granule.ofId)
    let r : DescriptionRequest := ⟨["sst_dss", "sst_dss"], 3, none, []⟩
    ((r.describe catalogue ((∅ : GranuleArchive).insert "sst" store)).toOption.map fun d ↦
      (d.matched, d.returned, d.coverages.map CoverageGranules.granuleIds)) =
      some (4, 3, [["sst_granule_first", "sst_granule_second"], ["sst_granule_first"]]) := by
  decide +kernel

end DescriptionRequest

end CoverageSubset

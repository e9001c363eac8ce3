import Mathlib.Data.List.Nodup
import CoverageSubset.Sample
import CoverageSubset.Proofs.Granule.Offers
import CoverageSubset.Proofs.Granule.Stored

/-!
# Grids of sample records

The document of a grid is read as one record for each time and level, or for each time alone without
levels. The places in an identifier are numbers after points, so no two records have the same one.
What the records offer in time and in elevation are the times and the levels that the grid was made
from.
-/

namespace CoverageSubset

/-! ### Maps of attributes -/

section Maps

variable {α β : Type} (f : α → β) (map : Std.ExtTreeMap String α)

private theorem map_insert (name : String) (a : α) :
    (map.insert name a).map (fun _ a ↦ f a) = (map.map fun _ a ↦ f a).insert name (f a) := by
  apply Std.ExtTreeMap.ext_getElem?
  intro n
  simp only [Std.ExtTreeMap.getElem?_map, Std.ExtTreeMap.getElem?_insert]
  split <;> rfl

private theorem map_foldl_insert (as : List (String × α)) :
    (as.foldl (fun map p ↦ map.insert p.1 p.2) map).map (fun _ a ↦ f a) =
      (as.map fun p ↦ (p.1, f p.2)).foldl (fun map p ↦ map.insert p.1 p.2)
    (map.map fun _ a ↦ f a) := by
  induction as generalizing map with
  | nil => rfl
  | cons p as ih => rw [List.foldl_cons, ih, map_insert, List.map_cons, List.foldl_cons]

end Maps

/-! ### Attributes -/

namespace Attribute

variable {a : Attribute}

/-- The document form of an attribute in a grid: times end in a zero offset. -/
def gridDocument : Attribute → Document
  | time t => .text t.withOffset
  | number x => .real x
  | text s => .text s

/-- An attribute that a document can hold is read back from a grid. -/
theorem ofDocument?_gridDocument (h : a.Stored) : ofDocument? a.gridDocument = some a := by
  cases a with
  | time t => rw [gridDocument, ofDocument?, Instant.ofTimestamp?_withOffset h, Option.elim_some]
  | number x => exact ofDocument?_toDocument (a := .number x) h
  | text s => exact ofDocument?_toDocument (a := .text s) h

private theorem throughout_gridDocument (h : a.Stored) :
    a.gridDocument.Throughout Document.InRange := by
  cases a with
  | time t => exact .text _
  | number x => exact .real h
  | text s => exact .text s

end Attribute

namespace Sample

/-! ### Places -/

private theorem leadingDigits_reverse_placed (id : String) (place : Nat) :
    Text.leadingDigits (placed id place).toList.reverse = (Text.decimal place).reverse := by
  have hdigits : ∀ c ∈ (Text.decimal place).reverse, c.isDigit = true :=
    fun c hc ↦ Text.isDigit_of_mem_decimal (List.mem_reverse.mp hc)
  have hsplit : (placed id place).toList.reverse = (Text.decimal place).reverse ++
    '.' :: id.toList.reverse := by
    simp [placed]
  rw [hsplit, Text.leadingDigits_append hdigits (Text.startsWithDigit_cons _ _)]

/-- Identifiers with places are the same exactly if the identifiers and the places are. -/
theorem placed_eq_placed_iff {id id' : String} {place place' : Nat} :
    placed id place = placed id' place' ↔ id = id' ∧ place = place' := by
  constructor
  · intro h
    -- A place has no point, so the two places are the same before anything is known of the
    -- identifiers.
    have hplaces : Text.decimal place = Text.decimal place' := by
      rw [← List.reverse_inj, ← leadingDigits_reverse_placed id, h, leadingDigits_reverse_placed]
    obtain rfl : place = place' := by
      rw [← Text.digitsValue_decimal place, hplaces, Text.digitsValue_decimal]
    refine ⟨?_, rfl⟩
    simpa [placed, ← String.toList_inj] using h
  · rintro ⟨rfl, rfl⟩
    rfl

/-! ### Records -/

section Records

variable {id : String} {footprint : Envelope} {as : List (String × Attribute)}

/-- A record with a footprint and some attributes, of which the last of a name counts. -/
def record (id : String) (footprint : Envelope) (as : List (String × Attribute)) : Granule :=
  ⟨id, some footprint, as.foldl (fun map p ↦ map.insert p.1 p.2) ∅⟩

private theorem stored_record (hfootprint : ∀ x ∈ footprint.corners, x.isFinite = true)
    (has : ∀ p ∈ as, p.2.Stored) :
    (record id footprint as).Stored where
  footprint := by
    rintro _ ⟨⟩
    exact hfootprint
  attributes name a ha := by
    obtain hempty | hmem := Granule.mem_of_foldl_insert ha
    · rw [Std.ExtTreeMap.getElem?_empty] at hempty
      cases hempty
    · exact has _ hmem

/-- A record of a grid is written like any other, but with times that end in a zero offset. -/
theorem gridRecord_eq (id : String) (footprint : Envelope) (as : List (String × Attribute)) :
    gridRecord id footprint (as.map fun p ↦ (p.1, p.2.gridDocument)) =
      (record id footprint as).documentWith Attribute.gridDocument := by
  have hnone : (∅ : Std.ExtTreeMap String Attribute).map (fun _ a ↦ a.gridDocument) = ∅ :=
    Std.ExtTreeMap.map_eq_empty_iff.mpr rfl
  have hfields := map_foldl_insert Attribute.gridDocument ∅ as
  rw [hnone] at hfields
  rw [Granule.documentWith, gridRecord, ← hfields, Std.ExtTreeMap.toList_map]
  rfl

private theorem value?_record_single {α : Type} [AttributeKind α] (id : String)
    (footprint : Envelope) (n : String) (a : Attribute) (name : String) :
    (record id footprint [(n, a)]).value? name =
      if n = name then (AttributeKind.ofAttribute? a : Option α) else none := by
  refine (Granule.value?_withAttribute ((Granule.ofId id).withFootprint footprint) n a name).trans
    (if_congr Iff.rfl rfl ?_)
  rw [Granule.value?, Granule.attribute?, Granule.withFootprint, Granule.ofId,
    Std.ExtTreeMap.getElem?_empty, Option.bind_none]

private theorem value?_record_pair {α : Type} [AttributeKind α] (id : String)
    (footprint : Envelope) (n m : String)
    (a b : Attribute) (name : String) : (record id footprint [(n, a), (m, b)]).value? name =
      if m = name then (AttributeKind.ofAttribute? b : Option α)
      else if n = name then AttributeKind.ofAttribute? a else none := by
  rw [← value?_record_single id footprint]
  exact Granule.value?_withAttribute (record id footprint [(n, a)]) m b name

end Records

/-! ### Records of a grid -/

section Grid

variable (id : String) (timeAttribute : String) (levels : List Double)
  (levelAttribute : String) (footprint : Envelope)

/-- The record of a time alone. -/
def timeRecord (t : Instant) (place : Nat) : Granule :=
  record (placed id place) footprint [(timeAttribute, .time t)]

/-- The record of a time and a level. -/
def levelRecord (t : Instant) (place : Nat) (z : Double) (i : Nat) : Granule :=
  record (placed (placed id place) i) footprint [(timeAttribute, .time t),
    (levelAttribute, .number z)]

/-- The records of a time: one for each level, or a single one without levels. -/
def recordsAt (t : Instant) (place : Nat) : List Granule :=
  if levels.isEmpty then [timeRecord id timeAttribute footprint t place]
  else levels.zipIdx.map fun (z, i) ↦
    levelRecord id timeAttribute levelAttribute footprint t place z i

/-- The records of a grid. -/
def records (times : List Instant) : List Granule :=
  times.zipIdx.flatMap fun (t, place) ↦
    recordsAt id timeAttribute levels levelAttribute footprint t place

variable {id timeAttribute levels levelAttribute footprint} {times : List Instant}
  {t : Instant} {place : Nat} {g : Granule}

/-- The records of a grid are those of its times. -/
theorem mem_records : g ∈ records id timeAttribute levels levelAttribute footprint times ↔
    ∃ t place, times[place]? = some t ∧
      g ∈ recordsAt id timeAttribute levels levelAttribute footprint t place := by
  rw [records, List.mem_flatMap, Prod.exists]
  simp only [List.mem_zipIdx_iff_getElem?]

private theorem mem_recordsAt :
    g ∈ recordsAt id timeAttribute levels levelAttribute footprint t place ↔
    (levels = [] ∧ g = timeRecord id timeAttribute footprint t place) ∨
      ∃ z i, levels[i]? = some z ∧ g =
        levelRecord id timeAttribute levelAttribute footprint t place z i := by
  rw [recordsAt]
  cases levels with
  | nil => simp
  | cons z zs =>
    rw [if_neg (by simp), List.mem_map, Prod.exists]
    simp only [List.mem_zipIdx_iff_getElem?, reduceCtorEq, false_and, false_or, eq_comm]

private theorem length_recordsAt :
    (recordsAt id timeAttribute levels levelAttribute footprint t place).length =
      max 1 levels.length := by
  rw [recordsAt]
  cases levels with
  | nil => rfl
  | cons z zs =>
    rw [if_neg (by simp), List.length_map, List.length_zipIdx, List.length_cons]
    omega

/-- There is a record for each time and level, or for each time without levels. -/
theorem length_records : (records id timeAttribute levels levelAttribute footprint times).length =
    times.length * max 1 levels.length := by
  rw [records, List.length_flatMap]
  simp only [length_recordsAt]
  rw [List.map_const', List.sum_replicate_nat, List.length_zipIdx]

private theorem exists_mem_recordsAt (t : Instant) (place : Nat) :
    ∃ g, g ∈ recordsAt id timeAttribute levels levelAttribute footprint t place := by
  apply List.exists_mem_of_length_pos
  rw [length_recordsAt]
  omega

/-! #### Reading -/

/-- The document of a grid is a list of the documents of its records. -/
theorem grid_eq : grid id times timeAttribute levels levelAttribute footprint =
    .list ((records id timeAttribute levels levelAttribute footprint times).map
      (Granule.documentWith Attribute.gridDocument)) := by
  rw [grid, records, List.map_flatMap]
  congr 2
  funext ⟨t, place⟩
  dsimp only
  rw [recordsAt]
  split
  · exact congrArg (fun d ↦ [d]) (gridRecord_eq (placed id place) footprint
      [(timeAttribute, .time t)])
  · rw [List.map_map]
    congr 1
    funext ⟨z, i⟩
    exact gridRecord_eq (placed (placed id place) i) footprint [(timeAttribute, .time t),
      (levelAttribute, .number z)]

/-- A document can hold the records of a grid of finite numbers whose times lie in leap seconds only
at the end of a minute. -/
theorem stored_of_mem_records (htimes : ∀ t ∈ times, t.EndsMinuteInLeap)
    (hlevels : ∀ z ∈ levels, z.isFinite = true)
    (hfootprint : ∀ x ∈ footprint.corners, x.isFinite = true)
    (hg : g ∈ records id timeAttribute levels levelAttribute footprint times) : g.Stored := by
  obtain ⟨t, place, hplace, hg⟩ := mem_records.mp hg
  have ht : (Attribute.time t).Stored := htimes t (List.mem_of_getElem? hplace)
  obtain ⟨-, rfl⟩ | ⟨z, i, hi, rfl⟩ := mem_recordsAt.mp hg
  · exact stored_record hfootprint (List.forall_mem_singleton.mpr ht)
  · have hz : (Attribute.number z).Stored := hlevels z (List.mem_of_getElem? hi)
    exact stored_record hfootprint (List.forall_mem_cons.mpr ⟨ht, List.forall_mem_singleton.mpr hz⟩)

/-! #### Identifiers -/

/-- The identifiers of the records of a time, from the number of levels. -/
def idsAt (id : String) (levelCount place : Nat) : List String :=
  if levelCount = 0 then [placed id place] else (List.range' 0 levelCount).map
    (placed (placed id place))

private theorem map_id_recordsAt :
    (recordsAt id timeAttribute levels levelAttribute footprint t place).map Granule.id =
    idsAt id levels.length place := by
  rw [recordsAt, idsAt]
  cases levels with
  | nil => rfl
  | cons z zs =>
    rw [if_neg (by simp), if_neg (by simp), List.map_map, ← List.zipIdx_map_snd, List.map_map]
    rfl

private theorem nodup_idsAt (id : String) (levelCount place : Nat) :
    (idsAt id levelCount place).Nodup := by
  rw [idsAt]
  split
  · exact List.nodup_singleton _
  · exact List.Nodup.map (fun i j h ↦ (placed_eq_placed_iff.mp h).2) List.nodup_range'

private theorem disjoint_idsAt {levelCount place place' : Nat} (h : place ≠ place') :
    List.Disjoint (idsAt id levelCount place) (idsAt id levelCount place') := by
  intro s hs hs'
  rw [idsAt] at hs hs'
  split at hs
  · next hnone =>
    rw [if_pos hnone, List.mem_singleton] at hs'
    obtain rfl := List.mem_singleton.mp hs
    exact h (placed_eq_placed_iff.mp hs').2
  · next hsome =>
    rw [if_neg hsome] at hs'
    obtain ⟨i, -, rfl⟩ := List.mem_map.mp hs
    obtain ⟨j, -, hj⟩ := List.mem_map.mp hs'
    exact h (placed_eq_placed_iff.mp (placed_eq_placed_iff.mp hj).1).2.symm

/-- No two records of a grid have the same identifier. -/
theorem nodup_map_id_records :
    ((records id timeAttribute levels levelAttribute footprint times).map Granule.id).Nodup := by
  have hids : (records id timeAttribute levels levelAttribute footprint times).map Granule.id =
      (List.range' 0 times.length).flatMap (idsAt id levels.length) := by
    rw [records, List.map_flatMap, ← List.zipIdx_map_snd, List.flatMap_map]
    simp only [map_id_recordsAt]
  rw [hids, List.nodup_flatMap]
  exact ⟨fun place _ ↦ nodup_idsAt id levels.length place,
    List.Pairwise.imp disjoint_idsAt List.nodup_range'⟩

/-! #### Values -/

private theorem value?_time_of_mem_recordsAt (hnames : timeAttribute ≠ levelAttribute)
    (hg : g ∈ recordsAt id timeAttribute levels levelAttribute footprint t place) (name : String) :
    (g.value? name : Option Instant) = if timeAttribute = name then some t else none := by
  obtain ⟨-, rfl⟩ | ⟨z, i, -, rfl⟩ := mem_recordsAt.mp hg
  · exact value?_record_single _ _ _ _ name
  · rw [levelRecord, value?_record_pair]
    split
    · next hname =>
      -- The level, which is no time, would hide a time under the same name.
      rw [if_neg (hname ▸ hnames)]
      rfl
    · rfl

private theorem value?_number_timeRecord (t : Instant) (place : Nat) (name : String) :
    (timeRecord id timeAttribute footprint t place).value? name = (none : Option Double) := by
  rw [timeRecord, value?_record_single]
  exact ite_self _

private theorem value?_number_levelRecord (t : Instant) (place : Nat) (z : Double) (i : Nat)
    (name : String) :
    (levelRecord id timeAttribute levelAttribute footprint t place z i).value? name =
      if levelAttribute = name then some z else none := by
  rw [levelRecord, value?_record_pair]
  exact if_congr Iff.rfl rfl (ite_self _)

private theorem value?_number_eq_none {name : String} (h : levelAttribute ≠ name)
    (hg : g ∈ records id timeAttribute levels levelAttribute footprint times) :
    g.value? name = (none : Option Double) := by
  obtain ⟨t, place, -, hg⟩ := mem_records.mp hg
  obtain ⟨-, rfl⟩ | ⟨z, i, -, rfl⟩ := mem_recordsAt.mp hg
  · exact value?_number_timeRecord t place name
  · rw [value?_number_levelRecord, if_neg h]

private theorem exists_value?_time_iff (hnames : timeAttribute ≠ levelAttribute) (u : Instant) :
    (∃ g ∈ records id timeAttribute levels levelAttribute footprint times,
      g.value? timeAttribute = some u) ↔ u ∈ times := by
  constructor
  · rintro ⟨g, hg, hu⟩
    obtain ⟨t, place, hplace, hg⟩ := mem_records.mp hg
    rw [value?_time_of_mem_recordsAt hnames hg, if_pos rfl] at hu
    exact Option.some.inj hu ▸ List.mem_of_getElem? hplace
  · intro hu
    obtain ⟨place, hplace⟩ := List.mem_iff_getElem?.mp hu
    obtain ⟨g, hg⟩ := exists_mem_recordsAt u place
    exact ⟨g, mem_records.mpr ⟨u, place, hplace, hg⟩, by
      rw [value?_time_of_mem_recordsAt hnames hg, if_pos rfl]⟩

private theorem exists_value?_number_iff (htimes : times ≠ []) (x : Double) :
    (∃ g ∈ records id timeAttribute levels levelAttribute footprint times,
      g.value? levelAttribute = some x) ↔
      x ∈ levels := by
  constructor
  · rintro ⟨g, hg, hx⟩
    obtain ⟨t, place, -, hg⟩ := mem_records.mp hg
    obtain ⟨-, rfl⟩ | ⟨z, i, hi, rfl⟩ := mem_recordsAt.mp hg
    · rw [value?_number_timeRecord] at hx
      cases hx
    · rw [value?_number_levelRecord, if_pos rfl] at hx
      exact Option.some.inj hx ▸ List.mem_of_getElem? hi
  · intro hx
    obtain ⟨t, ht⟩ := List.exists_mem_of_ne_nil times htimes
    obtain ⟨place, hplace⟩ := List.mem_iff_getElem?.mp ht
    obtain ⟨i, hi⟩ := List.mem_iff_getElem?.mp hx
    refine ⟨levelRecord id timeAttribute levelAttribute footprint t place x i, ?_, ?_⟩
    · exact mem_records.mpr ⟨t, place, hplace, mem_recordsAt.mpr (.inr ⟨x, i, hi, rfl⟩)⟩
    · rw [value?_number_levelRecord, if_pos rfl]

/-! #### Domains -/

/-- A document holds some records, with the domains of the times and the levels they were made
from. -/
structure CarriesDomains (d : Document) (times : List Instant) (timeAttribute : String)
    (levels : List Double) (levelAttribute : String) (gs : List Granule) : Prop where
  /-- The numbers of the document are finite. -/
  inRange : d.Throughout Document.InRange
  /-- The document is read as the records. -/
  read : d.list? Granule.ofDocument? = some gs
  /-- There is a record for each time and level, or for each time without levels. -/
  size : gs.length = times.length * max 1 levels.length
  /-- No two records have the same identifier. -/
  distinct : (gs.map Granule.id).Nodup
  /-- A dimension that starts at the attribute for times, and does not also end there, has the times
  as points. -/
  timeDomain : ∀ s : DimensionSource, s.start = timeAttribute → s.stop ≠ some timeAttribute →
    s.domain gs = Domain.ofPoints times
  /-- A dimension that starts at the attribute for levels has the levels as points, unless there are
  no times. -/
  levelDomain : times ≠ [] → ∀ s : DimensionSource, s.start = levelAttribute →
    s.stop ≠ some levelAttribute →
    s.domain gs = Domain.ofPoints levels

/-- A grid of finite numbers, with times that lie in leap seconds only at the end of a minute,
carries the domains that it was made from. -/
theorem grid_carriesDomains (id : String) {times : List Instant} {timeAttribute : String}
    {levels : List Double} {levelAttribute : String} {footprint : Envelope}
    (htimes : ∀ t ∈ times, t.EndsMinuteInLeap) (hlevels : ∀ z ∈ levels, z.isFinite = true)
    (hfootprint : ∀ x ∈ footprint.corners, x.isFinite = true)
    (hnames : timeAttribute ≠ levelAttribute) :
    ∃ gs, CarriesDomains (grid id times timeAttribute levels levelAttribute footprint) times
      timeAttribute levels
      levelAttribute gs := by
  have hstored {g : Granule}
    (hg : g ∈ records id timeAttribute levels levelAttribute footprint times) : g.Stored :=
    stored_of_mem_records htimes hlevels hfootprint hg
  refine ⟨records id timeAttribute levels levelAttribute footprint times, ?_⟩
  constructor
  case inRange =>
    rw [grid_eq]
    refine .list (List.forall_mem_map.mpr fun g hg ↦ ?_)
    exact Granule.throughout_documentWith (hstored hg).footprint
      fun name a ha ↦ Attribute.throughout_gridDocument ((hstored hg).attributes name a ha)
  case read =>
    rw [grid_eq]
    refine mapM_eq_some_iff.mpr (List.forall₂_map_left_iff.mpr ?_)
    refine List.forall₂_same.mpr fun g hg ↦ ?_
    exact Granule.ofDocument?_documentWith
      fun name a ha ↦ Attribute.ofDocument?_gridDocument ((hstored hg).attributes name a ha)
  case size => exact length_records
  case distinct => exact nodup_map_id_records
  case timeDomain =>
    rintro s rfl hstop
    refine DimensionSource.domain_eq_ofPoints (exists_value?_time_iff hnames) fun stop hs g hg ↦ ?_
    obtain ⟨t, place, -, hg⟩ := mem_records.mp hg
    rw [value?_time_of_mem_recordsAt hnames hg, if_neg]
    rintro rfl
    exact hstop hs
  case levelDomain =>
    rintro hne s rfl hstop
    refine DimensionSource.domain_eq_ofPoints (exists_value?_number_iff hne) fun stop hs g hg ↦ ?_
    refine value?_number_eq_none ?_ hg
    rintro rfl
    exact hstop hs

/-- A grid with a leap second before the year 0, one level of which stands twice and another is the
zero of the other sign: of the six records, three have each of the two times, and the zeros are two
points. -/
theorem grid_carriesDomains_leapSecond :
    let times : List Instant :=
      [{ day := -735525, second := 37859, nano := 1500000000 },
        { day := 95000000, second := 0, nano := 1 }]
    let levels : List Double := [.zero false, .zero true, .zero false]
    let footprint : Envelope := ⟨.zero true, .ofInt (-90), .ofInt 360, .ofInt 90⟩
    (∀ t ∈ times, t.EndsMinuteInLeap) ∧ (∀ z ∈ levels, z.isFinite = true) ∧
      (∀ x ∈ footprint.corners, x.isFinite = true) ∧ "ingestion" ≠ "depth" ∧
      ∃ gs, CarriesDomains (grid "sst.1" times "ingestion" levels "depth" footprint) times
        "ingestion" levels "depth" gs ∧
        gs.length = 6 ∧
        ((DimensionSource.single "elevation" "depth").domain gs : ElevationDomain).entries =
          [.point (.zero true), .point (.zero false)] := by
  intro times levels footprint
  have htimes : ∀ t ∈ times, t.EndsMinuteInLeap := by decide
  have hlevels : ∀ z ∈ levels, z.isFinite = true := by decide
  have hfootprint : ∀ x ∈ footprint.corners, x.isFinite = true := by decide +kernel
  have hnames : "ingestion" ≠ "depth" := by decide
  refine ⟨htimes, hlevels, hfootprint, hnames, ?_⟩
  obtain ⟨gs, hgs⟩ := grid_carriesDomains "sst.1" htimes hlevels hfootprint hnames
  refine ⟨gs, hgs, hgs.size, ?_⟩
  rw [hgs.levelDomain (List.cons_ne_nil _ _) (.single "elevation" "depth") rfl nofun]
  decide +kernel

end Grid

end Sample

end CoverageSubset

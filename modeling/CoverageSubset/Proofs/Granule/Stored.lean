import CoverageSubset.Document.Granules
import CoverageSubset.Proofs.Document.Range
import CoverageSubset.Proofs.Envelope
import CoverageSubset.Proofs.Instant.Written

/-!
# Stored records

A record that was read from a document is written as a document that is read as the same record.
What the reader takes for a time lies in a leap second only at the end of a minute, so it is written
in a form that is read as the same time; what it takes for a text is no time, and stays a text; what
it takes for a number is finite.
-/

namespace CoverageSubset

open Text

/-! ### Stored times -/

namespace CivilTime

private theorem nano_lt_of_fraction? {cs rest : List Char} {nano : Nat}
    (h : fraction? cs = some (nano, rest)) :
    nano < 1000000000 := by
  rw [fraction?.eq_def] at h
  split at h
  · next cs =>
    obtain ⟨-, heq⟩ := Option.ite_none_left_eq_some.mp h
    obtain ⟨rfl, -⟩ := Prod.mk.inj (Option.some.inj heq)
    exact nanosOfDecimals_lt (fun c hc ↦ isDigit_of_mem_leadingDigits (List.mem_of_mem_take hc))
      (List.length_take_le 9 _)
  · obtain ⟨rfl, -⟩ := Prod.mk.inj (Option.some.inj h)
    decide

private theorem offset_emod_of_offset? {separator : List Char → Option (List Char)}
    {cs rest : List Char} {offset : Int}
    (h : offset? separator cs = some (offset, rest)) : offset % 60 = 0 := by
  rw [offset?.eq_def] at h
  split at h
  · obtain ⟨rfl, -⟩ := Prod.mk.inj (Option.some.inj h)
    rfl
  · obtain ⟨rfl, -⟩ := Prod.mk.inj (Option.some.inj h)
    rfl
  · obtain ⟨⟨sign, cs⟩, -, h⟩ := Option.bind_eq_some_iff.mp h
    obtain ⟨⟨hours, cs⟩, -, h⟩ := Option.bind_eq_some_iff.mp h
    obtain ⟨cs, -, h⟩ := Option.bind_eq_some_iff.mp h
    obtain ⟨⟨minutes, cs⟩, -, h⟩ := Option.bind_eq_some_iff.mp h
    obtain ⟨-, heq⟩ := Option.ite_none_right_eq_some.mp h
    obtain ⟨rfl, -⟩ := Prod.mk.inj (Option.some.inj heq)
    have hminutes : ((hours * 3600 + minutes * 60 : Nat) : Int) = (hours * 60 + minutes) * 60 := by
      omega
    rw [hminutes, ← Int.mul_assoc]
    exact Int.mul_emod_left _ _

end CivilTime

namespace Instant

private theorem offset_and_nano_of_timestamp? {cs : List Char} {c : CivilTime}
    (h : timestamp? cs = some c) :
    c.offset % 60 = 0 ∧ c.nano < 1000000000 := by
  obtain ⟨⟨year, cs⟩, -, h⟩ := Option.bind_eq_some_iff.mp h
  obtain ⟨cs, -, h⟩ := Option.bind_eq_some_iff.mp h
  obtain ⟨⟨month, cs⟩, -, h⟩ := Option.bind_eq_some_iff.mp h
  obtain ⟨cs, -, h⟩ := Option.bind_eq_some_iff.mp h
  obtain ⟨⟨day, cs⟩, -, h⟩ := Option.bind_eq_some_iff.mp h
  obtain ⟨cs, -, h⟩ := Option.bind_eq_some_iff.mp h
  obtain ⟨⟨hour, cs⟩, -, h⟩ := Option.bind_eq_some_iff.mp h
  obtain ⟨cs, -, h⟩ := Option.bind_eq_some_iff.mp h
  obtain ⟨⟨minute, cs⟩, -, h⟩ := Option.bind_eq_some_iff.mp h
  obtain ⟨cs, -, h⟩ := Option.bind_eq_some_iff.mp h
  obtain ⟨⟨second, cs⟩, -, h⟩ := Option.bind_eq_some_iff.mp h
  obtain ⟨⟨nano, cs⟩, hnano, h⟩ := Option.bind_eq_some_iff.mp h
  obtain ⟨⟨offset, cs⟩, hoffset, h⟩ := Option.bind_eq_some_iff.mp h
  obtain ⟨-, heq⟩ := Option.ite_none_right_eq_some.mp h
  obtain rfl := Option.some.inj heq
  refine ⟨?_, CivilTime.nano_lt_of_fraction? hnano⟩
  rw [utcOrOffset?] at hoffset
  split at hoffset
  · obtain ⟨rfl, -⟩ := Prod.mk.inj (Option.some.inj hoffset)
    rfl
  · exact CivilTime.offset_emod_of_offset? hoffset

/-- A leap second that was stored ends a minute. -/
theorem endsMinuteInLeap_of_ofTimestamp? {s : String} {t : Instant} (h : ofTimestamp? s = some t) :
    t.EndsMinuteInLeap := by
  obtain ⟨c, hc, ht⟩ := Option.bind_eq_some_iff.mp h
  obtain ⟨hoffset, hnano⟩ := offset_and_nano_of_timestamp? hc
  exact CivilTime.endsMinuteInLeap_of_toInstant? ht hoffset hnano

end Instant

/-! ### Parts of documents -/

namespace Document

variable {p : Document → Prop} {d : Document}

private theorem Throughout.of_record? (hd : d.Throughout p) {names : List String}
    {fs : List (Option Document)}
    (h : d.record? names = some fs) {f : Document} (hf : some f ∈ fs) : f.Throughout p := by
  cases hd with
  | @list items hitems =>
    simp only [record?, orderedFields?, Option.ite_none_left_eq_some, Option.some.injEq] at h
    obtain ⟨-, rfl⟩ := h
    rcases List.mem_append.mp hf with hf | hf
    · obtain ⟨e, he, heq⟩ := List.mem_map.mp hf
      exact Option.some.inj heq ▸ hitems e he
    · cases (List.mem_replicate.mp hf).2
  | @object fields hfields =>
    simp only [record?, namedFields?, Option.ite_none_left_eq_some, Option.some.injEq] at h
    obtain ⟨-, rfl⟩ := h
    obtain ⟨name, -, hlookup⟩ := List.mem_map.mp hf
    obtain ⟨before, after, rfl, -⟩ := List.lookup_eq_some_iff.mp hlookup
    exact hfields (name, f) (List.mem_append_right before List.mem_cons_self)
  | _ => cases h

private theorem Throughout.of_fields? {α : Type} {read : Document → Option α}
    {fs : List (String × α)} (hd : d.Throughout p)
    (h : fields? read d = some fs) {f : String × α} (hf : f ∈ fs) :
    ∃ e : Document, e.Throughout p ∧ read e = some f.2 := by
  cases hd with
  | @object fields hfields =>
    obtain ⟨⟨name, e⟩, hmem, hread⟩ := exists_mem_of_forall₂ (mapM_eq_some_iff.mp h) hf
    obtain ⟨v, hv, rfl⟩ := Option.map_eq_some_iff.mp hread
    exact ⟨e, hfields _ hmem, hv⟩
  | _ => cases h

private theorem exists_of_optional {α : Type} {read : Document → Option α} {field : Option Document}
    {v : α} (h : optional read field = some (some v)) : ∃ f, field = some f ∧ read f = some v := by
  rw [optional.eq_def] at h
  split at h
  · cases h
  · cases h
  · next f _ =>
    obtain ⟨w, hw, heq⟩ := Option.map_eq_some_iff.mp h
    exact ⟨f, rfl, Option.some.inj heq ▸ hw⟩

private theorem exists_of_defaulted {α : Type} {read : Document → Option (List α)}
    {field : Option Document} {vs : List α} {v : α}
    (h : defaulted [] read field = some vs) (hv : v ∈ vs) :
    ∃ f, field = some f ∧ read f = some vs := by
  cases field with
  | none =>
    obtain rfl := Option.some.inj h
    cases hv
  | some f => exact ⟨f, rfl, h⟩

private theorem isFinite_of_number? (hd : d.Throughout InRange) {x : Double}
    (h : d.number? = some x) : x.isFinite = true := by
  cases hd with
  | integer hn =>
    obtain rfl := Option.some.inj h
    exact (atMostPower_ofQuotient_word hn _).isFinite (by decide)
  | real hx =>
    obtain rfl := Option.some.inj h
    exact hx
  | _ => cases h

end Document

/-! ### Attributes -/

namespace Attribute

open Document

variable {d : Document} {a : Attribute}

/-- What a document can hold: times in a leap second only at the end of a minute, finite numbers,
texts that are no times. -/
def Stored : Attribute → Prop
  | time t => t.EndsMinuteInLeap
  | number x => x.isFinite = true
  | text s => Instant.ofTimestamp? s = none

/-- An attribute that was read can be held by a document. -/
theorem stored_of_ofDocument? (hd : d.Throughout InRange) (h : ofDocument? d = some a) :
    a.Stored := by
  have hnumber (h : d.number?.map number = some a) : a.Stored := by
    obtain ⟨x, hx, rfl⟩ := Option.map_eq_some_iff.mp h
    exact isFinite_of_number? hd hx
  cases d with
  | text s =>
    obtain rfl := Option.some.inj h
    cases hs : Instant.ofTimestamp? s with
    | none => exact hs
    | some t => exact Instant.endsMinuteInLeap_of_ofTimestamp? hs
  | _ => exact hnumber h

/-- An attribute that a document can hold is read back with its kind. -/
theorem ofDocument?_toDocument (h : a.Stored) : ofDocument? a.toDocument = some a := by
  cases a with
  | time t => rw [toDocument, ofDocument?, Instant.ofTimestamp?_zulu h, Option.elim_some]
  | number x => rfl
  | text s =>
    have hs : Instant.ofTimestamp? s = none := h
    rw [toDocument, ofDocument?, hs, Option.elim_none]

end Attribute

/-! ### Footprints -/

namespace Envelope

open Document

/-- An envelope that was read has finite numbers. -/
theorem isFinite_of_ofDocument? {d : Document} {e : Envelope} (hd : d.Throughout InRange)
    (h : ofDocument? d = some e) {x : Double} (hx : x ∈ e.corners) : x.isFinite = true := by
  rw [ofDocument?] at h
  obtain ⟨fs, hfs, h⟩ := Option.bind_eq_some_iff.mp h
  split at h
  · next minX minY maxX maxY =>
    have hfield (f : Option Document) (hf : f ∈ [minX, minY, maxX, maxY]) {y : Double}
        (hy : required number? f = some y) : y.isFinite = true := by
      obtain ⟨g, rfl, hg⟩ := Option.bind_eq_some_iff.mp hy
      exact isFinite_of_number? (hd.of_record? hfs hf) hg
    obtain ⟨x₁, h₁, h⟩ := Option.bind_eq_some_iff.mp h
    obtain ⟨x₂, h₂, h⟩ := Option.bind_eq_some_iff.mp h
    obtain ⟨x₃, h₃, h⟩ := Option.bind_eq_some_iff.mp h
    obtain ⟨x₄, h₄, h⟩ := Option.bind_eq_some_iff.mp h
    obtain rfl := Option.some.inj h
    simp only [corners, List.mem_cons, List.not_mem_nil, or_false] at hx
    rcases hx with rfl | rfl | rfl | rfl
    · exact hfield minX (by simp) h₁
    · exact hfield minY (by simp) h₂
    · exact hfield maxX (by simp) h₃
    · exact hfield maxY (by simp) h₄
  · cases h

/-- An envelope is read back. -/
theorem ofDocument?_toDocument (e : Envelope) : ofDocument? e.toDocument = some e := by
  have hrecord : e.toDocument.record? ["min_x", "min_y", "max_x", "max_y"] =
      some [some (.real e.minX), some (.real e.minY), some (.real e.maxX),
        some (.real e.maxY)] := by
    simp [toDocument, record?, namedFields?, List.lookup_cons]
  rw [ofDocument?, hrecord]
  rfl

end Envelope

/-! ### Records -/

namespace Granule

open Document

variable {d : Document} {g : Granule}

/-- Attributes that are set one after the other are among those that were given. -/
theorem mem_of_foldl_insert {as : List (String × Attribute)}
    {map : Std.ExtTreeMap String Attribute} {name : String} {a : Attribute}
    (h : (as.foldl (fun map (p : String × Attribute) ↦ map.insert p.1 p.2) map)[name]? = some a) :
    map[name]? = some a ∨ (name, a) ∈ as := by
  induction as generalizing map with
  | nil => exact .inl h
  | cons b as ih =>
    rcases ih h with h | h
    · rw [Std.ExtTreeMap.getElem?_insert] at h
      split at h
      · next heq =>
        obtain rfl := Option.some.inj h
        obtain rfl := Std.LawfulEqCmp.eq_of_compare heq
        exact .inr List.mem_cons_self
      · exact .inl h
    · exact .inr (List.mem_cons_of_mem b h)

private theorem foldl_insert_toList (map : Std.ExtTreeMap String Attribute) :
    map.toList.foldl (fun map (p : String × Attribute) ↦ map.insert p.1 p.2) ∅ = map := by
  rw [← Std.ExtTreeMap.insertMany_list_eq_foldl]
  apply Std.ExtTreeMap.ext_getElem?
  intro name
  cases h : map[name]? with
  | some a =>
    exact Std.ExtTreeMap.getElem?_insertMany_list_of_mem Std.ReflCmp.compare_self
      Std.ExtTreeMap.distinct_keys_toList
      (Std.ExtTreeMap.mem_toList_iff_getElem?_eq_some.mpr h)
  | none =>
    have hkeys : (map.toList.map Prod.fst).contains name = false := by
      rw [Std.ExtTreeMap.map_fst_toList_eq_keys, Std.ExtTreeMap.contains_keys,
        Std.ExtTreeMap.contains_eq_isSome_getElem?, h]
      rfl
    rw [Std.ExtTreeMap.getElem?_insertMany_list_of_contains_eq_false hkeys]
    exact Std.ExtTreeMap.getElem?_empty

/-- The numbers of a record, in its footprint and its attributes. -/
def numbers (g : Granule) : List Double :=
  g.footprint.elim [] Envelope.corners ++ g.attributes.toList.filterMap fun p ↦ p.2.number?

/-- A document can hold the record. -/
structure Stored (g : Granule) : Prop where
  footprint : ∀ e, g.footprint = some e → ∀ x ∈ e.corners, x.isFinite = true
  attributes : ∀ name a, g.attribute? name = some a → a.Stored

private theorem Stored.isFinite_of_mem_numbers (h : g.Stored) {x : Double} (hx : x ∈ g.numbers) :
    x.isFinite = true := by
  rcases List.mem_append.mp hx with hx | hx
  · cases he : g.footprint with
    | none =>
      rw [he] at hx
      cases hx
    | some e =>
      rw [he] at hx
      exact h.footprint e he x hx
  · obtain ⟨⟨name, a⟩, hmem, ha⟩ := List.mem_filterMap.mp hx
    have hstored := h.attributes name a (Std.ExtTreeMap.mem_toList_iff_getElem?_eq_some.mp hmem)
    cases a with
    | number y =>
      obtain rfl := Option.some.inj ha
      exact hstored
    | _ => cases ha

/-- A record that was read can be held by a document. -/
theorem stored_of_ofDocument? (hd : d.Throughout InRange) (h : ofDocument? d = some g) :
    g.Stored := by
  rw [ofDocument?] at h
  obtain ⟨fs, hfs, h⟩ := Option.bind_eq_some_iff.mp h
  split at h
  · next id footprint attributes =>
    obtain ⟨id', -, h⟩ := Option.bind_eq_some_iff.mp h
    obtain ⟨footprint', hfootprint, h⟩ := Option.bind_eq_some_iff.mp h
    obtain ⟨attributes', hattributes, h⟩ := Option.bind_eq_some_iff.mp h
    obtain rfl := Option.some.inj h
    constructor
    · rintro e rfl x hx
      obtain ⟨f, rfl, he⟩ := exists_of_optional hfootprint
      exact Envelope.isFinite_of_ofDocument? (hd.of_record? hfs (by simp)) he hx
    · intro name a ha
      obtain hempty | hmem := mem_of_foldl_insert ha
      · rw [Std.ExtTreeMap.getElem?_empty] at hempty
        cases hempty
      · obtain ⟨f, rfl, hf⟩ := exists_of_defaulted hattributes hmem
        obtain ⟨e, he, hea⟩ := (hd.of_record? hfs (by simp)).of_fields? hf hmem
        exact Attribute.stored_of_ofDocument? he hea
  · cases h

/-- The document form of a record whose attributes are written in a way of their own. -/
def documentWith (write : Attribute → Document) (g : Granule) : Document :=
  .object [("id", .text g.id), ("footprint", ofOption Envelope.toDocument g.footprint),
    ("attributes", .object (g.attributes.toList.map fun p ↦ (p.1, write p.2)))]

/-- A record is read back from a document from which each of its attributes is. -/
theorem ofDocument?_documentWith {write : Attribute → Document}
    (h : ∀ name a, g.attribute? name = some a → Attribute.ofDocument? (write a) = some a) :
    ofDocument? (g.documentWith write) = some g := by
  have hrecord : (g.documentWith write).record? ["id", "footprint", "attributes"] =
      some [some (.text g.id), some (ofOption Envelope.toDocument g.footprint),
        some (.object (g.attributes.toList.map fun p ↦ (p.1, write p.2)))] := by
    simp [documentWith, record?, namedFields?, List.lookup_cons]
  have hfootprint : optional Envelope.ofDocument?
    (some (ofOption Envelope.toDocument g.footprint)) = some g.footprint := by
    cases g.footprint with
    | none => rfl
    | some e => exact congrArg (Option.map some) e.ofDocument?_toDocument
  have hattributes : fields? Attribute.ofDocument?
    (.object (g.attributes.toList.map fun p ↦ (p.1, write p.2))) =
      some g.attributes.toList := by
    refine mapM_eq_some_iff.mpr (List.forall₂_map_left_iff.mpr (List.forall₂_same.mpr ?_))
    rintro ⟨name, a⟩ hmem
    dsimp only
    rw [h name a (Std.ExtTreeMap.mem_toList_iff_getElem?_eq_some.mp hmem)]
    rfl
  rw [ofDocument?, hrecord]
  simp only [Option.bind_eq_bind, Option.bind_some, required, text?, hfootprint, defaulted,
    hattributes]
  congr 2
  exact foldl_insert_toList g.attributes

/-- A record that a document can hold is read back. -/
theorem ofDocument?_toDocument (h : g.Stored) : ofDocument? g.toDocument = some g :=
  ofDocument?_documentWith fun name a ha ↦ Attribute.ofDocument?_toDocument (h.attributes name a ha)

/-- The document of a record has a property throughout if its numbers and its written attributes
have it. -/
theorem throughout_documentWith {p : Document → Prop} {write : Attribute → Document}
    (hfootprint : ∀ e, g.footprint = some e → ∀ x ∈ e.corners, p (real x))
    (hattributes : ∀ name a, g.attribute? name = some a → (write a).Throughout p) :
    (g.documentWith write).Throughout p := by
  have hwritten : (ofOption Envelope.toDocument g.footprint).Throughout p := by
    cases he : g.footprint with
    | none => exact .null
    | some e =>
      have hcorner := hfootprint e he
      simp only [Envelope.corners, List.forall_mem_cons] at hcorner
      obtain ⟨h₁, h₂, h₃, h₄, -⟩ := hcorner
      refine .object ?_
      simp only [List.forall_mem_cons]
      exact ⟨.real h₁, .real h₂, .real h₃, .real h₄, by simp⟩
  refine .object ?_
  simp only [List.forall_mem_cons]
  refine ⟨.text _, hwritten, .object ?_, by simp⟩
  intro f hf
  obtain ⟨⟨name, a⟩, hmem, rfl⟩ := List.mem_map.mp hf
  exact hattributes name a (Std.ExtTreeMap.mem_toList_iff_getElem?_eq_some.mp hmem)

/-- The document of a record is legible if the numbers of the record are. -/
theorem throughout_toDocument (h : ∀ x ∈ g.numbers, (real x).ReadsBack) :
    g.toDocument.Throughout ReadsBack := by
  refine throughout_documentWith ?_ ?_
  · intro e he x hx
    apply h x
    rw [numbers, he]
    exact List.mem_append_left _ hx
  · intro name a ha
    cases a with
    | time t => exact .text _
    | number x =>
      have hmem := Std.ExtTreeMap.mem_toList_iff_getElem?_eq_some.mpr ha
      exact .real (h x (List.mem_append_right _ (List.mem_filterMap.mpr ⟨_, hmem, rfl⟩)))
    | text s => exact .text s

/-- Reads a record from the text of a document. -/
def ofText? (text : String) : Option Granule := (ofLenientText? text).bind ofDocument?

/-- A record that was read from a text is read back from its document, on one line and over several,
if each finite number in it is when printed alone; its times are read back as the same times, and
its texts are no times. -/
theorem ofText?_toDocument {text : String} (h : ofText? text = some g)
    (hnumbers : ∀ x ∈ g.numbers, x.isFinite = true → (real x).ReadsBack) :
    ofText? g.toDocument.compact = some g ∧ ofText? g.toDocument.pretty = some g ∧
      (∀ name t, g.attribute? name = some (.time t) → Instant.ofTimestamp? t.zulu = some t) ∧
      ∀ name s, g.attribute? name = some (.text s) → Instant.ofTimestamp? s = none := by
  obtain ⟨d, hd, hg⟩ := Option.bind_eq_some_iff.mp h
  have hstored := stored_of_ofDocument? (throughout_of_ofLenientText? hd) hg
  have hlegible :=
    throughout_toDocument fun x hx ↦ hnumbers x hx (hstored.isFinite_of_mem_numbers hx)
  have hback (indented : Bool) :
    ofText? (String.ofList (render indented 0 g.toDocument)) = some g := by
    rw [ofText?, ofLenientText?_render hlegible, Option.bind_some, ofDocument?_toDocument hstored]
  refine ⟨hback false, hback true, ?_, ?_⟩
  · intro name t ht
    exact Instant.ofTimestamp?_zulu (hstored.attributes name _ ht)
  · intro name s hs
    exact hstored.attributes name _ hs

/-- Two and a half is read back. -/
theorem readsBack_fiveHalves : (real ⟨false, 0x4004000000000000, by decide⟩).ReadsBack := by rfl

/-- A leap second of the year -44, a depth and a date, which is no time here. -/
theorem ofText?_toDocument_leapSecond :
    let text :=
      "\x7b\"id\":\"g\",\"attributes\":\x7b\"at\":\"-0044-03-15 12:00:60.5+01:30\"," ++
      "\"depth\":2.5,\"note\":\"2020-01-01\"\x7d\x7d"
    let t : Instant := { day := -735525, second := 37859, nano := 1500000000 }
    let depth : Double := ⟨false, 0x4004000000000000, by decide⟩
    ∃ g, (ofText? text = some g ∧ g.numbers = [depth] ∧ (real depth).ReadsBack) ∧
      g.attribute? "at" = some (.time t) ∧ g.attribute? "note" = some (.text "2020-01-01") ∧
      ofText? g.toDocument.compact = some g ∧
      Instant.ofTimestamp? "-0044-03-15T10:30:60.500Z" = some t := by
  intro text t depth
  have hread : (ofText? text).map (fun g ↦ (g.numbers, g.attribute? "at", g.attribute? "note")) =
      some ([depth], some (.time t), some (.text "2020-01-01")) := by decide +kernel
  obtain ⟨g, hg, hvalues⟩ := Option.map_eq_some_iff.mp hread
  obtain ⟨hnumbers, hvalues⟩ := Prod.mk.inj hvalues
  obtain ⟨hat, hnote⟩ := Prod.mk.inj hvalues
  have hdepth : (real depth).ReadsBack := readsBack_fiveHalves
  have hback : ∀ x ∈ g.numbers, x.isFinite = true → (real x).ReadsBack := by
    intro x hx _
    rw [hnumbers, List.mem_singleton] at hx
    exact hx ▸ hdepth
  obtain ⟨hcompact, -, htimes, -⟩ := ofText?_toDocument hg hback
  have hwritten : t.zulu = "-0044-03-15T10:30:60.500Z" := by decide +kernel
  exact ⟨g, ⟨hg, hnumbers, hdepth⟩, hat, hnote, hcompact, hwritten ▸ htimes "at" t hat⟩

end Granule

end CoverageSubset

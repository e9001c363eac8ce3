import CoverageSubset.Document.Printer
import CoverageSubset.Proofs.Double.Written

/-!
# Reading printed documents

A printed document is read back, on one line as over several, if each of its numbers is when printed
alone, and nothing in it is meaningless. The reader follows the printer: a text character by
character, a list item by item, an object field by field, with fuel for every character that was
printed.
-/

namespace CoverageSubset

namespace Document

/-- Numbers and meaningless values have a property, wherever they stand in a document. -/
inductive Throughout (p : Document → Prop) : Document → Prop where
  | null : Throughout p null
  | bool (b : Bool) : Throughout p (bool b)
  | integer {n : Int} (h : p (integer n)) : Throughout p (integer n)
  | real {x : Double} (h : p (real x)) : Throughout p (real x)
  | text (s : String) : Throughout p (text s)
  | list {items : List Document} (h : ∀ d ∈ items, Throughout p d) : Throughout p (list items)
  | object {fields : List (String × Document)} (h : ∀ f ∈ fields, Throughout p f.2) :
    Throughout p (object fields)
  | meaningless (h : p meaningless) : Throughout p meaningless

/-- The document is read back from its text on one line. -/
def ReadsBack (d : Document) : Prop := ofLenientText? d.compact = some d

variable {strict indented : Bool} {n depth k : Nat} {rest : List Char}

/-! ### Texts -/

private theorem readCode_control {c : Char} (h : c.toNat < 0x20) (cs : List Char) :
    readCode strict (List.leftpad 4 '0' (Nat.toDigits 16 c.toNat) ++ cs) = .ok (some c, cs) := by
  have hcode : ∀ m < 0x20, (List.leftpad 4 '0' (Nat.toDigits 16 m)).length = 4 ∧
      Text.inBase? 16 (List.leftpad 4 '0' (Nat.toDigits 16 m)) = some m := by decide +kernel
  obtain ⟨hlength, hvalue⟩ := hcode _ h
  have hunit : readUnit (List.leftpad 4 '0' (Nat.toDigits 16 c.toNat) ++ cs) =
      .ok (c.toNat, cs) := by
    match List.leftpad 4 '0' (Nat.toDigits 16 c.toNat), hlength, hvalue with
    | [a, b, d, e], _, hvalue =>
      simp only [List.cons_append, List.nil_append, readUnit, hvalue]
  have hlow : isLowHalf c.toNat = false := by
    simp only [isLowHalf, Bool.and_eq_false_iff, decide_eq_false_iff_not]
    omega
  have hhigh : isHighHalf c.toNat = false := by
    simp only [isHighHalf, Bool.and_eq_false_iff, decide_eq_false_iff_not]
    omega
  rw [readCode, hunit]
  simp only [bind, Except.bind, hlow, hhigh, Char.ofNat_toNat]
  rfl

private theorem escape_cases (c : Char) :
    (∃ e, shortEscape? e = some c ∧ e ≠ 'u' ∧ escape c = ['\\', e]) ∨
      (c.toNat < 0x20 ∧ escape c = '\\' :: 'u' :: List.leftpad 4 '0' (Nat.toDigits 16 c.toNat)) ∨
      (c ≠ '"' ∧ c ≠ '\\' ∧ ¬ c.toNat < 0x20 ∧ escape c = [c]) := by
  rw [escape]
  split_ifs with h h h h h h h hcontrol
  · exact .inl ⟨'"', by rw [h]; rfl, by decide, rfl⟩
  · exact .inl ⟨'\\', by rw [h]; rfl, by decide, rfl⟩
  · exact .inl ⟨'n', by rw [h]; rfl, by decide, rfl⟩
  · exact .inl ⟨'r', by rw [h]; rfl, by decide, rfl⟩
  · exact .inl ⟨'t', by rw [h]; rfl, by decide, rfl⟩
  · exact .inl ⟨'b', by rw [h]; rfl, by decide, rfl⟩
  · exact .inl ⟨'f', by rw [h]; rfl, by decide, rfl⟩
  · exact .inr (.inl ⟨hcontrol, rfl⟩)
  · exact .inr (.inr ⟨‹_›, ‹_›, hcontrol, rfl⟩)

private theorem readText_escape (c : Char) (before cs : List Char) :
    readText strict (some before) (n + 1) (escape c ++ cs) =
      readText strict (some (c :: before)) n cs := by
  obtain ⟨e, hshort, hcode, h⟩ | ⟨hcontrol, h⟩ | ⟨hquote, hbackslash, hcontrol, h⟩ := escape_cases c
  · rw [h, List.cons_append, List.singleton_append, readText, if_neg (by decide), if_pos rfl,
      hshort]
    · rfl
    · exact hcode
  · have hcode : readCode strict _ = _ := readCode_control hcontrol cs
    simp only [h, List.cons_append, readText, hcode]
    rfl
  · simp only [h, List.cons_append, List.nil_append, readText, if_neg hquote, if_neg hbackslash,
      if_neg hcontrol]
    rfl

/-- A text in quotes is read back after its first quote. -/
theorem readText_quoted {cs before : List Char} (hn : cs.length < n) :
    readText strict (some before) n (cs.flatMap escape ++ '"' :: rest) =
      .ok (some (String.ofList (before.reverse ++ cs)), rest) := by
  induction cs generalizing before n with
  | nil =>
    match n with
    | n + 1 => simp [readText]
  | cons c cs ih =>
    match n with
    | n + 1 =>
      rw [List.flatMap_cons, List.append_assoc, readText_escape, ih (Nat.lt_of_succ_lt_succ hn)]
      simp

private theorem readText_whole {s : String} (strict : Bool) (rest : List Char)
    (hn : s.toList.length < n) :
    readText strict (some []) n (s.toList.flatMap escape ++ '"' :: rest) = .ok (some s, rest) := by
  rw [readText_quoted hn, List.reverse_nil, List.nil_append, String.ofList_toList]

private theorem length_lt_length_quoted (s : String) : s.toList.length + 1 < (quoted s).length := by
  have hescape (cs : List Char) : cs.length ≤ (cs.flatMap escape).length := by
    induction cs with
    | nil => exact Nat.le_refl 0
    | cons c cs ih =>
      have hpos : 0 < (escape c).length := by
        rw [escape]
        split_ifs <;> exact Nat.succ_pos _
      rw [List.flatMap_cons, List.length_append, List.length_cons]
      omega
  have := hescape s.toList
  rw [quoted, List.length_append, List.length_cons, List.length_singleton]
  omega

/-! ### Lists and objects -/

private theorem isSpace_of_mem_lineBreak {c : Char} (h : c ∈ lineBreak indented k) :
    isSpace c = true := by
  rw [lineBreak] at h
  split at h
  · rcases List.mem_cons.mp h with rfl | h
    · rfl
    · rw [(List.mem_replicate.mp h).2]
      rfl
  · cases h

private theorem isSpace_of_mem_afterColon {c : Char} (h : c ∈ afterColon indented) :
    isSpace c = true := by
  rw [afterColon] at h
  split at h
  · rw [List.mem_singleton.mp h]
    rfl
  · cases h

private theorem skipSpace_lineBreak {c : Char} (hc : isSpace c = false) (cs : List Char) :
    skipSpace (lineBreak indented k ++ c :: cs) = c :: cs := by
  rw [skipSpace_append fun _ ↦ isSpace_of_mem_lineBreak, skipSpace_cons hc]

private theorem endsNumber_lineBreak {c : Char} (hc : isNumeric c = false) (cs : List Char) :
    EndsNumber (lineBreak indented k ++ c :: cs) := by
  rw [lineBreak]
  split
  · exact endsNumber_cons rfl
  · exact endsNumber_cons hc

private theorem endsNumber_renderItems {j : Nat} (ds : List Document) :
    EndsNumber (renderItems indented k ds ++ (lineBreak indented j ++ ']' :: rest)) := by
  cases ds with
  | nil => exact endsNumber_lineBreak rfl rest
  | cons d ds =>
    rw [renderItems]
    exact endsNumber_cons rfl

private theorem endsNumber_renderFields {j : Nat} (fs : List (String × Document)) :
    EndsNumber (renderFields indented k fs ++ (lineBreak indented j ++ '\x7d' :: rest)) := by
  cases fs with
  | nil => exact endsNumber_lineBreak rfl rest
  | cons f fs =>
    rw [renderFields]
    exact endsNumber_cons rfl

private theorem readItems_end {value : List Char → Scan (Document × List Char)}
    {before : List Document} {cs : List Char} (hcs : skipSpace cs = ']' :: rest) :
    readItems value before (n + 1) cs = .ok (.list before.reverse, rest) := by
  rw [readItems, hcs]
  rfl

private theorem readItems_first {value : List Char → Scan (Document × List Char)} {c : Char}
    {cs more : List Char}
    (hcs : skipSpace cs = c :: more) (hc : c ≠ ']') :
    readItems value [] (n + 1) cs = value (c :: more) >>= fun p ↦ readItems value [p.1] n p.2 := by
  rw [readItems, hcs]
  split
  · next h => cases h
  · next h => exact absurd (List.cons_eq_cons.mp h).1 hc
  · next h =>
    obtain ⟨rfl, rfl⟩ := List.cons_eq_cons.mp h
    rfl

private theorem readItems_next {value : List Char → Scan (Document × List Char)}
    {before : List Document} {c : Char}
    {cs next more : List Char} (hbefore : before ≠ []) (hcs : skipSpace cs = ',' :: next)
    (hnext : skipSpace next = c :: more) (hc : c ≠ ']') :
    readItems value before (n + 1) cs = value (c :: more) >>= fun p ↦
      readItems value (p.1 :: before) n p.2 := by
  have hempty : ¬ before.isEmpty = true := by simpa using hbefore
  rw [readItems, hcs]
  split
  · next h => cases h
  · next h => cases h
  · next h =>
    obtain ⟨rfl, rfl⟩ := List.cons_eq_cons.mp h
    rw [if_neg hempty, if_pos rfl, hnext]
    split
    · next h => cases h
    · next h => exact absurd (List.cons_eq_cons.mp h).1 hc
    · rfl

/-- The printed form starts with a character of a value. -/
def StartsValue (cs : List Char) : Prop := ∃ c more, cs = c :: more ∧ isSpace c = false ∧ c ≠ ']'

/-- The items of a list after its first are read back, and the end of the list. -/
theorem readItems_renderItems {value : List Char → Scan (Document × List Char)}
    {before ds : List Document} {j : Nat} (hstart : ∀ d ∈ ds, StartsValue (render indented k d))
    (hvalue : ∀ d ∈ ds, ∀ rest, EndsNumber rest →
      value (render indented k d ++ rest) = .ok (d, rest))
    (hbefore : before ≠ []) (hn : ds.length < n) :
    readItems value before n (renderItems indented k ds ++ (lineBreak indented j ++ ']' :: rest)) =
      .ok (.list (before.reverse ++ ds), rest) := by
  induction ds generalizing before n with
  | nil =>
    match n with
    | n + 1 =>
      rw [renderItems, List.nil_append, readItems_end (skipSpace_lineBreak rfl rest),
        List.append_nil]
  | cons d ds ih =>
    match n with
    | n + 1 =>
      rw [List.forall_mem_cons] at hstart hvalue
      obtain ⟨c, more, hd, hspace, hclose⟩ := hstart.1
      have hread := hvalue.1 (renderItems indented k ds ++ (lineBreak indented j ++ ']' :: rest))
        (endsNumber_renderItems ds)
      rw [renderItems, List.append_assoc, List.cons_append, List.cons_append, List.append_assoc]
      rw [hd, List.cons_append] at hread ⊢
      rw [readItems_next hbefore (skipSpace_cons rfl _) (skipSpace_lineBreak hspace _) hclose,
        hread]
      refine (ih hstart.2 hvalue.2 (List.cons_ne_nil d before) (Nat.lt_of_succ_lt_succ hn)).trans ?_
      rw [List.reverse_cons, List.append_assoc, List.singleton_append]

private theorem readFields_end {value : List Char → Scan (Document × List Char)} {first : Bool}
    {before : List (String × Document)} {cs : List Char} (hcs : skipSpace cs = '\x7d' :: rest) :
    readFields strict value first (some before) (n + 1) cs =
      .ok (.object before.reverse, rest) := by
  rw [readFields, hcs]
  rfl

private theorem readFields_field {value : List Char → Scan (Document × List Char)} {first : Bool}
    {before : List (String × Document)} {f : String × Document} {c : Char} {cs more : List Char}
    (hcs : skipSpace cs = c :: more) (hc : c ≠ '\x7d')
    (hstart : fieldStart first c more =
      .ok (f.1.toList.flatMap escape ++
        '"' :: ':' :: (afterColon indented ++ (render indented k f.2 ++ rest))))
    (hvalue : value (afterColon indented ++ (render indented k f.2 ++ rest)) = .ok (f.2, rest))
    (hn : f.1.toList.length < n) :
    readFields strict value first (some before) (n + 1) cs =
      readFields strict value false (some (f :: before)) n rest := by
  rw [readFields, hcs]
  split
  · next h => cases h
  · next h => exact absurd (List.cons_eq_cons.mp h).1 hc
  · next h =>
    obtain ⟨rfl, rfl⟩ := List.cons_eq_cons.mp h
    rw [hstart]
    have hname :=
      readText_whole strict (':' :: (afterColon indented ++ (render indented k f.2 ++ rest))) hn
    have hcolon (cs : List Char) : readColon (':' :: cs) = .ok cs := rfl
    simp only [bind, Except.bind, hname, hcolon, hvalue]
    rfl

private theorem fieldStart_next (cs : List Char) :
    fieldStart false ',' (lineBreak indented k ++ '"' :: cs) = .ok cs := by
  rw [fieldStart, skipSpace_lineBreak rfl]
  rfl

private theorem renderField_append (f : String × Document) (cs : List Char) :
    renderField indented k f ++ cs =
      '"' :: (f.1.toList.flatMap escape ++
        '"' :: ':' :: (afterColon indented ++ (render indented k f.2 ++ cs))) := by
  obtain ⟨name, d⟩ := f
  simp [renderField, quoted]

private theorem length_name_lt (indented : Bool) (k : Nat) (f : String × Document) :
    f.1.toList.length < (renderField indented k f).length := by
  obtain ⟨name, d⟩ := f
  have := length_lt_length_quoted name
  simp only [renderField, List.length_append]
  omega

/-- The fields of an object after its first are read back, and the end of the object. -/
theorem readFields_renderFields {value : List Char → Scan (Document × List Char)}
    {before fs : List (String × Document)} {j : Nat}
    (hvalue : ∀ f ∈ fs, ∀ rest, EndsNumber rest →
      value (afterColon indented ++ (render indented k f.2 ++ rest)) = .ok (f.2, rest))
    (hn : (renderFields indented k fs).length < n) :
    readFields strict value false (some before) n
        (renderFields indented k fs ++ (lineBreak indented j ++ '\x7d' :: rest)) =
      .ok (.object (before.reverse ++ fs), rest) := by
  induction fs generalizing before n with
  | nil =>
    match n with
    | n + 1 =>
      rw [renderFields, List.nil_append, readFields_end (skipSpace_lineBreak rfl rest),
        List.append_nil]
  | cons f fs ih =>
    match n with
    | n + 1 =>
      rw [List.forall_mem_cons] at hvalue
      have hname := length_name_lt indented k f
      rw [renderFields, List.length_append, List.cons_append, List.length_cons, List.length_append]
        at hn
      rw [renderFields, List.append_assoc, List.cons_append, List.cons_append, List.append_assoc,
        renderField_append]
      rw [readFields_field (skipSpace_cons rfl _) (by decide) (fieldStart_next _)
        (hvalue.1 _ (endsNumber_renderFields fs)) (by omega)]
      refine (ih hvalue.2 (by omega)).trans ?_
      rw [List.reverse_cons, List.append_assoc, List.singleton_append]

/-! ### Numbers -/

/-- A number that is read back is finite. -/
theorem isFinite_of_readsBack {x : Double} (h : (real x).ReadsBack) : x.isFinite = true := by
  by_contra hfinite
  have hwrite : (real x).compact = "null" := by
    rw [compact, render, Double.write]
    split
    · rfl
    · rw [if_pos (by simpa using hfinite)]
      split <;> rfl
  rw [ReadsBack, hwrite] at h
  have hnull : ofLenientText? "null" = some null := by rfl
  rw [hnull] at h
  cases h

private theorem exists_numeral_of_readsBack {d : Document} (h : d.ReadsBack)
    (hd : (∃ m, d = integer m) ∨ ∃ x, d = real x) :
    ∃ negative ds, IsNumeral ds ∧ readAll false (withSign negative ds) = .ok d ∧
      ∀ indented k, render indented k d = withSign negative ds := by
  have hread : readAll false (render false 0 d) = .ok d := by
    rw [ReadsBack, ofLenientText?, compact, String.toList_ofList] at h
    exact toOption_eq_some_iff.mp h
  rcases hd with ⟨m, rfl⟩ | ⟨x, rfl⟩
  · have hwritten : render false 0 (integer m) =
      withSign (decide (m < 0)) (Text.decimal m.natAbs) := by
      rw [render, Text.signed, withSign]
      simp only [decide_eq_true_eq]
    rw [hwritten] at hread
    have hdigits : IsNumeral (Text.decimal m.natAbs) :=
      ⟨Text.startsWithDigit_decimal _,
        fun c hc ↦ isNumeric_of_isDigit (Text.isDigit_of_mem_decimal hc)⟩
    refine ⟨_, _, hdigits, hread, fun indented k ↦ ?_⟩
    rw [← hwritten, render, render]
  · obtain ⟨ds, hds, hwritten⟩ := Double.exists_write_eq (isFinite_of_readsBack h) Double.document
    rw [render, hwritten] at hread
    refine ⟨_, ds, hds, hread, fun indented k ↦ ?_⟩
    rw [render, hwritten]

/-! ### Whole documents -/

/-- Blanks before a value are skipped. -/
theorem readValue_append {blanks : List Char} (h : ∀ c ∈ blanks, isSpace c = true)
    (cs : List Char) :
    readValue strict (n + 1) depth (blanks ++ cs) = readValue strict (n + 1) depth cs := by
  rw [readValue, readValue, skipSpace_append h]

/-- The printed form of a document starts a value. -/
theorem startsValue_render {d : Document} (hd : d.Throughout ReadsBack) :
    StartsValue (render indented k d) := by
  have hnumber (h : d.ReadsBack) (hd : (∃ m, d = integer m) ∨ ∃ x, d = real x) :
    StartsValue (render indented k d) := by
    obtain ⟨negative, ds, hds, -, hrender⟩ := exists_numeral_of_readsBack h hd
    rw [hrender]
    match ds with
    | c :: ds =>
      have hc : c.isDigit = true := (Text.startsWithDigit_cons c ds) ▸ hds.startsWithDigit
      cases negative with
      | true => exact ⟨_, _, rfl, rfl, by decide⟩
      | false =>
        exact ⟨_, _, rfl, isSpace_of_isNumeric (isNumeric_of_isDigit hc), ne_of_isDigit hc rfl⟩
  cases hd with
  | null => exact ⟨_, _, rfl, rfl, by decide⟩
  | bool b => cases b <;> exact ⟨_, _, rfl, rfl, by decide⟩
  | integer h => exact hnumber h (.inl ⟨_, rfl⟩)
  | real h => exact hnumber h (.inr ⟨_, rfl⟩)
  | text s => exact ⟨_, _, rfl, rfl, by decide⟩
  | @list items h => cases items <;> exact ⟨_, _, rfl, rfl, by decide⟩
  | @object fields h => cases fields <;> exact ⟨_, _, rfl, rfl, by decide⟩
  | meaningless h => exact ⟨_, _, rfl, rfl, by decide⟩

private theorem length_render_lt_of_mem (indented : Bool) (k : Nat) {d : Document}
    {ds : List Document} (h : d ∈ ds) :
    (render indented k d).length < (renderItems indented k ds).length := by
  induction ds with
  | nil => cases h
  | cons e ds ih =>
    rw [renderItems, List.length_append, List.cons_append, List.length_cons, List.length_append]
    rcases List.mem_cons.mp h with rfl | h
    · omega
    · have := ih h
      omega

private theorem length_le_length_renderItems (indented : Bool) (k : Nat) (ds : List Document) :
    ds.length ≤ (renderItems indented k ds).length := by
  induction ds with
  | nil => exact Nat.zero_le _
  | cons d ds ih =>
    rw [renderItems, List.length_append, List.cons_append, List.length_cons, List.length_cons]
    omega

private theorem length_value_lt (indented : Bool) (k : Nat) (f : String × Document) :
    (render indented k f.2).length < (renderField indented k f).length := by
  obtain ⟨name, d⟩ := f
  simp only [renderField, List.length_append, List.length_cons]
  omega

private theorem length_value_lt_of_mem (indented : Bool) (k : Nat) {f : String × Document}
    {fs : List (String × Document)} (h : f ∈ fs) :
    (render indented k f.2).length < (renderFields indented k fs).length := by
  induction fs with
  | nil => cases h
  | cons g fs ih =>
    rw [renderFields, List.length_append, List.cons_append, List.length_cons, List.length_append]
    rcases List.mem_cons.mp h with rfl | h
    · have := length_value_lt indented k f
      omega
    · have := ih h
      omega

private theorem length_item_lt (indented : Bool) (k : Nat) {d : Document} {items : List Document}
    (h : d ∈ items) :
    (render indented (k + 1) d).length + 1 < (render indented k (list items)).length := by
  cases items with
  | nil => cases h
  | cons e ds =>
    rw [render]
    simp only [List.cons_append, List.length_cons, List.length_append, List.length_nil]
    rcases List.mem_cons.mp h with rfl | h
    · omega
    · have := length_render_lt_of_mem indented (k + 1) h
      omega

private theorem length_field_lt (indented : Bool) (k : Nat) {f : String × Document}
    {fields : List (String × Document)} (h : f ∈ fields) :
    (render indented (k + 1) f.2).length + 1 < (render indented k (object fields)).length := by
  cases fields with
  | nil => cases h
  | cons g fs =>
    rw [render]
    simp only [List.cons_append, List.length_cons, List.length_append, List.length_nil]
    rcases List.mem_cons.mp h with rfl | h
    · have := length_value_lt indented (k + 1) f
      omega
    · have := length_value_lt_of_mem indented (k + 1) h
      omega

/-- A printed list is read back if its items are. -/
theorem readValue_list {items : List Document}
    (hstart : ∀ d ∈ items, StartsValue (render indented (k + 1) d))
    (hvalue : ∀ d ∈ items, ∀ rest, EndsNumber rest →
      readValue false n (depth + 1) (render indented (k + 1) d ++ rest) = .ok (d, rest))
    (hn : (render indented k (list items)).length < n + 1) :
    readValue false (n + 1) depth (render indented k (list items) ++ rest) =
      .ok (list items, rest) := by
  have hstep (cs : List Char) : readValue false (n + 1) depth ('[' :: cs) =
      readItems (readValue false n (depth + 1)) [] n cs := rfl
  cases items with
  | nil =>
    match n with
    | n + 1 => exact (hstep _).trans (readItems_end rfl)
  | cons d ds =>
    rw [List.forall_mem_cons] at hstart hvalue
    obtain ⟨c, more, hd, hspace, hclose⟩ := hstart.1
    have hread :=
      hvalue.1 (renderItems indented (k + 1) ds ++ (lineBreak indented k ++ ']' :: rest))
      (endsNumber_renderItems ds)
    have hlength := length_le_length_renderItems indented (k + 1) ds
    rw [render] at hn ⊢
    simp only [List.cons_append, List.append_assoc, List.nil_append, List.length_cons,
      List.length_append] at hn ⊢
    rw [hd, List.cons_append] at hread ⊢
    obtain ⟨m, rfl⟩ : ∃ m, n = m + 1 := ⟨n - 1, by omega⟩
    rw [hstep, readItems_first (skipSpace_lineBreak hspace _) hclose, hread]
    exact readItems_renderItems hstart.2 hvalue.2 (List.cons_ne_nil d []) (by omega)

/-- A printed object is read back if the values of its fields are. -/
theorem readValue_object {fields : List (String × Document)}
    (hvalue : ∀ f ∈ fields, ∀ rest, EndsNumber rest →
      readValue false n (depth + 1) (afterColon indented ++ (render indented (k + 1) f.2 ++ rest)) =
        .ok (f.2, rest))
    (hn : (render indented k (object fields)).length < n + 1) :
    readValue false (n + 1) depth (render indented k (object fields) ++ rest) =
      .ok (object fields, rest) := by
  have hstep (cs : List Char) : readValue false (n + 1) depth ('\x7b' :: cs) =
      readFields false (readValue false n (depth + 1)) true (some []) n cs := rfl
  cases fields with
  | nil =>
    match n with
    | n + 1 => exact (hstep _).trans (readFields_end rfl)
  | cons f fs =>
    rw [List.forall_mem_cons] at hvalue
    have hread :=
      hvalue.1 (renderFields indented (k + 1) fs ++ (lineBreak indented k ++ '\x7d' :: rest))
      (endsNumber_renderFields fs)
    have hname := length_name_lt indented (k + 1) f
    rw [render] at hn ⊢
    simp only [List.cons_append, List.append_assoc, List.nil_append, List.length_cons,
      List.length_append] at hn ⊢
    obtain ⟨m, rfl⟩ : ∃ m, n = m + 1 := ⟨n - 1, by omega⟩
    rw [hstep, renderField_append,
      readFields_field (skipSpace_lineBreak rfl _) (by decide) rfl hread (by omega)]
    exact readFields_renderFields hvalue.2 (by omega)

/-- A printed document is read back, with fuel for each of its characters, whatever follows that
ends a number. -/
theorem readValue_render {d : Document} {blanks : List Char} (hd : d.Throughout ReadsBack)
    (hn : (render indented k d).length < n) (hblanks : ∀ c ∈ blanks, isSpace c = true)
    (hrest : EndsNumber rest) :
    readValue false n depth (blanks ++ (render indented k d ++ rest)) = .ok (d, rest) := by
  induction n generalizing d depth k blanks rest with
  | zero => exact absurd hn (Nat.not_lt_zero _)
  | succ n ih =>
    rw [readValue_append hblanks]
    have hnumber (h : d.ReadsBack) (hd : (∃ m, d = integer m) ∨ ∃ x, d = real x) :
        readValue false (n + 1) depth (render indented k d ++ rest) = .ok (d, rest) := by
      obtain ⟨negative, ds, hds, hread, hrender⟩ := exists_numeral_of_readsBack h hd
      rw [hrender]
      exact readValue_of_readAll hds hread n depth hrest
    cases hd with
    | null => rfl
    | bool b => cases b <;> rfl
    | integer h => exact hnumber h (.inl ⟨_, rfl⟩)
    | real h => exact hnumber h (.inr ⟨_, rfl⟩)
    | text s =>
      have hlength := length_lt_length_quoted s
      rw [render] at hn ⊢
      have hread := readText_whole false rest (by omega : s.toList.length < n)
      have hquoted : quoted s ++ rest = '"' :: (s.toList.flatMap escape ++ '"' :: rest) := by
        simp [quoted]
      have hstep (cs : List Char) : readValue false (n + 1) depth ('"' :: cs) =
          readText false (some []) n cs >>= fun p ↦ .ok (p.1.elim .meaningless .text, p.2) := rfl
      rw [hquoted, hstep, hread]
      rfl
    | @list items h =>
      apply readValue_list (fun d hd ↦ startsValue_render (h d hd)) _ hn
      intro d hd rest hrest
      have hlength := length_item_lt indented k hd
      rw [← List.nil_append (render _ _ _ ++ rest)]
      exact ih (h d hd) (by omega) (by simp) hrest
    | @object fields h =>
      apply readValue_object _ hn
      intro f hf rest hrest
      have hlength := length_field_lt indented k hf
      exact ih (h f hf) (by omega) (fun _ ↦ isSpace_of_mem_afterColon) hrest
    | meaningless h =>
      have hnull : ofLenientText? meaningless.compact = some null := by rfl
      rw [ReadsBack, hnull] at h
      cases h

/-- A document is read back from its printed form, on one line and over several, if its numbers
are. -/
theorem ofLenientText?_render {d : Document} (hd : d.Throughout ReadsBack) (indented : Bool) :
    ofLenientText? (String.ofList (render indented 0 d)) = some d := by
  have hread : readValue false _ 0 ([] ++ (render indented 0 d ++ [])) = .ok (d, []) :=
    readValue_render hd (Nat.lt_succ_self _) (by simp) endsNumber_nil
  rw [List.nil_append, List.append_nil] at hread
  rw [ofLenientText?, String.toList_ofList, readAll, hread]
  rfl

end Document

end CoverageSubset

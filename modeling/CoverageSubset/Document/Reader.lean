import CoverageSubset.Document.Number

/-!
# Reading documents

The grammar of JSON, with the place of the first error. A document read strictly must have a meaning
throughout and nest less than 128 deep; one read leniently may hold numbers beyond every double and
halves of surrogate pairs, which become meaningless values.

The place of an error is a line and a column in bytes, both counted from one up to the last
character that was looked at.
-/

namespace CoverageSubset.Document

/-- What is wrong with a text that is no document. -/
inductive Flaw where
  | endInList
  | endInObject
  | endInText
  | endInValue
  | noColon
  | noCommaInList
  | noCommaInObject
  | unknownWord
  | noValue
  | badEscape
  | badNumber
  | numberTooLarge
  | controlCharacter
  | keyNotText
  | loneSurrogate
  | brokenPair
  | trailingComma
  | trailingText
  | tooDeep
deriving DecidableEq

/-- The wording of a flaw. -/
def Flaw.message : Flaw → String
  | endInList => "EOF while parsing a list"
  | endInObject => "EOF while parsing an object"
  | endInText => "EOF while parsing a string"
  | endInValue => "EOF while parsing a value"
  | noColon => "expected `:`"
  | noCommaInList => "expected `,` or `]`"
  | noCommaInObject => "expected `,` or `\x7d`"
  | unknownWord => "expected ident"
  | noValue => "expected value"
  | badEscape => "invalid escape"
  | badNumber => "invalid number"
  | numberTooLarge => "number out of range"
  | controlCharacter => "control character (\\u0000-\\u001F) found while parsing a string"
  | keyNotText => "key must be a string"
  | loneSurrogate => "lone leading surrogate in hex escape"
  | brokenPair => "unexpected end of hex escape"
  | trailingComma => "trailing comma"
  | trailingText => "trailing characters"
  | tooDeep => "recursion limit exceeded"

/-- A flaw, the text from where it was noticed on, and whether the first byte of that text was
looked at. -/
structure ReadFault where
  flaw : Flaw
  rest : List Char
  looked : Bool

/-- A step of reading, which may notice a flaw. -/
abbrev Scan (α : Type) := Except ReadFault α

/-- A flaw noticed after what was read. -/
def failAfter {α : Type} (flaw : Flaw) (rest : List Char) : Scan α := .error ⟨flaw, rest, false⟩

/-- A flaw noticed at the next character. -/
def failAt {α : Type} (flaw : Flaw) (rest : List Char) : Scan α := .error ⟨flaw, rest, true⟩

/-- The blanks between the tokens of a document. -/
def isSpace (c : Char) : Bool := c = ' ' || c = '\n' || c = '\t' || c = '\r'

/-- The text from the next token on. -/
def skipSpace (cs : List Char) : List Char := cs.dropWhile isSpace

/-- Reads the rest of a word. -/
def readWord (d : Document) : List Char → List Char → Scan (Document × List Char)
  | [], cs => .ok (d, cs)
  | _ :: _, [] => failAfter .endInValue []
  | w :: ws, c :: cs => if c = w then readWord d ws cs else failAt .unknownWord (c :: cs)

/-- Reads the four digits of an escape. -/
def readUnit (cs : List Char) : Scan (Nat × List Char) :=
  match cs with
  | a :: b :: c :: d :: rest =>
    match Text.inBase? 16 [a, b, c, d] with
    | some n => .ok (n, rest)
    | none => failAfter .badEscape rest
  | _ => failAfter .endInText []

/-- A high half of a surrogate pair. -/
def isHighHalf (n : Nat) : Bool := 0xD800 ≤ n && n ≤ 0xDBFF

/-- A low half of a surrogate pair. -/
def isLowHalf (n : Nat) : Bool := 0xDC00 ≤ n && n ≤ 0xDFFF

/-- Reads the low half that must follow a high one. -/
def readLowHalf (cs : List Char) : Scan (Nat × List Char) :=
  match cs with
  | [] => failAfter .endInText []
  | '\\' :: 'u' :: rest => do
    let (n, rest) ← readUnit rest
    if isLowHalf n then .ok (n, rest) else failAfter .loneSurrogate rest
  | ['\\'] => failAfter .endInText []
  | '\\' :: rest => failAt .brokenPair rest
  | _ => failAt .brokenPair cs

/-- Reads a character given by its code, after the `u`: nothing for half a pair, if that is
allowed. -/
def readCode (strict : Bool) (cs : List Char) : Scan (Option Char × List Char) := do
  let (n, rest) ← readUnit cs
  if isLowHalf n then if strict then failAfter .loneSurrogate rest else .ok (none, rest)
  else if isHighHalf n then
    match readLowHalf rest with
    | .ok (m, rest) => .ok (some (Char.ofNat (0x10000 + (n - 0xD800) * 0x400 + (m - 0xDC00))), rest)
    | .error fault => if strict then .error fault else .ok (none, rest)
  else .ok (some (Char.ofNat n), rest)

/-- The character of a short escape. -/
def shortEscape? (c : Char) : Option Char :=
  if c = '"' ∨ c = '\\' ∨ c = '/' then some c
  else if c = 'b' then some '\x08'
  else if c = 'f' then some '\x0c'
  else if c = 'n' then some '\n'
  else if c = 'r' then some '\r'
  else if c = 't' then some '\t'
  else none

/-- Reads the characters of a text after its quote, given those before in reverse; nothing if a half
of a pair is among them. -/
def readText (strict : Bool) (before : Option (List Char)) :
    Nat → List Char → Scan (Option String × List Char)
  | 0, cs => failAfter .endInText cs
  | _ + 1, [] => failAfter .endInText []
  | n + 1, c :: cs =>
    if c = '"' then .ok (before.map fun b ↦ String.ofList b.reverse, cs)
    else if c = '\\' then
      match cs with
      | [] => failAfter .endInText []
      | 'u' :: cs => do
        let (code, cs) ← readCode strict cs
        readText strict (before.bind fun b ↦ code.map (· :: b)) n cs
      | e :: cs =>
        match shortEscape? e with
        | some c => readText strict (before.map (c :: ·)) n cs
        | none => failAt .badEscape (e :: cs)
    else if c.toNat < 0x20 then failAfter .controlCharacter cs
    else readText strict (before.map (c :: ·)) n cs

/-- Reads the digits that a number must have somewhere. -/
def readDigits (cs : List Char) : Scan (List Char × List Char) :=
  let ds := Text.leadingDigits cs
  let rest := cs.drop ds.length
  if ds.isEmpty then if rest.isEmpty then failAfter .endInValue rest else failAt .badNumber rest
  else .ok (ds, rest)

/-- Reads the whole part of a number: zero, or digits that do not start with zero. -/
def readWhole (cs : List Char) : Scan (List Char × List Char) :=
  match cs with
  | '0' :: rest =>
    match rest with
    | c :: _ => if c.isDigit then failAt .badNumber rest else .ok (['0'], rest)
    | [] => .ok (['0'], rest)
  | _ => readDigits cs

/-- Reads the fraction of a number, if there is one. -/
def readFraction (cs : List Char) : Scan (Option (List Char) × List Char) :=
  match cs with
  | '.' :: rest => do
    let (ds, rest) ← readDigits rest
    .ok (some ds, rest)
  | _ => .ok (none, cs)

/-- Reads the exponent of a number, if there is one. -/
def readExponent (cs : List Char) : Scan (Option (Bool × List Char) × List Char) :=
  match cs with
  | c :: rest =>
    if c = 'e' ∨ c = 'E' then do
      let (down, rest) := match rest with
        | '+' :: rest => (false, rest)
        | '-' :: rest => (true, rest)
        | _ => (false, rest)
      let (ds, rest) ← readDigits rest
      .ok (some (down, ds), rest)
    else .ok (none, cs)
  | [] => .ok (none, cs)

/-- Reads a number after its sign. -/
def readNumber (strict negative : Bool) (cs : List Char) : Scan (Document × List Char) := do
  let (whole, cs) ← readWhole cs
  let (fraction, cs) ← readFraction cs
  let (exponent, cs) ← readExponent cs
  match (Numeral.mk negative whole fraction exponent).value? with
  | some d => .ok (d, cs)
  | none => if strict then failAfter .numberTooLarge cs else .ok (.meaningless, cs)

/-- Reads the items of a list, given those before in reverse. -/
def readItems (value : List Char → Scan (Document × List Char)) (before : List Document) :
    Nat → List Char → Scan (Document × List Char)
  | 0, cs => failAfter .endInList cs
  | n + 1, cs =>
    match skipSpace cs with
    | [] => failAfter .endInList []
    | ']' :: rest => .ok (.list before.reverse, rest)
    | c :: rest => do
      let start ←
        if before.isEmpty then .ok (c :: rest)
        else if c = ',' then
          match skipSpace rest with
          | [] => failAfter .endInValue []
          | ']' :: more => failAt .trailingComma (']' :: more)
          | next => .ok next
        else failAt .noCommaInList (c :: rest)
      let (d, rest) ← value start
      readItems value (d :: before) n rest

/-- Reads the colon between a name and its value. -/
def readColon (cs : List Char) : Scan (List Char) :=
  match skipSpace cs with
  | [] => failAfter .endInObject []
  | ':' :: rest => .ok rest
  | rest => failAt .noColon rest

/-- The start of the next field of an object, from the place before it. -/
def fieldStart (first : Bool) (c : Char) (rest : List Char) : Scan (List Char) :=
  if first then if c = '"' then .ok rest else failAt .keyNotText (c :: rest)
  else if c = ',' then
    match skipSpace rest with
    | [] => failAfter .endInValue []
    | '"' :: rest => .ok rest
    | '\x7d' :: rest => failAt .trailingComma ('\x7d' :: rest)
    | rest => failAt .keyNotText rest
  else failAt .noCommaInObject (c :: rest)

/-- Reads the fields of an object, given those before in reverse; nothing if a name among them has
no meaning. -/
def readFields (strict : Bool) (value : List Char → Scan (Document × List Char)) (first : Bool)
    (before : Option (List (String × Document))) : Nat → List Char → Scan (Document × List Char)
  | 0, cs => failAfter .endInObject cs
  | n + 1, cs =>
    match skipSpace cs with
    | [] => failAfter .endInObject []
    | '\x7d' :: rest =>
      match before with
      | some fields => .ok (.object fields.reverse, rest)
      | none => .ok (.meaningless, rest)
    | c :: rest => do
      let rest ← fieldStart first c rest
      let (name, rest) ← readText strict (some []) n rest
      let rest ← readColon rest
      let (d, rest) ← value rest
      let fields := before.bind fun b ↦ name.map fun s ↦ (s, d) :: b
      readFields strict value false fields n rest

/-- Reads a value inside so many lists and objects. The fuel of a value is more than the length of
its text, and so is what is left of it for each part. -/
def readValue (strict : Bool) : Nat → Nat → List Char → Scan (Document × List Char)
  | 0, _, cs => failAfter .endInValue cs
  | n + 1, depth, cs =>
    match skipSpace cs with
    | [] => failAfter .endInValue []
    | c :: rest =>
      if c = 'n' then readWord .null ['u', 'l', 'l'] rest
      else if c = 't' then readWord (.bool true) ['r', 'u', 'e'] rest
      else if c = 'f' then readWord (.bool false) ['a', 'l', 's', 'e'] rest
      else if c = '"' then do
        let (s, rest) ← readText strict (some []) n rest
        .ok (s.elim .meaningless .text, rest)
      else if c = '-' then readNumber strict true rest
      else if c.isDigit then readNumber strict false (c :: rest)
      else if c = '[' then
        if strict && 127 ≤ depth then failAt .tooDeep (c :: rest)
        else readItems (readValue strict n (depth + 1)) [] n rest
      else if c = '\x7b' then
        if strict && 127 ≤ depth then failAt .tooDeep (c :: rest)
        else readFields strict (readValue strict n (depth + 1)) true (some []) n rest
      else failAt .noValue (c :: rest)

/-- Reads a whole text. -/
def readAll (strict : Bool) (cs : List Char) : Scan Document := do
  let (d, rest) ← readValue strict (cs.length + 1) 0 cs
  match skipSpace rest with
  | [] => .ok d
  | rest => failAt .trailingText rest

/-- The place of a fault in the whole text: its line, and its column in bytes. -/
def ReadFault.place (f : ReadFault) (whole : List Char) : Nat × Nat :=
  let step (p : Nat × Nat) (c : Char) (size : Nat) : Nat × Nat :=
    if c = '\n' then (p.1 + 1, 0) else (p.1, p.2 + size)
  let before :=
    (whole.take (whole.length - f.rest.length)).foldl (fun p c ↦ step p c c.utf8Size) (1, 0)
  match f.looked, f.rest with
  | true, c :: _ => step before c 1
  | _, _ => before

/-- The text of a fault. -/
def ReadFault.message (f : ReadFault) (whole : List Char) : String :=
  let (line, column) := f.place whole
  f.flaw.message ++ " at line " ++ String.ofList (Text.decimal line) ++ " column " ++
    String.ofList (Text.decimal column)

/-- Reads a document that must have a meaning throughout. -/
def ofText (s : String) : Except String Document :=
  match readAll true s.toList with
  | .ok d => .ok d
  | .error f => .error (f.message s.toList)

/-- Reads a document that may have meaningless values in it. -/
def ofLenientText? (s : String) : Option Document := (readAll false s.toList).toOption

end CoverageSubset.Document

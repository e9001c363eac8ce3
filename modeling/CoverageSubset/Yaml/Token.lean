import CoverageSubset.Yaml.Scalar

/-!
# Tokens

A text as a list of tokens. Brackets, commas and scalars are written in the text. The starts and
ends of collections by indentation are not: a collection starts where the first dash or key stands
deeper than the collection around it, and ends before the first token that does not. Nor is the
start of most keys: whether a node is a key shows only at the colon after it, so its place among the
tokens is kept until then.

A key stands on one line, and its colon comes at most 1024 bytes after its start. What stands in the
column of a mapping by indentation must be a key. After a colon, and after a node, no key can start
on the same line outside brackets.
-/

namespace CoverageSubset.Yaml

/-- A token. -/
inductive Token where
  | documentStart
  | documentEnd
  /-- The start of a list by indentation. -/
  | listStart
  /-- The start of a mapping by indentation. -/
  | mappingStart
  /-- The end of a collection by indentation. -/
  | blockEnd
  | openList
  | closeList
  | openMapping
  | closeMapping
  | comma
  | dash
  /-- A key comes next. -/
  | key
  /-- A value comes next. -/
  | value
  /-- A text, and whether it has no quotes. -/
  | scalar (text : String) (isPlain : Bool)
deriving DecidableEq

/-- The place of a token that is a key if a colon follows the node that it starts. -/
structure KeyStart where
  place : Place
  /-- How many tokens come before it. -/
  index : Nat
  /-- The node must be a key. -/
  isRequired : Bool

namespace KeyStart

/-- How many bytes a key may have before its colon. -/
def maxLength : Nat := 1024

/-- A colon at a place would come too late. -/
def isPast (k : KeyStart) (p : Place) : Bool :=
  k.place.line < p.line || k.place.offset + maxLength < p.offset

/-- The start of a key that is still possible at a place; an error if a key that is required no
longer is. -/
def until? (p : Place) : Option KeyStart → Option (Option KeyStart)
  | none => some none
  | some k => if !k.isPast p then some (some k) else if k.isRequired then none else some none

end KeyStart

/-- A text of which the first tokens have been read. -/
structure Lexer where
  cursor : Cursor
  tokens : Array Token
  /-- The columns of the collections by indentation around the place, from the inside out. -/
  columns : List Nat
  /-- The possible start of a key inside the innermost brackets. -/
  key : Option KeyStart
  /-- The possible start of a key around each pair of brackets, from the inside out. -/
  outerKeys : List (Option KeyStart)
  /-- A key may start at the next token. -/
  isKeyAllowed : Bool

/-- Skips blanks, comments and line breaks, and a byte order mark at the start of a line. Where a
key may start outside brackets, tabs are not skipped. The result says whether a key may start after
the gap. -/
def skipGap (inBrackets isKeyAllowed inComment : Bool) (p : Place) : List Char → Bool × Cursor
  | [] => (isKeyAllowed, ⟨p, []⟩)
  | c :: cs =>
    if isBreak c then skipGap inBrackets (isKeyAllowed || !inBrackets) false (p.after c) cs
    else if inComment ∨ c = '#' then skipGap inBrackets isKeyAllowed true (p.after c) cs
    else if c = ' ' ∨ c = '\t' ∧ (inBrackets ∨ ¬isKeyAllowed) ∨ c = '\ufeff' ∧ p.column = 0 then
      skipGap inBrackets isKeyAllowed false (p.after c) cs
    else (isKeyAllowed, ⟨p, c :: cs⟩)

namespace Lexer

/-- Nothing of a text has been read. -/
def start (cs : List Char) : Lexer := ⟨⟨.start, cs⟩, #[], [], none, [], true⟩

/-- The place lies inside brackets. -/
def inBrackets (s : Lexer) : Bool := !s.outerKeys.isEmpty

/-- The first column in which a line goes on with a node that started before it. -/
def leastColumn (s : Lexer) : Nat :=
  match s.columns with
  | [] => 0
  | column :: _ => column + 1

/-- A token of so many characters has been read. -/
def read (s : Lexer) (t : Token) (length : Nat) : Lexer :=
  { s with cursor := s.cursor.advance length, tokens := s.tokens.push t }

/-- Drops the possible start of a key; an error if it is required. -/
def dropKey? (s : Lexer) : Option Lexer :=
  if s.key.any (·.isRequired) then none else some { s with key := none }

/-- Keeps the place as a possible start of a key. -/
def keepKey? (s : Lexer) : Option Lexer :=
  if s.isKeyAllowed then
    let p := s.cursor.place
    let isRequired := !s.inBrackets && s.columns.head? == some p.column
    s.dropKey?.map fun s ↦ { s with key := some ⟨p, s.tokens.size, isRequired⟩ }
  else some s

/-- Opens a collection in a column, unless one in that column or deeper is open. Its start has a
place among the tokens. -/
def openBlock (s : Lexer) (column index : Nat) (t : Token) : Lexer :=
  if s.inBrackets || s.columns.head?.any (column ≤ ·) then s
  else { s with columns := column :: s.columns, tokens := s.tokens.insertIdxIfInBounds index t }

/-- Closes the innermost collections by indentation as long as their columns are over. -/
def closeBlocks (s : Lexer) (isOver : Nat → Bool) : Lexer :=
  if s.inBrackets then s
  else
    let (closed, columns) := s.columns.span isOver
    { s with columns, tokens := s.tokens ++ Array.replicate closed.length .blockEnd }

/-- Reads an opening bracket. -/
def openBracket? (s : Lexer) (t : Token) : Option Lexer :=
  s.keepKey?.map fun s ↦
    let outerKeys := s.key :: s.outerKeys
    { s.read t 1 with key := none, outerKeys, isKeyAllowed := true }

/-- Reads a closing bracket. -/
def closeBracket? (s : Lexer) (t : Token) : Option Lexer :=
  s.dropKey?.map fun s ↦
    let s := { s.read t 1 with isKeyAllowed := false }
    match s.outerKeys with
    | key :: outerKeys => { s with key, outerKeys }
    | [] => s

/-- Reads a comma. -/
def comma? (s : Lexer) : Option Lexer :=
  s.dropKey?.map fun s ↦ { s.read .comma 1 with isKeyAllowed := true }

/-- Reads a dash, a question mark or a colon without a key before it. Outside brackets it stands
where a key may start, and may start a collection. -/
def indicator? (s : Lexer) (collection t : Token) : Option Lexer :=
  if !s.inBrackets && !s.isKeyAllowed then none
  else
    (s.openBlock s.cursor.place.column s.tokens.size collection).dropKey?.map fun s ↦
      let isKeyAllowed := !s.inBrackets
      { s.read t 1 with isKeyAllowed }

/-- Reads a colon. A possible start of a key becomes one. -/
def colon? (s : Lexer) : Option Lexer :=
  match s.key with
  | some k =>
    let s := { s with tokens := s.tokens.insertIdxIfInBounds k.index .key }
    let s := s.openBlock k.place.column k.index .mappingStart
    some { s.read .value 1 with key := none, isKeyAllowed := false }
  | none => s.indicator? .mappingStart .value

/-- Reads a scalar. -/
def scalar? (s : Lexer) : Option Lexer := do
  let s ← s.keepKey?
  let r ← readScalar s.inBrackets s.leastColumn s.cursor
  some { s with
    cursor := r.next
    tokens := s.tokens.push (.scalar r.text r.isPlain)
    isKeyAllowed := r.endsLine }

/-- Reads a mark of a document, which ends all collections by indentation. -/
def marker? (s : Lexer) (t : Token) : Option Lexer :=
  (s.closeBlocks fun _ ↦ true).dropKey?.map fun s ↦ { s.read t 3 with isKeyAllowed := false }

/-- Goes to the next token and closes what ends before it. The possible starts of keys around
brackets wait until the brackets are closed. -/
def toToken? (s : Lexer) : Option Lexer := do
  let (isKeyAllowed, cursor) :=
    skipGap s.inBrackets s.isKeyAllowed false s.cursor.place s.cursor.rest
  let key ← KeyStart.until? cursor.place s.key
  some ({ s with cursor, key, isKeyAllowed }.closeBlocks (cursor.place.column < ·))

/-- Reads a token that starts with a character. -/
def token? (s : Lexer) (c : Char) (cs : List Char) : Option Lexer :=
  if atMarker '-' s.cursor.place (c :: cs) then s.marker? .documentStart
  else if atMarker '.' s.cursor.place (c :: cs) then s.marker? .documentEnd
  else if c = '[' then s.openBracket? .openList
  else if c = '\x7b' then s.openBracket? .openMapping
  else if c = ']' then s.closeBracket? .closeList
  else if c = '\x7d' then s.closeBracket? .closeMapping
  else if c = ',' then s.comma?
  else if c = '-' ∧ blankNext cs then s.indicator? .listStart .dash
  else if c = '?' ∧ (s.inBrackets ∨ blankNext cs) then s.indicator? .mappingStart .key
  else if c = ':' ∧ (s.inBrackets ∨ blankNext cs) then s.colon?
  else s.scalar?

/-- Reads all tokens. Each has at least one character, so that a fuel of the length of the text is
enough. -/
def run? : Nat → Lexer → Option Lexer
  | 0, _ => none
  | n + 1, s => do
    let s ← s.toToken?
    match s.cursor.rest with
    | [] => (s.closeBlocks fun _ ↦ true).dropKey?
    | c :: cs => (s.token? c cs).bind (run? n)

end Lexer

/-- The tokens of a text. -/
def tokens? (cs : List Char) : Option (List Token) :=
  ((Lexer.start cs).run? (cs.length + 1)).map fun s ↦ s.tokens.toList

end CoverageSubset.Yaml

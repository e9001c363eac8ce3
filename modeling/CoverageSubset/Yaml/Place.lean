/-!
# Places in a text

The characters that a YAML text may hold and the places between them. A place knows its line, its
column in characters and its offset in bytes. Every line break is one character, since a text is
read after its breaks have been unified.
-/

namespace CoverageSubset.Yaml

/-- A character that a text may hold. -/
def isAllowed (c : Char) : Bool :=
  let n := c.toNat
  n = 0x9 || n = 0xA || n = 0xD || (0x20 ≤ n && n ≤ 0x7E) || n = 0x85 || (0xA0 ≤ n && n ≤ 0xD7FF) ||
    (0xE000 ≤ n && n ≤ 0xFFFD) || 0x10000 ≤ n

/-- The text with carriage returns and next-line characters written as line feeds. -/
def unifyBreaks : List Char → List Char
  | [] => []
  | '\r' :: '\n' :: cs => '\n' :: unifyBreaks cs
  | c :: cs => (if c = '\r' ∨ c = '\u0085' then '\n' else c) :: unifyBreaks cs

/-- A line break. The separators of lines and paragraphs are breaks of their own. -/
def isBreak (c : Char) : Bool := c = '\n' || c = '\u2028' || c = '\u2029'

/-- A space or a tab. -/
def isBlank (c : Char) : Bool := c = ' ' || c = '\t'

/-- A blank or a line break or the end of the text comes next. -/
def blankNext : List Char → Bool
  | [] => true
  | c :: _ => isBlank c || isBreak c

/-- A place between two characters. -/
structure Place where
  line : Nat
  /-- How many characters come before it on its line. -/
  column : Nat
  /-- How many bytes come before it in the text. -/
  offset : Nat

namespace Place

/-- The start of a text. -/
def start : Place := ⟨0, 0, 0⟩

/-- The place after a character. -/
def after (p : Place) (c : Char) : Place :=
  if isBreak c then ⟨p.line + 1, 0, p.offset + c.utf8Size⟩
  else ⟨p.line, p.column + 1, p.offset + c.utf8Size⟩

end Place

/-- A place and the text that follows it. -/
structure Cursor where
  place : Place
  rest : List Char

namespace Cursor

/-- The place so many characters further on, or the end of the text. -/
def advance : Nat → Cursor → Cursor
  | n + 1, ⟨p, c :: cs⟩ => advance n ⟨p.after c, cs⟩
  | _, cursor => cursor

end Cursor

/-- The mark of three characters that starts or ends a document stands here, at the start of a
line. -/
def atMarker (mark : Char) (p : Place) (cs : List Char) : Bool :=
  p.column = 0 && cs.take 3 = [mark, mark, mark] && blankNext (cs.drop 3)

/-- A document starts or ends here. -/
def atDocumentMarker (p : Place) (cs : List Char) : Bool := atMarker '-' p cs || atMarker '.' p cs

end CoverageSubset.Yaml

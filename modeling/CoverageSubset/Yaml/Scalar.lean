import CoverageSubset.Text.Digits
import CoverageSubset.Yaml.Folding

/-!
# Scalars

An unquoted scalar ends at a colon that is followed by a blank, at a comment, at a mark of a
document, before a line that is not indented enough, and inside brackets at a comma or bracket. The
gap after it is read with it. Scalars in single quotes write a quote twice; those in double quotes
have escapes, which may also hide a line break.
-/

namespace CoverageSubset.Yaml

/-- A scalar and the place after it. -/
structure ScalarAt where
  text : String
  /-- The scalar has no quotes. -/
  isPlain : Bool
  /-- The place lies on a later line than the end of an unquoted scalar. -/
  endsLine : Bool
  next : Cursor

/-- A comma or bracket. -/
def isFlowMark (c : Char) : Bool := c = ',' || c = '[' || c = ']' || c = '\x7b' || c = '\x7d'

/-- What an unquoted scalar does at a character that is no blank. -/
inductive PlainStep where
  | goOn
  | stop
  | fail

/-- Whether an unquoted scalar goes on with a character, after a gap or not. Inside brackets a colon
must not touch what could be part of another node. -/
def plainStep (inBrackets gap : Bool) (c : Char) (cs : List Char) : PlainStep :=
  if c = '#' ∧ gap then .stop
  else if c = ':' ∧ blankNext cs then .stop
  else if inBrackets ∧ isFlowMark c then .stop
  else if inBrackets ∧ c = ':' ∧ (cs.head?.any fun d ↦ isFlowMark d || d = '?') then .fail
  else .goOn

/-- Reads an unquoted scalar whose further lines have at least a given column. After a line break, a
tab before that column is an error, in brackets too. -/
def readPlain (inBrackets : Bool) (least : Nat) (f : Folding) (p : Place) :
    List Char → Option ScalarAt
  | [] => some ⟨f.toString, true, f.broken, p, []⟩
  | c :: cs =>
    if isBlank c || isBreak c then
      if f.broken ∧ c = '\t' ∧ p.column < least then none
      else readPlain inBrackets least (f.space c) (p.after c) cs
    else if f.broken ∧ (¬inBrackets ∧ p.column < least ∨ atDocumentMarker p (c :: cs)) then
      some ⟨f.toString, true, f.broken, p, c :: cs⟩
    else
      match plainStep inBrackets f.hasGap c cs with
      | .stop => some ⟨f.toString, true, f.broken, p, c :: cs⟩
      | .fail => none
      | .goOn => readPlain inBrackets least (f.push c) (p.after c) cs

/-- Reads a scalar in single quotes after the first one. -/
def readSingle (f : Folding) (p : Place) : List Char → Option ScalarAt
  | [] => none
  | '\'' :: '\'' :: cs => readSingle (f.push '\'') ((p.after '\'').after '\'') cs
  | '\'' :: cs => some ⟨f.close.toString, false, false, p.after '\'', cs⟩
  | c :: cs =>
    if isBlank c || isBreak c then readSingle (f.space c) (p.after c) cs
    else if atDocumentMarker p (c :: cs) then none
    else readSingle (f.push c) (p.after c) cs

/-- Where the reading of a scalar in double quotes stands. -/
inductive Escape where
  /-- Outside an escape. -/
  | outside
  /-- After a backslash. -/
  | begun
  /-- Inside the code of a character, with so many digits left after the next one. -/
  | code (left value : Nat)

/-- The character of an escape that is one character long. -/
def escaped? (c : Char) : Option Char :=
  match c with
  | '0' => some '\x00'
  | 'a' => some '\x07'
  | 'b' => some '\x08'
  | 't' => some '\t'
  | '\t' => some '\t'
  | 'n' => some '\n'
  | 'v' => some '\x0b'
  | 'f' => some '\x0c'
  | 'r' => some '\r'
  | 'e' => some '\x1b'
  | ' ' => some ' '
  | '"' => some '"'
  | '/' => some '/'
  | '\\' => some '\\'
  | 'N' => some '\u0085'
  | '_' => some '\u00a0'
  | 'L' => some '\u2028'
  | 'P' => some '\u2029'
  | _ => none

/-- The character of a code, which must not be one half of a pair. -/
def charOfCode? (n : Nat) : Option Char :=
  if n < 0xD800 ∨ 0xDFFF < n ∧ n ≤ 0x10FFFF then some (Char.ofNat n) else none

/-- Reads one character of a scalar in double quotes that is neither its end nor outside an escape a
blank. -/
def escapeStep? (f : Folding) (c : Char) : Escape → Option (Folding × Escape)
  | .outside => if c = '\\' then some (f, .begun) else some (f.push c, .outside)
  | .begun =>
    if isBreak c then some (f.escapedBreak, .outside)
    else if c = 'x' then some (f, .code 1 0)
    else if c = 'u' then some (f, .code 3 0)
    else if c = 'U' then some (f, .code 7 0)
    else (escaped? c).map fun d ↦ (f.push d, .outside)
  | .code left value => do
    let d ← Text.hexDigit? c
    let value := 16 * value + d
    match left with
    | 0 => (charOfCode? value).map fun d ↦ (f.push d, .outside)
    | n + 1 => some (f, .code n value)

/-- Reads a scalar in double quotes after the first one. -/
def readDouble (f : Folding) (e : Escape) (p : Place) : List Char → Option ScalarAt
  | [] => none
  | c :: cs =>
    match e with
    | .outside =>
      if c = '"' then some ⟨f.close.toString, false, false, p.after c, cs⟩
      else if isBlank c || isBreak c then readDouble (f.space c) e (p.after c) cs
      else if atDocumentMarker p (c :: cs) then none
      else
        match escapeStep? f c e with
        | some (f, e) => readDouble f e (p.after c) cs
        | none => none
    | _ =>
      match escapeStep? f c e with
      | some (f, e) => readDouble f e (p.after c) cs
      | none => none

/-- An unquoted scalar can start with a character. -/
def startsPlain (inBrackets : Bool) (c : Char) (cs : List Char) : Bool :=
  if isBlank c || isBreak c then false
  else if c = '-' then !blankNext cs
  else if c = '?' ∨ c = ':' then !inBrackets && !blankNext cs
  else !(isFlowMark c || ['#', '&', '*', '!', '|', '>', '\'', '"', '%', '@', '\x60'].contains c)

/-- Reads a scalar. -/
def readScalar (inBrackets : Bool) (least : Nat) (cursor : Cursor) : Option ScalarAt :=
  let p := cursor.place
  match cursor.rest with
  | '"' :: cs => readDouble .start .outside (p.after '"') cs
  | '\'' :: cs => readSingle .start (p.after '\'') cs
  | c :: cs =>
    if startsPlain inBrackets c cs then readPlain inBrackets least (Folding.start.push c)
      (p.after c) cs else none
  | [] => none

end CoverageSubset.Yaml

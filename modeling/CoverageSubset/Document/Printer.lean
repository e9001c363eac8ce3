import CoverageSubset.Document.Basic
import CoverageSubset.Double.Layout

/-!
# Writing documents

A document as text, either on one line without blanks or with a line for every item and field, two
blanks deeper for each list and object around it. Empty lists and objects stay on their line.
Quotes, backslashes and control characters are escaped, all other characters stand for themselves.
Doubles have the layout of documents, so what is not finite becomes null.
-/

namespace CoverageSubset.Document

/-- The escape of one character inside quotes. -/
def escape (c : Char) : List Char :=
  if c = '"' then ['\\', '"']
  else if c = '\\' then ['\\', '\\']
  else if c = '\n' then ['\\', 'n']
  else if c = '\r' then ['\\', 'r']
  else if c = '\t' then ['\\', 't']
  else if c = '\x08' then ['\\', 'b']
  else if c = '\x0c' then ['\\', 'f']
  else if c.toNat < 0x20 then '\\' :: 'u' :: List.leftpad 4 '0' (Nat.toDigits 16 c.toNat)
  else [c]

/-- A text in quotes. -/
def quoted (s : String) : List Char := '"' :: s.toList.flatMap escape ++ ['"']

/-- A line break and the blanks of a depth, or nothing on one line. -/
def lineBreak (indented : Bool) (depth : Nat) : List Char :=
  if indented then '\n' :: List.replicate (2 * depth) ' ' else []

/-- The blank after a colon. -/
def afterColon (indented : Bool) : List Char := if indented then [' '] else []

mutual

/-- A document inside so many lists and objects. -/
def render (indented : Bool) (depth : Nat) : Document → List Char
  | null => ['n', 'u', 'l', 'l']
  | bool true => ['t', 'r', 'u', 'e']
  | bool false => ['f', 'a', 'l', 's', 'e']
  | integer n => Text.signed n
  | real x => (x.write Double.document).toList
  | text s => quoted s
  | list [] => ['[', ']']
  | list (d :: ds) =>
    '[' :: lineBreak indented (depth + 1) ++ render indented (depth + 1) d ++
      renderItems indented (depth + 1) ds ++
      lineBreak indented depth ++ [']']
  | object [] => ['\x7b', '\x7d']
  | object (f :: fs) =>
    '\x7b' :: lineBreak indented (depth + 1) ++ renderField indented (depth + 1) f ++
      renderFields indented (depth + 1) fs ++ lineBreak indented depth ++ ['\x7d']
  | meaningless => ['n', 'u', 'l', 'l']

/-- The items of a list after its first, each after a comma. -/
def renderItems (indented : Bool) (depth : Nat) : List Document → List Char
  | [] => []
  | d :: ds => ',' :: lineBreak indented depth ++ render indented depth d ++
    renderItems indented depth ds

/-- The fields of an object after its first, each after a comma. -/
def renderFields (indented : Bool) (depth : Nat) : List (String × Document) → List Char
  | [] => []
  | f :: fs => ',' :: lineBreak indented depth ++ renderField indented depth f ++
    renderFields indented depth fs

/-- One field of an object. -/
def renderField (indented : Bool) (depth : Nat) : String × Document → List Char
  | (name, d) => quoted name ++ ':' :: afterColon indented ++ render indented depth d

end

/-- A document on one line. -/
def compact (d : Document) : String := String.ofList (render false 0 d)

/-- A document over several lines. -/
def pretty (d : Document) : String := String.ofList (render true 0 d)

end CoverageSubset.Document

import CoverageSubset.Yaml.Place

/-!
# Folding

A scalar may run over several lines. Inside it, one line break is folded to a blank and of several
the first is dropped; blanks around a break are dropped too. The separators of lines and paragraphs
are kept.
-/

namespace CoverageSubset.Yaml

/-- The text of a scalar so far, in reverse, and the gap after it that is not part of it yet. -/
structure Folding where
  text : List Char
  blanks : List Char
  /-- The gap has a line break in it. -/
  broken : Bool
  /-- The first line break of the gap, unless it was escaped. -/
  first : Option Char
  /-- The other line breaks of the gap, in reverse. -/
  others : List Char

namespace Folding

/-- Nothing read yet. -/
def start : Folding := ⟨[], [], false, none, []⟩

/-- There is a gap after the text. -/
def hasGap (f : Folding) : Bool := f.broken || !f.blanks.isEmpty

/-- The text with the gap folded into it. -/
def close (f : Folding) : Folding :=
  let gap :=
    if !f.broken then f.blanks
    else
      match f.first with
      | some '\n' => if f.others.isEmpty then [' '] else f.others
      | some c => f.others ++ [c]
      | none => f.others
  { start with text := gap ++ f.text }

/-- The text with a character after the gap. -/
def push (f : Folding) (c : Char) : Folding :=
  let g := f.close
  { g with text := c :: g.text }

/-- A space or a tab in the gap. -/
def blank (f : Folding) (c : Char) : Folding :=
  if f.broken then f else { f with blanks := c :: f.blanks }

/-- A line break in the gap. -/
def lineBreak (f : Folding) (c : Char) : Folding :=
  if f.broken then { f with others := c :: f.others }
  else { f with blanks := [], broken := true, first := some c }

/-- A blank or a line break in the gap. -/
def space (f : Folding) (c : Char) : Folding := if isBreak c then f.lineBreak c else f.blank c

/-- An escaped line break, which leaves nothing. -/
def escapedBreak (f : Folding) : Folding := { f.close with broken := true }

/-- The string of the text. -/
def toString (f : Folding) : String := String.ofList f.text.reverse

end Folding

end CoverageSubset.Yaml

import CoverageSubset.Double.Literal
import CoverageSubset.Double.Round
import CoverageSubset.Text.Ends

/-!
# Envelopes

Rectangles in the coordinates of a coverage, for spatial subsets and footprints. All comparisons are
arithmetic, so an envelope with a corner that is not a number contains nothing and lies in nothing.
The written form has four numbers with commas between them, and its minima must not exceed its
maxima.
-/

namespace CoverageSubset

/-- A rectangle in the coordinates of a coverage (specification 10, `BoundingBox`). -/
structure Envelope where
  minX : Double
  minY : Double
  maxX : Double
  maxY : Double
deriving DecidableEq

/-- Why a text is no envelope. -/
inductive EnvelopeFault where
  /-- The text has not four parts. -/
  | notFourParts (text : String)
  /-- A part that is no number. -/
  | notANumber (part : String)
  /-- A minimum above its maximum. -/
  | inverted (text : String)
deriving DecidableEq

/-- The text of a fault. -/
def EnvelopeFault.message : EnvelopeFault → String
  | notFourParts text => "Invalid envelope format: " ++ text ++ ". Expected 'minx,miny,maxx,maxy'"
  | notANumber part => "Invalid number in envelope: " ++ part
  | inverted text => "Envelope minimum exceeds maximum: " ++ text

namespace Envelope

/-- Reads one part of an envelope, without the blanks at its ends. -/
def corner (part : List Char) : Except EnvelopeFault Double :=
  match Double.ofLiteral? part with
  | some x => .ok x
  | none => .error (.notANumber (String.ofList part))

/-- Some minimum exceeds its maximum. -/
def isInverted (e : Envelope) : Bool := e.maxX.lt e.minX || e.maxY.lt e.minY

/-- Reads an envelope (specification 12.7, `--bbox`). -/
def ofLiteral (s : String) : Except EnvelopeFault Envelope :=
  match (s.toList.splitOn ',').map Text.trim with
  | [a, b, c, d] => do
    let minX ← corner a
    let minY ← corner b
    let maxX ← corner c
    let maxY ← corner d
    let e : Envelope := ⟨minX, minY, maxX, maxY⟩
    if e.isInverted then .error (.inverted s) else .ok e
  | _ => .error (.notFourParts s)

/-- The extent along the first axis. -/
def width (e : Envelope) : Double := e.maxX - e.minX

/-- The extent along the second axis. -/
def height (e : Envelope) : Double := e.maxY - e.minY

/-- The other envelope lies in this one, edges included. -/
def contains (e other : Envelope) : Bool :=
  e.minX.le other.minX && other.maxX.le e.maxX && e.minY.le other.minY && other.maxY.le e.maxY

/-- The point lies in the envelope, edges included. -/
def containsPoint (e : Envelope) (x y : Double) : Bool :=
  e.minX.le x && x.le e.maxX && e.minY.le y && y.le e.maxY

/-- The corners are equal as numbers. -/
def same (e other : Envelope) : Bool :=
  e.minX.same other.minX && e.minY.same other.minY && e.maxX.same other.maxX &&
    e.maxY.same other.maxY

end Envelope

end CoverageSubset

import CoverageSubset.Double.Basic

/-!
# JSON documents

The value of a JSON document. Whole numbers within 64 bits stay whole, all others are doubles; the
fields of an object keep their order and may repeat a name, so that the reader of a record can
refuse that. A notation that is well formed but stands for no value, such as a number beyond every
double, is kept as `meaningless`: a record may carry it in a field that nobody reads.
-/

namespace CoverageSubset

/-- The value of a JSON document. -/
inductive Document where
  | null
  | bool (b : Bool)
  | integer (n : Int)
  | real (x : Double)
  | text (s : String)
  | list (items : List Document)
  | object (fields : List (String × Document))
  | meaningless

namespace Document

instance : Inhabited Document := ⟨null⟩

/-- A text, or null. -/
def ofText? : Option String → Document
  | some s => text s
  | none => null

/-- A list of texts. -/
def ofTexts (ss : List String) : Document := list (ss.map text)

/-- A natural number. -/
def ofNat (n : Nat) : Document := integer n

/-- The value of a field, the last one if the name is repeated. -/
def field? (name : String) : Document → Option Document
  | object fields => (fields.reverse.find? (·.1 == name)).map (·.2)
  | _ => none

end Document

end CoverageSubset

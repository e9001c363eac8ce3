import CoverageSubset.Double.Round
import CoverageSubset.Document.Basic

/-!
# Records in documents

A record is an object with named fields, or the list of its fields in their order. Fields of other
names do not count, but none of its own may be repeated. In the list form, fields at the end may be
missing and there is no room for more.

The readers of fields take a field that may be missing. A required field must be there, a defaulted
one need not be, and an optional one may also be null.
-/

namespace CoverageSubset.Document

/-- The fields of some names in an object, none of which is repeated. -/
def namedFields? (names : List String) (fields : List (String × Document)) :
    Option (List (Option Document)) :=
  if names.any fun name ↦ decide (1 < (fields.filter (·.1 == name)).length) then none
  else some (names.map fun name ↦ List.lookup name fields)

/-- The fields of some names, given by their order. -/
def orderedFields? (names : List String) (items : List Document) :
    Option (List (Option Document)) :=
  if names.length < items.length then none
  else some (items.map some ++ List.replicate (names.length - items.length) none)

/-- The fields of a record. -/
def record? (names : List String) : Document → Option (List (Option Document))
  | object fields => namedFields? names fields
  | list items => orderedFields? names items
  | _ => none

variable {α : Type}

/-- Reads a field that must be there. -/
def required (read : Document → Option α) (field : Option Document) : Option α := field.bind read

/-- Reads a field that has a value of its own if it is missing. -/
def defaulted (value : α) (read : Document → Option α) : Option Document → Option α
  | none => some value
  | some d => read d

/-- Reads a field that may be missing or null. -/
def optional (read : Document → Option α) : Option Document → Option (Option α)
  | none => some none
  | some null => some none
  | some d => (read d).map some

/-- The text of a document that is one. -/
def text? : Document → Option String
  | text s => some s
  | _ => none

/-- The number of a document that is one, whole or not. -/
def number? : Document → Option Double
  | integer n => some (Double.ofInt n)
  | real x => some x
  | _ => none

/-- The whole number of a document that is one of 32 bits. -/
def word? : Document → Option Nat
  | integer n => if 0 ≤ n ∧ n < 0x100000000 then some n.toNat else none
  | _ => none

/-- Reads each item of a list. -/
def list? (read : Document → Option α) : Document → Option (List α)
  | list items => items.mapM read
  | _ => none

/-- Reads each field of an object, whatever its name. -/
def fields? (read : Document → Option α) : Document → Option (List (String × α))
  | object fields => fields.mapM fun (name, d) ↦ (read d).map fun v ↦ (name, v)
  | _ => none

/-- The one field of an object with one. -/
def single? : Document → Option (String × Document)
  | object [field] => some field
  | _ => none

/-- The document form of a value that may be missing. -/
def ofOption (write : α → Document) : Option α → Document
  | some v => write v
  | none => null

end CoverageSubset.Document

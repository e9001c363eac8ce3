import CoverageSubset.Yaml.Meaning

/-!
# Records in YAML

A record is a mapping whose keys are scalars. Keys of other names do not count, but none of its own
may be repeated. A record or a list that is written as nothing is empty; a null written as such is
neither.

The value of a text field is the text of any scalar, quoted or not. Truth values and numbers have no
quotes. The readers of bare values take a scalar for what it stands for, so that an unquoted number
is no text.
-/

namespace CoverageSubset.Yaml

namespace Node

/-- The text of a scalar. -/
def text? : Node → Option String
  | .scalar text _ => some text
  | _ => none

/-- The truth value of an unquoted scalar. -/
def truth? : Node → Option Bool
  | .scalar text true => Yaml.truth? text
  | _ => none

/-- The whole number of 32 bits of an unquoted scalar. -/
def word? : Node → Option Nat
  | .scalar text true =>
    match whole? text.toList with
    | some n => if 0 ≤ n ∧ n < 0x100000000 ∧
      text.toList.head? ≠ some '-' then some n.toNat else none
    | none => none
  | _ => none

/-- The text of a scalar that stands for nothing else. -/
def bareText? : Node → Option String
  | .scalar text plain => if plain && Meaning.ofPlain text != .text then none else some text
  | _ => none

/-- Lists and mappings nest at most so deep in the node, and each whole number in it has at most 64
bits. -/
def isBareWithin : Nat → Node → Bool
  | _, .scalar text plain =>
    match Meaning.ofPlain text with
    | .whole n => !plain || fits 64 n
    | _ => true
  | 0, _ => false
  | depth + 1, .list items => items.all (isBareWithin depth)
  | depth + 1, .mapping pairs =>
    pairs.all fun (key, value) ↦ isBareWithin depth key && isBareWithin depth value

/-- The items of a list. -/
def items? : Node → Option (List Node)
  | .list items => some items
  | n => if n.isNothing then some [] else none

/-- The pairs of a record. -/
def pairs? : Node → Option (List (String × Node))
  | .mapping pairs => pairs.mapM fun (key, value) ↦ key.text?.map fun name ↦ (name, value)
  | n => if n.isNothing then some [] else none

/-- The fields of some names among the pairs of a record, none of which is repeated. -/
def namedFields? (names : List String) (pairs : List (String × Node)) :
    Option (List (Option Node)) :=
  if names.any fun name ↦ decide (1 < (pairs.filter (·.1 == name)).length) then none
  else some (names.map fun name ↦ List.lookup name pairs)

/-- The fields of a record. -/
def record? (names : List String) (n : Node) : Option (List (Option Node)) :=
  n.pairs?.bind (namedFields? names)

end Node

variable {α : Type}

/-- Reads a field that must be there. -/
def required (read : Node → Option α) (field : Option Node) : Option α := field.bind read

/-- Reads a field that has a value of its own if it is missing. -/
def defaulted (value : α) (read : Node → Option α) : Option Node → Option α
  | none => some value
  | some n => read n

/-- Reads a field that may be missing or null. -/
def optional (read : Node → Option α) : Option Node → Option (Option α)
  | none => some none
  | some n => if n.isNull then some none else (read n).map some

/-- Reads each item of a list. -/
def list? (read : Node → Option α) (n : Node) : Option (List α) :=
  n.items?.bind fun items ↦ items.mapM read

end CoverageSubset.Yaml

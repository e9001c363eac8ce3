import CoverageSubset.Yaml.Token

/-!
# Reading YAML

What a YAML document says: scalars, lists, and mappings whose pairs keep their order and may repeat
a key. A scalar keeps its text and whether it was written without quotes, because only an unquoted
text can stand for null, a truth value or a number. Anchors, tags, directives and block scalars are
not part of the notation that is read here.

Nodes are read by a grammar over tokens. A node that is left out is the empty scalar: after a dash,
before or after a colon, and after a key without a colon. Inside brackets, the items of a list may
be pairs without braces, each a mapping of its own; as the value of a key, a list may have its
dashes in the column of the key.

A text holds at most one document; a text of blanks and comments holds none, and that is no error.
-/

namespace CoverageSubset.Yaml

/-- A node of a document. -/
inductive Node where
  /-- A text, and whether it has no quotes. -/
  | scalar (text : String) (plain : Bool)
  | list (items : List Node)
  | mapping (pairs : List (Node × Node))

namespace Node

instance : Inhabited Node := ⟨.scalar "" true⟩

/-- The node that is written as nothing. -/
def nothing : Node := .scalar "" true

/-- The node is nothing at all. -/
def isNothing : Node → Bool
  | .scalar text plain => plain && text == ""
  | _ => false

/-- The node is nothing, a tilde or a plain null. -/
def isNull : Node → Bool
  | .scalar text plain => plain && ["", "~", "null", "Null", "NULL"].contains text
  | _ => false

/-- Where a node stands. -/
inductive Position where
  | inBrackets
  /-- In a list by indentation, or at the top. -/
  | inBlock
  /-- In a mapping by indentation. -/
  | inPair
deriving DecidableEq

/-- What comes after the comma that separates an item in brackets from the one before it. -/
def afterComma? (close : Token) (isFirst : Bool) (ts : List Token) : Option (List Token) :=
  match ts with
  | .comma :: rest => if isFirst then none else some rest
  | t :: _ => if isFirst || t = close then some ts else none
  | [] => none

mutual

/-- Reads a node. -/
def read? (position : Position) : Nat → List Token → Option (Node × List Token)
  | _ + 1, .scalar text isPlain :: ts => some (.scalar text isPlain, ts)
  | n + 1, .openList :: ts => readItems? n [] ts
  | n + 1, .openMapping :: ts => readPairs? n [] ts
  | n + 1, .listStart :: ts => if position = .inBrackets then none else readEntries? n [] ts
  | n + 1, .mappingStart :: ts => if position = .inBrackets then none else readFields? n [] ts
  | n + 1, .dash :: ts => if position = .inPair then readDashes? n [] (.dash :: ts) else none
  | _, _ => none

/-- Reads a node, or nothing if one of some tokens comes next. -/
def readUnless? (after : List Token) (position : Position) :
    Nat → List Token → Option (Node × List Token)
  | n + 1, ts => if ts.head?.any after.contains then some (.nothing, ts) else read? position n ts
  | _, _ => none

/-- Reads a value with its colon, or nothing if there is no colon. -/
def readValue? (after : List Token) (position : Position) :
    Nat → List Token → Option (Node × List Token)
  | n + 1, .value :: ts => readUnless? after position n ts
  | _, ts => some (.nothing, ts)

/-- Reads the entries of a list by indentation, given those before, last first. -/
def readEntries? : Nat → List Node → List Token → Option (Node × List Token)
  | n + 1, before, .dash :: ts => do
    let (item, ts) ← readUnless? [.dash, .blockEnd] .inBlock n ts
    readEntries? n (item :: before) ts
  | _, before, .blockEnd :: ts => some (.list before.reverse, ts)
  | _, _, _ => none

/-- Reads the entries of a list whose dashes stand in the column of its key, given those before,
last first. -/
def readDashes? : Nat → List Node → List Token → Option (Node × List Token)
  | n + 1, before, .dash :: ts => do
    let (item, ts) ← readUnless? [.dash, .key, .value, .blockEnd] .inBlock n ts
    readDashes? n (item :: before) ts
  | _, before, ts => some (.list before.reverse, ts)

/-- Reads the pairs of a mapping by indentation, given those before, last first. -/
def readFields? : Nat → List (Node × Node) → List Token → Option (Node × List Token)
  | n + 1, before, .key :: ts => do
    let (key, ts) ← readUnless? [.key, .value, .blockEnd] .inPair n ts
    let (value, ts) ← readValue? [.key, .value, .blockEnd] .inPair n ts
    readFields? n ((key, value) :: before) ts
  | _, before, .blockEnd :: ts => some (.mapping before.reverse, ts)
  | _, _, _ => none

/-- Reads a pair that is an item of a list in brackets. A key that is left out takes the next token
with it. -/
def readPair? : Nat → List Token → Option (Node × List Token)
  | n + 1, t :: ts => do
    let (key, ts) ←
      if [.value, .comma, .closeList].contains t then some (.nothing, ts)
      else read? .inBrackets n (t :: ts)
    let (value, ts) ← readValue? [.comma, .closeList] .inBrackets n ts
    some (.mapping [(key, value)], ts)
  | _, _ => none

/-- Reads the items of a list in brackets, given those before, last first. A comma may follow the
last one. -/
def readItems? : Nat → List Node → List Token → Option (Node × List Token)
  | n + 1, before, ts =>
    match afterComma? .closeList before.isEmpty ts with
    | some (.closeList :: ts) => some (.list before.reverse, ts)
    | some (.key :: ts) => do
      let (item, ts) ← readPair? n ts
      readItems? n (item :: before) ts
    | some ts => do
      let (item, ts) ← read? .inBrackets n ts
      readItems? n (item :: before) ts
    | none => none
  | _, _, _ => none

/-- Reads the pairs of a mapping in brackets, given those before, last first. A comma may follow the
last one. -/
def readPairs? : Nat → List (Node × Node) → List Token → Option (Node × List Token)
  | n + 1, before, ts =>
    match afterComma? .closeMapping before.isEmpty ts with
    | some (.closeMapping :: ts) => some (.mapping before.reverse, ts)
    | some (.key :: ts) => do
      let (key, ts) ← readUnless? [.value, .comma, .closeMapping] .inBrackets n ts
      let (value, ts) ← readValue? [.comma, .closeMapping] .inBrackets n ts
      readPairs? n ((key, value) :: before) ts
    | some ts => do
      let (key, ts) ← read? .inBrackets n ts
      readPairs? n ((key, .nothing) :: before) ts
    | none => none
  | _, _, _ => none

end

/-- Reads the node of a document after the mark of its start, if it has one. Each token takes at
most three steps. -/
def readDocument? : List Token → Option (Node × List Token)
  | .documentStart :: ts =>
    if ts.head?.all (· = .documentEnd) then some (.nothing, ts)
    else read? .inBlock (3 * ts.length) ts
  | ts => read? .inBlock (3 * ts.length) ts

/-- The node of a text with one document, which marks of its end may follow. -/
def ofTokens? (ts : List Token) : Option Node := do
  let (node, rest) ← readDocument? ts
  if rest.all (· = .documentEnd) then some node else none

end Node

/-- Reads a text: its document, or nothing if it has none. An error is the absence of both. -/
def read? (s : String) : Option (Option Node) :=
  let cs := s.toList
  if !cs.all isAllowed then none
  else do
    let ts ← tokens? (unifyBreaks cs)
    if ts.isEmpty then some none else (Node.ofTokens? ts).map some

end CoverageSubset.Yaml

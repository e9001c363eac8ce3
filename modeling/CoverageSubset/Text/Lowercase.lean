import CoverageSubset.Text.CaseRanges

/-!
# Lower case

The lower case of a text by the Unicode rules that depend on no language. Each character maps on its
own, with two exceptions: the capital I with a dot becomes two characters, and the Greek capital
sigma at the end of a word becomes the final form of the letter.
-/

namespace CoverageSubset.Text

/-- The lower case of one character outside its context. -/
def lowercaseChar (c : Char) : List Char :=
  if c = 'İ' then ['i', '\u0307']
  else
    match lowercaseRanges.find? (·.contains c.toNat) with
    | some r => [Char.ofNat (c.toNat + r.shift).toNat]
    | none => [c]

/-- The first character that is not case-ignorable is a cased one. -/
def meetsCased (cs : List Char) : Bool :=
  match cs.dropWhile (inRanges caseIgnorableRanges) with
  | c :: _ => inRanges casedRanges c
  | [] => false

/-- The lower case of a text, given what comes before it, last character first. -/
def lowercaseAfter (before : List Char) : List Char → List Char
  | [] => []
  | c :: rest =>
    let here :=
      if c = 'Σ' then [if meetsCased before && !meetsCased rest then 'ς' else 'σ']
      else lowercaseChar c
    here ++ lowercaseAfter (c :: before) rest

/-- The lower case of a text. -/
def lowercase (s : String) : String := String.ofList (lowercaseAfter [] s.toList)

/-- The lower case of the ASCII letters of a text; other characters stay. -/
def lowercaseAscii (s : String) : String := String.ofList (s.toList.map Char.toLower)

/-- A sigma ends the word in its final form, the others do not. -/
example :
    lowercaseAfter [] ['Σ', 'Α', 'Σ'] = ['σ', 'α', 'ς'] ∧ lowercaseAfter [] ['Σ'] = ['σ'] := by
  decide +kernel

/-- The Kelvin sign is a k, and the dotless i stays. -/
example :
    lowercaseAfter [] ['\u212A'] = ['k'] ∧ lowercaseAfter [] ['ı', 'İ'] = ['ı', 'i', '\u0307'] := by
  decide +kernel

end CoverageSubset.Text

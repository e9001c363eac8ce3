import CoverageSubset.Catalogue.Reader
import CoverageSubset.CoverageSet.Identifier
import CoverageSubset.Document.Granules
import CoverageSubset.Document.Printer
import CoverageSubset.Document.Reader
import CoverageSubset.Document.Requests
import CoverageSubset.Resolution

/-!
# The command

One run of the command: it reads a catalogue, finds a coverage by the identifier of its series or by
its name, reads the granules, resolves the directives and prints the resolved request or an
exception report as a document. What is wrong with the arguments or the files is told in messages
instead, from the outermost to the innermost.

The arguments are checked in the order in which they are used: the catalogue, the coverage, the
granules, the directives, the envelope.
-/

namespace CoverageSubset

/-- The arguments of a run (specification 12.7, the flags). -/
structure Arguments where
  /-- The path of the catalogue. -/
  catalogue : String
  /-- The coverage, by the identifier of its series or by name. -/
  coverage : String
  /-- The path of the granules. -/
  granules : Option String
  directives : List String
  envelope : Option String
  format : Option String

namespace Arguments

/-- The options that may be given once, with a value. -/
def singleOptions : List String := ["config", "coverage", "granules", "bbox", "format", "log-level"]

/-- The option that may be repeated. -/
def directiveOption : String := "subset"

/-- The name of an option, and its value if it is part of the same argument. -/
def option? (arg : String) : Option (String × Option String) :=
  match Text.afterStart? "--" arg with
  | some rest =>
    match Text.around? '=' rest with
    | some (name, value) => some (name, some value)
    | none => some (rest, none)
  | none => if arg = "-c" then some ("config", none) else none

/-- The options with their values, in order. A value of its own must not look like an option. -/
def options? : List String → Option (List (String × String))
  | [] => some []
  | [arg] =>
    match option? arg with
    | some (name, some value) => some [(name, value)]
    | _ => none
  | arg :: next :: rest =>
    match option? arg with
    | some (name, some value) => (options? (next :: rest)).map ((name, value) :: ·)
    | some (name, none) =>
      if (Text.afterStart? "-" next).isSome then none else (options? rest).map ((name, next) :: ·)
    | none => none

/-- The values of an option. -/
def valuesOf (name : String) (options : List (String × String)) : List String :=
  (options.filter (·.1 == name)).map (·.2)

/-- The path of the catalogue if none is given. -/
def defaultCatalogue : String := "/etc/eo-subset/config.yaml"

/-- The arguments of a command line. The coverage is required, other options are not known, and only
directives may be repeated. -/
def ofList? (args : List String) : Option Arguments := do
  let options ← options? args
  let one (name : String) : Option String := (valuesOf name options).head?
  if options.any fun (name, _) ↦ name != directiveOption && !singleOptions.contains name then none
  else if singleOptions.any fun name ↦ decide (1 < (valuesOf name options).length) then none
  else
    (one "coverage").map fun coverage ↦
      { catalogue := (one "config").getD defaultCatalogue
        coverage
        granules := one "granules"
        directives := valuesOf directiveOption options
        envelope := one "bbox"
        format := one "format" }

end Arguments

/-- Why a run ends without a document. -/
inductive CommandFault where
  /-- A catalogue that is not there. -/
  | noCatalogue (path : String)
  /-- A file that is no catalogue. -/
  | badCatalogue (path : String) (fault : CatalogueFault)
  /-- A name of no coverage. -/
  | unknownCoverage (name : String)
  /-- Granules that are not there. -/
  | noGranules (path : String)
  /-- A file that holds no granules. -/
  | badGranules (path : String)
  /-- An argument that is no directive. -/
  | badDirective (arg : String)
  /-- An argument that is no envelope. -/
  | badEnvelope (fault : EnvelopeFault)
deriving DecidableEq

/-- A path in quotes. -/
def quotedPath (path : String) : String :=
  String.ofList ('"' :: path.toList.flatMap (fun c ↦ if c = '"' ∨
    c = '\\' then ['\\', c] else [c]) ++ ['"'])

/-- The messages about a fault, from the outermost to the innermost. -/
def CommandFault.messages : CommandFault → List String
  | noCatalogue path => ["Failed to read: " ++ quotedPath path]
  | badCatalogue path fault => ["Failed to parse: " ++ quotedPath path, fault.message]
  | unknownCoverage name => ["Unknown coverage: " ++ name]
  | noGranules path => ["Failed to read: " ++ path]
  | badGranules path => ["Failed to parse granules: " ++ path]
  | badDirective arg => ["Subset must be dim=value or dim=low,high: " ++ arg]
  | badEnvelope fault => ["Invalid --bbox", fault.message]

/-- The directive of an argument: a name, an equals sign, and one value or two with a comma between
them (specification 12.7, `--subset`). -/
def Directive.ofArgument (arg : String) : Except CommandFault Directive :=
  match Text.around? '=' arg with
  | none => .error (.badDirective arg)
  | some (axis, value) =>
    match Text.around? ',' value with
    | some (low, high) => .ok (.trim (Text.strip axis) (Text.strip low) (Text.strip high))
    | none => .ok (.slice (Text.strip axis) (Text.strip value))

/-- The catalogue in a file (specification 11.3, `load`). -/
def Catalogue.ofFile (path : String) : Option String → Except CommandFault Catalogue
  | none => .error (.noCatalogue path)
  | some text => (Catalogue.ofText text).mapError (.badCatalogue path)

/-- The granules in a document. -/
def Granule.listOfText? (text : String) : Option (List Granule) :=
  (Document.ofLenientText? text).bind (Document.list? Granule.ofDocument?)

/-- The granules in a file. -/
def Granule.ofFile (path : String) : Option String → Except CommandFault (List Granule)
  | none => .error (.noGranules path)
  | some text =>
    match Granule.listOfText? text with
    | some gs => .ok gs
    | none => .error (.badGranules path)

/-- The coverage of an identifier of a series or of a name (specification 12.7, `--coverage`). -/
def Catalogue.choose (c : Catalogue) (name : String) : Except CommandFault Coverage :=
  match (c.series? name).or (c.find? name) with
  | some v => .ok v
  | none => .error (.unknownCoverage name)

namespace Arguments

/-- The envelope of the arguments. -/
def envelope? (a : Arguments) : Except CommandFault (Option Envelope) :=
  match a.envelope with
  | none => .ok none
  | some text => ((Envelope.ofLiteral text).map some).mapError .badEnvelope

/-- Runs the command, given the texts of the files: the resolved request, or the fault that is
reported. -/
def run (a : Arguments) (file? : String → Option String) :
    Except CommandFault (Except ResolutionFault GridRequest) := do
  let catalogue ← Catalogue.ofFile a.catalogue (file? a.catalogue)
  let coverage ← catalogue.choose a.coverage
  let granules ←
    match a.granules with
    | none => .ok []
    | some path => Granule.ofFile path (file? path)
  let directives ← a.directives.mapM Directive.ofArgument
  let envelope ← a.envelope?
  .ok (coverage.resolve (.ofList granules) ⟨directives, catalogue.prefixes⟩ envelope a.format)

/-- What a run prints and its exit code: zero if it succeeds, one for a report, and the code of a
program that is stopped otherwise (specification 12.7, what is printed). -/
def output : Except ResolutionFault GridRequest → String × Nat
  | .ok r => (r.toDocument.pretty ++ "\n", 0)
  | .error f =>
    match f.toFault? with
    | some fault => (fault.report.pretty ++ "\n", 1)
    | none => ("", 101)

end Arguments

end CoverageSubset

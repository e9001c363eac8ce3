import CoverageSubset.Command

/-!
# The program

Reads the files that the arguments name, prints what the command answers, and tells by the exit code
whether it succeeded: zero if it did, one if it did not, two for a command line that it does not
understand. Records that cannot be sorted stop it with a complaint.
-/

namespace CoverageSubset

/-- The text of a file that can be read. -/
def readFile? (path : String) : IO (Option String) := do
  try
    let text ← IO.FS.readFile path
    return some text
  catch _ => return none

/-- Prints messages to the error stream. -/
def printMessages (messages : List String) : IO Unit := do
  let err ← IO.getStderr
  match messages with
  | [] => return
  | first :: causes =>
    err.putStrLn ("Error: " ++ first)
    unless causes.isEmpty do
      err.putStrLn "\nCaused by:"
      for cause in causes do
        err.putStrLn ("    " ++ cause)

/-- Runs the command on arguments. -/
def runArguments (a : Arguments) : IO UInt32 := do
  let catalogue ← readFile? a.catalogue
  let granules ←
    match a.granules with
    | some path => readFile? path
    | none => pure none
  let file? (path : String) : Option String := if path = a.catalogue then catalogue else granules
  match a.run file? with
  | .error f =>
    printMessages f.messages
    return 1
  | .ok result =>
    let (text, code) := Arguments.output result
    IO.print text
    if let .error (.noDefaults .unsorted) := result then
      (← IO.getStderr).putStrLn Sorter.complaint
    return code.toUInt32

end CoverageSubset

/-- The entry point. -/
def main (args : List String) : IO UInt32 :=
  match CoverageSubset.Arguments.ofList? args with
  | some a => CoverageSubset.runArguments a
  | none => do
    (← IO.getStderr).putStrLn "error: the arguments are not understood"
    return 2

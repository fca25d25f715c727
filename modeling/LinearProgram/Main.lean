/-
  Main — the report program on the command line.

  What the program reads is fetched first, what it says is decided by `Report.run`, and then it is
  put out.
-/

import LinearProgram.Markup.Stored
import LinearProgram.Report

namespace LinearProgram.Main

/-- The reason of a refusal by the operating system. -/
def refusal (number : UInt32) : Store.Refusal :=
  if number = 21 then .isDirectory
  else if number = 20 then .notDirectory
  else if number = 36 then .nameTooLong
  else if number = 13 then .denied
  else .missing

/-- The number that the operating system gives an error. -/
def number : IO.Error → UInt32
  | .inappropriateType _ n _ => n
  | .invalidArgument _ n _ => n
  | .permissionDenied _ n _ => n
  | .resourceExhausted _ n _ => n
  | _ => 2

/-- Fetches what is kept at a path. -/
def fetch (path : Text) : IO (Text × Except Store.Refusal Octets) := do
  if path.contains '\x00' then return (path, .error .zeroInPath)
  try
    let content ← IO.FS.readBinFile (String.ofList path)
    return (path, .ok content.toList)
  catch e => return (path, .error (refusal (number e)))

/-- The store of what was fetched. -/
def storeOf (fetched : List (Text × Except Store.Refusal Octets)) : Store := fun path =>
  (fetched.lookup path).getD (.error .missing)

/-- The paths that arguments lead to. -/
def pathsOf (arguments : List Text) : List Text :=
  match Report.Arguments.read arguments with
  | .ok a => a.paths
  | .error _ => []

end LinearProgram.Main

open LinearProgram in
/-- Runs the report program. -/
def main (arguments : List String) : IO UInt32 := do
  let arguments := arguments.map String.toList
  let fetched ← (Main.pathsOf arguments).mapM Main.fetch
  match Report.run Markup.readStored (Main.storeOf fetched) .shipped arguments with
  | .refused refusal => return refusal.status.toUInt32
  | .failed failure =>
    IO.eprintln failure.message
    return 1
  | .done report =>
    IO.eprint (String.ofList report.log)
    IO.print (String.ofList report.output)
    return report.status.toUInt32

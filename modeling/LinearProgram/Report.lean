/-
  Report — the program that reads a document and tells how large its model is.

  1. **Arguments** — the path of the document, and switches for the level of the log, for the
     configuration and for the model as a structured value.

  2. **Running** — the log goes to one channel of output, the structured value to another. The
     status is 0 if the document has a model and 1 if it has none. The warning about a missing
     configuration comes before the log is set up, and is the bare message.
-/

import LinearProgram.CommandLine
import LinearProgram.Log.Setup
import LinearProgram.Settings.Load
import LinearProgram.Store.Document

namespace LinearProgram

/-- What the program puts out. -/
structure Report where
  status : Nat
  output : Text
  log : Text
deriving DecidableEq

namespace Report

/-! ## Arguments -/

/-- The switches of the program. -/
inductive Key where
  | logLevel
  | configuration
  | structured
deriving DecidableEq, Repr

/-- What the program can be told. -/
def usage : CommandLine.Usage Key where
  switches :=
    [ { key := .logLevel, spelling := "--log-level".toList, takesValue := true },
      { key := .configuration, spelling := "--config".toList, takesValue := true },
      { key := .structured, spelling := "--json".toList } ]
  takesOperand := true

/-- What the program was told. -/
structure Arguments where
  path : Text := []
  logLevel : Option Text := none
  configuration : Settings.Choice := .standard
  structured : Bool := false
deriving DecidableEq

/-- Takes a switch; the last one of its kind counts. -/
def Arguments.take : Key → Option Text → Arguments → Arguments
  | .logLevel, value, a => { a with logLevel := value }
  | .configuration, value, a => { a with configuration := .ofValue value }
  | .structured, _, a => { a with structured := true }

/-- Reads the arguments. -/
def Arguments.read (arguments : List Text) : Except CommandLine.Refusal Arguments :=
  CommandLine.read usage (fun path a => { a with path })
    (fun key value a => .ok (a.take key value)) {} arguments

/-- The paths that the program is going to look at. -/
def Arguments.paths (a : Arguments) : List Text :=
  a.path :: (a.configuration.path?.map Path.normal).toList

/-! ## Running -/

/-- How a run ends. -/
inductive Ending where
  | refused (refusal : CommandLine.Refusal)
  | failed (failure : Failure)
  | done (report : Report)

/-- The records of a model's size. -/
def sizes (m : Model) : List Log.Record :=
  let record (what : String) (n : Nat) : Log.Record :=
    ⟨Log.reportChannel, .info, s!"Number of {what}: {Model.count n}"⟩
  [ record "objectives" m.objectives.length,
    record "variables" m.vars.length,
    record "constraints" m.constraints.length ]

/-- The report of a reading. -/
def ofReading (setup : Log.Setup) (structured : Bool) (r : Reading) : Report where
  status := if r.isOk then 0 else 1
  output := if structured then r.payload.render ++ ['\n'] else []
  log := setup.render (r.log ++ sizes r.model)

/-- The warnings that come before the log is set up. -/
def early (warnings : List Log.Record) : Text :=
  warnings.flatMap fun r => r.message.toList ++ ['\n']

/-- Runs the program with arguments that were read. -/
def ofArguments (reader : Settings.Reader) (store : Store) (standard : Settings.Standard)
    (a : Arguments) : Ending :=
  match Settings.loadOrDefaults reader store standard a.configuration Settings.reportPart
      Log.reportChannel with
  | (.error failure, _) => .failed failure
  | (.ok settings, warnings) =>
    match Log.setup settings a.logLevel with
    | .error failure => .failed failure
    | .ok setup =>
      match store.reading Log.documentChannel a.path with
      | .error _ => .failed .zeroInPath
      | .ok reading =>
        let report := ofReading setup a.structured reading
        .done { report with log := early warnings ++ report.log }

/-- Runs the program. -/
def run (reader : Settings.Reader) (store : Store) (standard : Settings.Standard)
    (arguments : List Text) : Ending :=
  match Arguments.read arguments with
  | .error refusal => .refused refusal
  | .ok a => ofArguments reader store standard a

end Report

end LinearProgram

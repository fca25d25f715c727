/-
  Inspection — the tools of the inspection server: a document goes in, its model comes out.

  1. **Tools** — one tool takes a document as a text, the other takes the path of one, which may
     begin in a home directory. Either needs exactly its own argument, and a text that is not
     blank.

  2. **Findings** — a summary for people and a structured value for programs. A document without a
     model is a finding like any other; the server's channel warns of it.
-/

import LinearProgram.Store.Document
import LinearProgram.Store.Home

namespace LinearProgram.Inspection

/-! ## Tools -/

/-- The tools of the server. -/
inductive Tool where
  | document
  | file
deriving DecidableEq, Repr

namespace Tool

/-- The tools in the order of their names. -/
def all : List Tool := [document, file]

/-- The name that a tool is called by. -/
def name : Tool → String
  | document => "inspect_lp"
  | file => "inspect_lp_file"

/-- What a tool tells its users about itself. -/
def description : Tool → String
  | document =>
    "Reads LP (.lp) text into a structured model without solving it. "
      ++ "Output lists objectives, constraints and variables with bounds and types, "
      ++ "or the line and section of the first problem found."
  | file =>
    "Reads an LP (.lp) file from the server's filesystem into a structured model. "
      ++ "Output matches inspect_lp."

/-- The name of a tool's argument. -/
def parameter : Tool → String
  | document => "lp_code"
  | file => "path"

/-- The tool of a name. -/
def ofName? (name : Text) : Option Tool := all.find? fun tool => tool.name.toList = name

end Tool

/-! ## Findings -/

/-- What a tool finds. -/
structure Finding where
  summary : String
  structured : Json

/-- A finding or a failure, and the log on the way to it. -/
structure Outcome where
  result : Except Failure Finding
  log : List Log.Record

/-- Where a document comes from that was handed over as a text. -/
def textOrigin : Text := "<lp_code>".toList

/-- What is said of a document without a model. -/
def complaint (fault : Fault) : String :=
  s!"LP reading failed in section {(fault.within.getD .start).label}: {fault.text}"

/-- A record on the server's channel. -/
def told (level : Log.Level) (message : String) : Log.Record := ⟨Log.serverChannel, level, message⟩

/-- The finding of a reading. -/
def ofReading (r : Reading) : Outcome :=
  match r.outcome with
  | .ok model => ⟨.ok ⟨model.summary, r.payload⟩, r.log⟩
  | .error fault =>
    ⟨.ok ⟨complaint fault, r.payload⟩, r.log ++ [told .warning (complaint fault)]⟩

/-- An outcome with a record before its log. -/
def Outcome.after (record : Log.Record) (o : Outcome) : Outcome :=
  { o with log := record :: o.log }

/-- Inspects a document. -/
def document (t : Text) : Outcome :=
  if t.isBlankOnly then ⟨.error (.blankInput Tool.document.parameter), []⟩
  else
    (ofReading (.ofText Log.documentChannel textOrigin t)).after
      (told .info "Tool call received: inspect_lp")

/-- Inspects the document at a path. -/
def file (store : Store) (homes : Homes) (path : Text) : Outcome :=
  if path.isBlankOnly then ⟨.error (.blankInput Tool.file.parameter), []⟩
  else
    let called := told .info s!"Tool call received: inspect_lp_file ({Cause.verbatim path})"
    match Path.expanded homes path with
    | .error failure => ⟨.error failure, [called]⟩
    | .ok place =>
      match store.reading Log.documentChannel place with
      | .ok reading => (ofReading reading).after called
      | .error _ => ⟨.error .zeroInPath, [called]⟩

/-- Runs a tool on a text. -/
def Tool.run (store : Store) (homes : Homes) : Tool → Text → Outcome
  | document => Inspection.document
  | file => Inspection.file store homes

/-- Calls a tool with named arguments; an argument that is no text has none. -/
def Tool.call (store : Store) (homes : Homes) (tool : Tool)
    (arguments : List (Text × Option Text)) : Outcome :=
  match arguments with
  | [(name, some t)] =>
    if name = tool.parameter.toList then tool.run store homes t else ⟨.error .toolArguments, []⟩
  | _ => ⟨.error .toolArguments, []⟩

end LinearProgram.Inspection

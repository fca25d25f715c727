/-
  Assistant — the inspection as a tool for a language model.

  The tool takes a document as a text and answers with a structured value, whatever is wrong with
  the document. Reading may be logged to a channel of the caller's.
-/

import LinearProgram.Inspection

namespace LinearProgram.Assistant

/-- The tool's name. -/
def name : String := "inspect_lp"

/-- What the tool tells the language model about documents. -/
def guide : String :=
  "\n".intercalate
    [ "LP Format Guide (CPLEX .lp text):",
      "",
      "- Objective function: Begin with \"Minimize\" or \"Maximize\" on its own line, "
        ++ "then one or more",
      "  named objectives. Example: \"obj: 3 x1 + 4 x2\".",
      "",
      "- Constraints: Introduced by \"Subject To\". Each constraint has a name, colon, linear "
        ++ "expression,",
      "  relational operator (<=, >=, =), and numeric right-hand side.",
      "  Example: \"c1: 0.333 x1 + 2 x2 <= 10\".",
      "",
      "- Variable Bounds: Introduced by \"Bounds\". Examples: \"0 <= x1 <= 5\", \"5 <= x3\", "
        ++ "\"x2 free\".",
      "  This section is optional; omitted bounds default to non-negative.",
      "",
      "- Variable Types: Use \"Generals\" for integer variables or \"Binaries\" for 0-1 variables.",
      "",
      "- End: The model ends with the line \"End\"." ]

/-- What the tool tells the language model about itself. -/
def description : String :=
  "Reads LP (.lp) text into objectives, constraints and variables without solving it. "
    ++ "Reports the line and section of the first structural problem. \n\n\n" ++ guide

/-- The tool's arguments and what they mean. -/
def fields : List (String × String) := [("lp_code", "LP code in CPLEX .lp format")]

/-- The answer where no document was handed over. -/
def missingInput : Json :=
  .object
    [ Payload.member "valid" (.bool false),
      Payload.member "error" (.object
        [ Payload.member "line_number" (.integer 0),
          Payload.member "section" .null,
          Payload.member "kind" (Payload.word "MissingInput"),
          Payload.member "message" (Payload.word "lp_code is required") ]) ]

/-- An answer or a failure, and the log on the way to it. -/
structure Outcome where
  result : Except Failure Json
  log : List Log.Record

/-- A record on the tool's channel. -/
def told (level : Log.Level) (message : String) : Log.Record := ⟨Log.toolChannel, level, message⟩

/-- The warning about a document without a model. -/
def warning (r : Reading) : List Log.Record :=
  match r.fault? with
  | some fault => [told .warning s!"LP reading failed: {fault.text}"]
  | none => []

/-- Answers for a document. -/
def answer (channel : String) (t : Text) : Outcome :=
  if t.isBlankOnly then ⟨.ok missingInput, []⟩
  else
    let reading := Reading.ofText channel Inspection.textOrigin t
    ⟨.ok reading.payload,
      told .info "inspect_lp tool called" :: (reading.log ++ warning reading)⟩

/-- Calls the tool; `channel` is where reading is logged to, and an argument that is missing or no
    text is a failure. -/
def call (channel : String) (document : Option Text) : Outcome :=
  match document with
  | some t => answer channel t
  | none => ⟨.error .toolArguments, []⟩

end LinearProgram.Assistant

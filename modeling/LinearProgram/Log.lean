/-
  Log — the records that reading a document leaves behind.

  1. **Levels** order the records by how much they matter.

  2. **Records** carry the channel they were written to, their level and their message. A log is the
     list of its records, oldest first; `atLeast` is what a reader of the log sees from a level on.
-/

import LinearProgram.Text.Basic

namespace LinearProgram.Log

/-- How much a record matters. -/
inductive Level where
  | debug
  | info
  | warning
  | error
  | critical
deriving DecidableEq, Repr

/-- The level's name in reports. -/
def Level.label : Level → String
  | debug => "DEBUG"
  | info => "INFO"
  | warning => "WARNING"
  | error => "ERROR"
  | critical => "CRITICAL"

/-- The level as a number; greater numbers matter more. -/
def Level.rank : Level → Nat
  | debug => 10
  | info => 20
  | warning => 30
  | error => 40
  | critical => 50

/-- The channel of the records about expressions and constraint lines. -/
def expressionChannel : String := "lpformat.lexer"

/-- The channel of the records about bounds. -/
def boundChannel : String := "lpformat.bounds"

/-- The channel of the records about documents, unless the caller names another one. -/
def documentChannel : String := "lpformat.reader"

/-- The channel of the command line report. -/
def reportChannel : String := "lpformat.runner"

/-- The channel of the inspection server. -/
def serverChannel : String := "lp_mcp.server"

/-- The channel of the inspection tool. -/
def toolChannel : String := "langchain_lp.tools"

/-- One record. -/
structure Record where
  channel : String
  level : Level
  message : String
deriving DecidableEq, Repr

/-- The records whose level has at least a rank. -/
def atLeast (rank : Nat) (records : List Record) : List Record :=
  records.filter fun r => rank ≤ r.level.rank

end LinearProgram.Log

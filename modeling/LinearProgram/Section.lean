/-
  Section — the parts of a document, in the order in which they may follow each other.
-/

import LinearProgram.Text.Basic

namespace LinearProgram

/-- Where in a document the reading stands. -/
inductive Section where
  /-- Before the optimisation direction. -/
  | start
  | objective
  | constraints
  | bounds
  | binary
  | general
  /-- Behind the end marker. -/
  | finish
deriving DecidableEq, Repr

namespace Section

/-- The section's name in reports. -/
def label : Section → String
  | start => "start"
  | objective => "objective"
  | constraints => "constraints"
  | bounds => "bounds"
  | binary => "binary"
  | general => "general"
  | finish => "end"

/-- The section's name in messages about the order of sections. -/
def title : Section → String
  | start => "START"
  | objective => "OBJECTIVE"
  | constraints => "CONSTRAINTS"
  | bounds => "BOUNDS"
  | binary => "BINARY"
  | general => "GENERAL"
  | finish => "END"

/-- The sections that may come directly behind a section. The declaring sections — bounds, binary
    and general — may repeat and follow each other in any order. -/
def successors : Section → List Section
  | start => [objective]
  | objective => [constraints, bounds, binary, general, finish]
  | constraints => [bounds, binary, general, finish]
  | bounds => [bounds, binary, general, finish]
  | binary => [bounds, binary, general, finish]
  | general => [bounds, binary, general, finish]
  | finish => []

end Section

end LinearProgram

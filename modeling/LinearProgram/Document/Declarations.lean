/-
  Declarations — the lines of the bounds, binary and general sections.

  These sections declare variables that were mentioned before: each line of the bounds section is
  one bound, each word of a line in the other two is a variable that gets the section's kind. They
  may come in any order, and any number of times, until the end marker.
-/

import LinearProgram.Document.Draft
import LinearProgram.Source

namespace LinearProgram.Declarations

open Cursor (Turn Verdict)

/-- The kind that a section gives to the variables it lists. -/
def kind? : Section → Option Variable.Kind
  | .binary => some .binary
  | .general => some .integer
  | _ => none

/-- Gives the kind to the variables, in order, up to one that is not registered. -/
def assign (kind : Variable.Kind) : List Text → Table → Table × Option Cause
  | [], table => (table, none)
  | name :: names, table =>
    if table.has name then assign kind names (table.update name fun c => { c with kind })
    else (table, some (.unknownVariable name))

/-- Reads a line of a section that lists variables. -/
def listed (kind : Variable.Kind) (number : Nat) (text : Text) (d : Draft) : Turn Draft Unit :=
  match assign kind text.words d.table with
  | (table, none) => ⟨.more { d with table }, []⟩
  | (table, some cause) => ⟨.failed { d with table } { cause, line := number }, []⟩

/-- Reads a line of the bounds section. -/
def bound (number : Nat) (text : Text) (d : Draft) : Turn Draft Unit :=
  match Bound.read d.table text with
  | .ok b => ⟨.more { d with table := b.apply d.table }, Event.ofBound d.table text⟩
  | .error cause => ⟨.failed d { cause, line := number }, Event.ofBound d.table text⟩

/-- Reads a line of the section that the draft is in. -/
def line (number : Nat) (text : Text) (d : Draft) : Turn Draft Unit :=
  match Keyword.section? text with
  | some target => ⟨.done (d.switch target) (), [.switched target]⟩
  | none =>
    match kind? d.stage with
    | some kind => listed kind number text d
    | none => bound number text d

/-- Reads one line that was handed out, up to the next keyword. -/
def step (number : Nat) (text : Text) (d : Draft) : Turn Draft Unit :=
  if text.isEmpty then ⟨.more d, [.lineRead number text]⟩
  else
    let turn := line number text d
    { turn with events := .lineRead number text :: turn.events }

end LinearProgram.Declarations

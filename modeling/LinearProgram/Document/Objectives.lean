/-
  Objectives — the lines of the objective section.

  1. **Ends** — a constraints keyword, a section keyword, or a line with a relational character,
     which then is the first line of the constraints section.

  2. **Content** — a line may begin with a name and a colon, which opens an objective; the rest of
     the line is added to the open objective. Without an open objective, content opens one of the
     default name.

  A document without any content line has one objective of the default name, constantly zero.
-/

import LinearProgram.Document.Draft
import LinearProgram.Source

namespace LinearProgram.Objectives

open Cursor (Turn Verdict)

/-- The draft, and whether its last objective takes further lines. -/
structure State where
  draft : Draft
  isOpen : Bool := false

/-- The state with the objective of a line's name opened, if the line has one. -/
def State.named (s : State) : Option Text → State
  | some name => { draft := s.draft.openObjective name, isOpen := true }
  | none => s

/-- The state with an objective open. -/
def State.opened (s : State) : State :=
  if s.isOpen then s
  else { draft := s.draft.openObjective Draft.defaultObjectiveName, isOpen := true }

/-- Adds a line's expression to the open objective. -/
def addBody (number : Nat) (body : Text) (s : State) (events : List Event) :
    Turn State (Option Text) :=
  match Expression.terms body with
  | (terms, cause?) =>
    let told := events ++ Event.ofTerms s.draft.table terms
    let draft := s.draft.mention terms
    match cause? with
    | none => ⟨.more { s with draft := draft.mergeLast (.ofTerms terms) }, told⟩
    | some cause => ⟨.failed { s with draft } { cause, line := number }, told⟩

/-- The events of a line's name. -/
def namedEvents : Option Text → List Event
  | some name => [.objectiveNamed name]
  | none => []

/-- Leaves the section, with the line that is to be read again if there is one. -/
def leave (s : State) (target : Section) (pending : Option Text) : Turn State (Option Text) :=
  ⟨.done { s with draft := s.draft.switch target } pending, [.switched target]⟩

/-- Reads one line. -/
def line (number : Nat) (text : Text) (s : State) : Turn State (Option Text) :=
  if Keyword.opensConstraints text then leave s .constraints none
  else match Keyword.section? text with
  | some target => leave s target none
  | none =>
    if Relation.occursIn text then leave s .constraints (some text)
    else match ConstraintLine.splitName text with
    | .error cause => ⟨.failed s { cause, line := number }, []⟩
    | .ok (name?, body) =>
      if body.isEmpty then ⟨.more (s.named name?), namedEvents name?⟩
      else addBody number body (s.named name?).opened (namedEvents name?)

/-- Reads one line that was handed out; blank ones say nothing. -/
def step (number : Nat) (text : Text) (s : State) : Turn State (Option Text) :=
  if text.isEmpty then ⟨.more s, []⟩
  else
    let turn := line number text s
    { turn with events := .lineRead number text :: turn.events }

/-- The draft at the end of the section, which has an objective. -/
def complete (d : Draft) : Draft :=
  if d.objectives.isEmpty then d.openObjective Draft.defaultObjectiveName else d

end LinearProgram.Objectives

/-
  Constraints — the lines of the constraints section.

  1. **Ends** — a section keyword. No constraint may be open then.

  2. **Content** — a constraint may begin with a name and a colon. Expressions are added to its
     left-hand side, over as many lines as it takes, until an operator and a value close it. While a
     constraint is open no other can be named; where none is open, an operator needs an expression
     in front of it.
-/

import LinearProgram.Document.Draft
import LinearProgram.Source

namespace LinearProgram.Constraints

open Cursor (Turn Verdict)

/-- The draft, and the constraint that is open. -/
structure State where
  draft : Draft
  current : Option Constraint.Open := none

/-- A fault at the line on which an unfinished constraint begins. -/
def unfinished (c : Constraint.Open) : Fault where
  cause := .unfinishedConstraint c.name
  line := c.line.toNat

/-- Closes a constraint. -/
def close (d : Draft) (c : Constraint.Open) (relation : Relation) (rhs : Float)
    (events : List Event) : Turn State Unit :=
  match c.close relation rhs with
  | .ok finished =>
    ⟨.more { draft := d.addConstraint finished }, events ++ [.constraintFinished finished.name]⟩
  | .error fault => ⟨.failed { draft := d, current := some c } fault, events⟩

/-- Adds an expression to the open constraint, then goes on with the draft and the constraint. -/
def addExpression (number : Nat) (d : Draft) (c : Constraint.Open) (lhs : Text)
    (events : List Event)
    (goOn : Draft → Constraint.Open → List Event → Turn State Unit) : Turn State Unit :=
  match Expression.terms lhs with
  | (terms, cause?) =>
    let told := events ++ Event.ofTerms d.table terms
    match cause? with
    | none => goOn (d.mention terms) (c.merge (.ofTerms terms)) told
    | some cause =>
      ⟨.failed { draft := d.mention terms, current := some c } { cause, line := number }, told⟩

/-- Adds what a line says to the open constraint `c`. -/
def contribute (number : Nat) (d : Draft) (c : Constraint.Open) (events : List Event) :
    ConstraintLine → Turn State Unit
  | .expression lhs =>
    addExpression number d c lhs events fun d c events =>
      ⟨.more { draft := d, current := some c }, events⟩
  | .comparison relation rhs => close d c relation rhs events
  | .both lhs relation rhs =>
    addExpression number d c lhs events fun d c events => close d c relation rhs events

/-- The open constraint that a line without a name contributes to: the one that is open, or a new
    one if the line begins with an expression. -/
def target? (number : Nat) (s : State) : ConstraintLine → Option Constraint.Open
  | .comparison _ _ => s.current
  | _ => some (s.current.getD { name := s.draft.nextConstraintName, line := number })

/-- Reads what stands behind the name of a line `text`. -/
def addBody (number : Nat) (text body : Text) (s : State) (events : List Event) :
    Turn State Unit :=
  let told := events ++ Event.ofConstraintLine body
  match ConstraintLine.read body with
  | .error cause => ⟨.failed s { cause, line := number }, told⟩
  | .ok said =>
    match target? number s said with
    | none => ⟨.failed s { cause := .noLeftHandSide text, line := number }, told⟩
    | some c => contribute number s.draft c told said

/-- Reads one line. -/
def line (number : Nat) (text : Text) (s : State) : Turn State Unit :=
  match Keyword.section? text with
  | some target =>
    match s.current with
    | some c => ⟨.failed s (unfinished c), []⟩
    | none => ⟨.done { s with draft := s.draft.switch target } (), [.switched target]⟩
  | none =>
    match ConstraintLine.splitName text with
    | .error cause => ⟨.failed s { cause, line := number }, []⟩
    | .ok (none, body) =>
      if body.isEmpty then ⟨.more s, []⟩ else addBody number text body s []
    | .ok (some name, body) =>
      match s.current with
      | some c => ⟨.failed s (unfinished c), []⟩
      | none =>
        let named := { s with current := some { name, line := number } }
        if body.isEmpty then ⟨.more named, [.constraintNamed name]⟩
        else addBody number text body named [.constraintNamed name]

/-- Reads one line that was handed out; blank ones say nothing. -/
def step (number : Nat) (text : Text) (s : State) : Turn State Unit :=
  if text.isEmpty then ⟨.more s, []⟩
  else
    let turn := line number text s
    { turn with events := .lineRead number text :: turn.events }

end LinearProgram.Constraints

/-
  ConstraintLine — what one line of the constraints section contributes to a constraint.

  A constraint may be spread over several lines. A line without relational characters carries on
  its left-hand side; the line with the operator ends it, and may hold the last part of the
  left-hand side, or the whole of it, in front of the operator.
-/

import LinearProgram.Name
import LinearProgram.Quantity
import LinearProgram.Relation

namespace LinearProgram

/-- What a line contributes. -/
inductive ConstraintLine where
  /-- A part of the left-hand side. -/
  | expression (lhs : Text)
  /-- The relation and the right-hand side. -/
  | comparison (relation : Relation) (rhs : Float)
  /-- The last part of the left-hand side, the relation and the right-hand side. -/
  | both (lhs : Text) (relation : Relation) (rhs : Float)
deriving DecidableEq

namespace ConstraintLine

/-- The pieces of a line around an operator, without blanks, the empty ones left out. -/
def pieces (operator line : Text) : List Text :=
  ((Relation.piecesAround operator line).map Text.trim).filter (! ·.isEmpty)

/-- Reads the pieces around an operator: an optional left-hand side and a quantity. -/
def ofPieces (line : Text) (relation : Relation) : List Text → Except Cause ConstraintLine
  | [value] =>
    match Quantity.read value with
    | .ok rhs => .ok (.comparison relation rhs)
    | .error cause => .error cause
  | [lhs, value] =>
    match Quantity.read value with
    | .ok rhs => .ok (.both lhs relation rhs)
    | .error cause => .error cause
  | _ => .error (.invalidConstraintLine line)

/-- The relation that a line states, if its first operator is a known one. -/
def relation? (line : Text) : Option Relation :=
  (Relation.firstOperator? line).bind Relation.ofOperator?

/-- Reads a line. -/
def read (line : Text) : Except Cause ConstraintLine :=
  match Relation.firstOperator? line with
  | none => .ok (.expression line.trim)
  | some operator =>
    match Relation.ofOperator? operator with
    | none => .error (.unsupportedOperator operator line)
    | some relation => ofPieces line relation (pieces operator line)

/-- The name in front of a colon, if there is a colon and no relational character before it, and
    the rest of the line. -/
def splitName (line : Text) : Except Cause (Option Text × Text) :=
  match Text.cutAt? ':' line with
  | none => .ok (none, line)
  | some (front, back) =>
    if Relation.occursIn front then .ok (none, line)
    else match Name.read front with
      | .ok name => .ok (some name, back.trim)
      | .error cause => .error cause

end ConstraintLine

end LinearProgram

/-
  Draft — what has been read of a document so far.

  A draft only grows: variables, objectives and constraints are added behind those that are there.
  What a line contributed before something went wrong in it stays in the draft.
-/

import LinearProgram.Event
import LinearProgram.Keyword
import LinearProgram.Model

namespace LinearProgram

/-- What has been read of a document so far. -/
structure Draft where
  /-- The section that the reading stands in. -/
  stage : Section := .start
  /-- The direction, once its line was read. -/
  direction : Option Direction := none
  objectives : List Objective := []
  constraints : List Constraint := []
  table : Table := []
deriving DecidableEq

namespace Draft

/-- The draft in another section. -/
def switch (d : Draft) (target : Section) : Draft := { d with stage := target }

/-- The draft with the variables of the terms registered. -/
def mention (d : Draft) (terms : List Term) : Draft :=
  { d with table := d.table.registerAll (terms.map Term.name) }

/-- The name of an objective that was given none. -/
def defaultObjectiveName : Text := "obj".toList

/-- The draft with one more objective, which has no coefficients yet. The direction is known
    wherever objectives are read. -/
def openObjective (d : Draft) (name : Text) : Draft :=
  { d with objectives := d.objectives ++ [{ name, direction := d.direction.getD .maximize }] }

/-- The draft with coefficients added to its last objective. -/
def mergeLast (d : Draft) (cs : Coefficients) : Draft :=
  match d.objectives.getLast? with
  | none => d
  | some o => { d with objectives := d.objectives.dropLast ++ [o.merge cs] }

/-- The draft with one more constraint. -/
def addConstraint (d : Draft) (c : Constraint) : Draft :=
  { d with constraints := d.constraints ++ [c] }

/-- The numbered name of a constraint that was given none. -/
def numberedName (k : Nat) : Text := 'R' :: Decimal.digits k

/-- The name of the next constraint, if it is given none: `R` and the least number, from the
    constraint's own position on, that no earlier constraint has taken. Of one number more than
    there are names, one is free. -/
def defaultConstraintName (taken : List Text) : Text :=
  let position := taken.length + 1
  let candidates := List.range' position (taken.length + 1)
  numberedName ((candidates.find? fun k => ! taken.contains (numberedName k)).getD position)

/-- The default name in a draft. -/
def nextConstraintName (d : Draft) : Text :=
  defaultConstraintName (d.constraints.map Constraint.name)

example : defaultConstraintName ["c".toList, "R3".toList] = "R4".toList := by decide

/-- **Different numbers make different names.** -/
theorem numberedName_injective {j k : Nat} (h : numberedName j = numberedName k) : j = k :=
  Decimal.digits_injective (List.cons.inj h).2

end Draft

end LinearProgram

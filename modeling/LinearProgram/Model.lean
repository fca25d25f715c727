/-
  Model — a linear program as a document describes it: objectives, constraints and variables.

  A constraint is `Open` while its left-hand side is being read, possibly over several lines. It is
  closed by its relation and its right-hand side, and then must have a name, a line and a left-hand
  side.
-/

import LinearProgram.Coefficients
import LinearProgram.Direction
import LinearProgram.Relation
import LinearProgram.Variable

namespace LinearProgram

/-! ## Objectives -/

/-- An expression to be maximised or minimised. -/
structure Objective where
  name : Text
  direction : Direction
  coefficients : Coefficients := []
deriving DecidableEq

namespace Objective

/-- The objective, unless its name is blank. An objective without coefficients is constantly
    zero. -/
def check (o : Objective) : Except Cause Objective :=
  if o.name.isBlankOnly then .error (.blankName .objective) else .ok o

/-- The objective with further coefficients added to its own. -/
def merge (o : Objective) (cs : Coefficients) : Objective :=
  { o with coefficients := o.coefficients.merge cs }

end Objective

/-! ## Constraints -/

/-- A constraint of a finished model. -/
structure Constraint where
  name : Text
  /-- The line that the constraint begins on. -/
  line : Nat
  coefficients : Coefficients
  relation : Relation
  rhs : Float
deriving DecidableEq

/-- A constraint whose left-hand side is being read. -/
structure Constraint.Open where
  name : Text
  line : Int
  coefficients : Coefficients := []
deriving DecidableEq

namespace Constraint.Open

/-- The constraint with further coefficients on its left-hand side. -/
def merge (c : Constraint.Open) (cs : Coefficients) : Constraint.Open :=
  { c with coefficients := c.coefficients.merge cs }

/-- The finished constraint. -/
def close (c : Constraint.Open) (relation : Relation) (rhs : Float) : Except Fault Constraint :=
  if c.name.isBlankOnly then .error { cause := .blankName .constraint }
  else if c.line ≤ 0 then .error { cause := .lineNotPositive c.name c.line }
  else if c.coefficients.isEmpty then
    .error { cause := .emptyLeftHandSide c.name, line := c.line.toNat }
  else .ok ⟨c.name, c.line.toNat, c.coefficients, relation, rhs⟩

end Constraint.Open

/-! ## Models -/

/-- A linear program. -/
structure Model where
  objectives : List Objective := []
  constraints : List Constraint := []
  /-- The variables in the order of first mention. -/
  vars : List Variable := []
deriving DecidableEq

namespace Model

/-- The model without objectives, constraints and variables. -/
def empty : Model := {}

/-- The variables of a kind. -/
def variablesOfKind (m : Model) (kind : Variable.Kind) : List Variable :=
  m.vars.filter (·.kind = kind)

/-- The variable of a name. -/
def variableNamed? (m : Model) (name : Text) : Option Variable := m.vars.find? (·.name = name)

/-- The member of a list at a position; negative positions count from the end. -/
def atPosition? {α : Type} (members : List α) (position : Int) : Option α :=
  let fromFront := if position < 0 then position + members.length else position
  if fromFront < 0 then none else members[fromFront.toNat]?

/-- A count as text. -/
def count (n : Nat) : String := String.ofList (Decimal.digits n)

/-- The sizes of the model, and one line for each objective. -/
def summary (m : Model) : String :=
  let kinds := Variable.Kind.all.map fun kind =>
    s!"{kind.label}={count (m.variablesOfKind kind).length}"
  let objectives := m.objectives.map fun o =>
    s!"  {o.direction.label} {Cause.verbatim o.name} ({count o.coefficients.length} terms)"
  let sizes :=
    [ s!"Objectives: {count m.objectives.length}",
      s!"Constraints: {count m.constraints.length}",
      s!"Variables: {count m.vars.length} " ++ ", ".intercalate kinds ]
  "\n".intercalate (sizes ++ objectives)

end Model

end LinearProgram

/-
  Payload — models and faults as structured values for other programs.

  Bounds and right-hand sides may be infinite and are then given by the words `inf` and `-inf`.
-/

import LinearProgram.Json
import LinearProgram.Model

namespace LinearProgram

namespace Payload

/-- A bound or a right-hand side. -/
def quantity (x : Float) : Json :=
  if x.isInf then .text (if x > 0.0 then "inf".toList else "-inf".toList) else .number x

/-- Coefficients by the names of their variables. -/
def coefficients (cs : Coefficients) : Json :=
  .object (cs.map fun (name, x) => (name, .number x))

/-- A word of the library as a structured value. -/
def word (s : String) : Json := .text s.toList

/-- A member of an object. -/
def member (name : String) (value : Json) : Text × Json := (name.toList, value)

end Payload

open Payload

/-- An objective as a structured value. -/
def Objective.payload (o : Objective) : Json :=
  .object
    [ member "name" (.text o.name),
      member "sense" (word o.direction.label),
      member "coefficients" (Payload.coefficients o.coefficients) ]

/-- A constraint as a structured value. -/
def Constraint.payload (c : Constraint) : Json :=
  .object
    [ member "name" (.text c.name),
      member "line_number" (.integer c.line),
      member "coefficients" (Payload.coefficients c.coefficients),
      member "sense" (word c.relation.symbol),
      member "rhs" (quantity c.rhs) ]

/-- A variable as a structured value. -/
def Variable.payload (v : Variable) : Json :=
  .object
    [ member "name" (.text v.name),
      member "kind" (word v.kind.label),
      member "lower_bound" (quantity v.lower),
      member "upper_bound" (quantity v.upper) ]

/-- The members of a model's structured value. -/
def Model.payload (m : Model) : List (Text × Json) :=
  [ member "objectives" (.array (m.objectives.map Objective.payload)),
    member "constraints" (.array (m.constraints.map Constraint.payload)),
    member "variables" (.array (m.vars.map Variable.payload)),
    member "summary" (word m.summary) ]

/-- A fault as a structured value. -/
def Fault.payload (f : Fault) : Json :=
  .object
    [ member "line_number" (.integer f.line),
      member "section" (match f.within with
        | some s => word s.label
        | none => .null),
      member "kind" (word f.cause.kind.label),
      member "message" (word f.cause.message) ]

end LinearProgram

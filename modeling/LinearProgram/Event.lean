/-
  Event — the single steps of reading a document, as its log tells them.

  Events are what a step says about itself beside its result; no result depends on them.
-/

import LinearProgram.Bound
import LinearProgram.ConstraintLine
import LinearProgram.Direction
import LinearProgram.Expression.Term
import LinearProgram.Log

namespace LinearProgram

/-- A step of reading. -/
inductive Event where
  /-- A variable is mentioned for the first time. -/
  | registered (name : Text)
  | foundTerm (term : Term)
  | foundRelation (relation : Relation)
  | lowerBound
  | upperBound
  | fixedBound
  | freeVariable (name : Text)
  | switched (target : Section)
  | lineRead (number : Nat) (line : Text)
  | foundDirection (direction : Direction)
  | objectiveNamed (name : Text)
  | constraintNamed (name : Text)
  | constraintFinished (name : Text)
deriving DecidableEq

namespace Event

/-- What the log says. -/
def message : Event → String
  | registered name => s!"Registering variable {Cause.verbatim name}."
  | foundTerm term => s!"Found {Cause.number term.value} {Cause.verbatim term.name}"
  | foundRelation relation => s!"Found constraint sense: {relation.symbol}"
  | lowerBound => "Parsing one-sided lower bound."
  | upperBound => "Parsing one-sided upper bound."
  | fixedBound => "Parsing equality bound."
  | freeVariable name => s!"Parsing free variable {Cause.verbatim name}."
  | switched target => s!"Switching to section {target.title}."
  | lineRead number line =>
    s!"Parsing line {Cause.verbatim (Decimal.digits number)}: {Cause.verbatim line}"
  | foundDirection direction => s!"Found {direction.label} direction."
  | objectiveNamed name => s!"Found objective name: {Cause.verbatim name}."
  | constraintNamed name => s!"Found constraint name: {Cause.verbatim name}."
  | constraintFinished name => s!"Finished constraint {Cause.verbatim name}."

/-- The channel that the event is told on; `document` is the one of the document at hand. -/
def channel (document : String) : Event → String
  | registered _ | foundTerm _ | foundRelation _ => Log.expressionChannel
  | lowerBound | upperBound | fixedBound | freeVariable _ => Log.boundChannel
  | _ => document

/-- The event as a record. -/
def record (document : String) (e : Event) : Log.Record :=
  ⟨e.channel document, .debug, e.message⟩

/-- The events of terms that are read while `table` holds the variables mentioned so far. -/
def ofTerms (table : Table) : List Term → List Event
  | [] => []
  | term :: terms =>
    if table.has term.name then foundTerm term :: ofTerms table terms
    else registered term.name :: foundTerm term :: ofTerms (table.register term.name) terms

/-- The events of classifying a constraint line. -/
def ofConstraintLine (line : Text) : List Event :=
  match ConstraintLine.relation? line with
  | some relation => [foundRelation relation]
  | none => []

/-- The events of reading a bound, up to the look-up of its variable. -/
def ofBound (table : Table) (line : Text) : List Event :=
  match Bound.form table line with
  | .error _ => []
  | .ok (.fixed _ _) => [fixedBound]
  | .ok (.free name) => [freeVariable name]
  | .ok (.below _ _) => [lowerBound]
  | .ok (.above _ _) => [upperBound]
  | .ok (.between _ _ _) => []

end Event

end LinearProgram

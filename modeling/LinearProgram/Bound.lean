/-
  Bound — one line of the bounds section, and what it does to one variable.

  1. **Forms** — `x = v`, `x free`, `v <= x`, `x <= v` and `l <= x <= u`, and the same with `>=`
     read from right to left. Which side of a single `<=` holds the variable is decided by the
     names that are registered, not by the look of the two sides.

  2. **Changes** — a form whose variable is registered and whose values are quantities changes the
     lower bound, the upper bound or both. A line that fails changes nothing.
-/

import LinearProgram.Variable

namespace LinearProgram

/-- A line of the bounds section by its shape; names and values are still texts. -/
inductive Bound.Form where
  | fixed (name value : Text)
  | free (name : Text)
  | below (value name : Text)
  | above (name value : Text)
  | between (lower name upper : Text)
deriving DecidableEq, Repr

/-- What a bound does to the column of its variable. -/
inductive Bound.Change where
  | lower (x : Float)
  | upper (x : Float)
  | both (lower upper : Float)
deriving DecidableEq

/-- A change of one variable's bounds. -/
structure Bound where
  name : Text
  change : Bound.Change
deriving DecidableEq

namespace Bound

/-! ## Forms -/

/-- The pieces of a line around its operators, smallest side first. -/
def segments (line : Text) : Except Cause (List Text) :=
  if Text.hasPair '>' '=' line then
    if Text.hasPair '<' '=' line then .error (.mixedBound line)
    else .ok ((Text.splitAtPair '>' '=' line).reverse.map Text.trim)
  else .ok ((Text.splitAtPair '<' '=' line).map Text.trim)

/-- The form of a line without `<=` and `>=`. -/
def equalityOrFree (line : Text) : Except Cause Form :=
  match Text.splitAt '=' line with
  | name :: value :: _ => .ok (.fixed name.trim value)
  | _ =>
    match line.words with
    | [name, word] =>
      if word.lower = "free".toList then .ok (.free name) else .error (.notFree line)
    | _ => .error (.notFree line)

/-- The form of a line; `table` tells on which side of a single `<=` the variable stands. -/
def form (table : Table) (line : Text) : Except Cause Form :=
  match segments line with
  | .error cause => .error cause
  | .ok [_] => equalityOrFree line
  | .ok [first, second] =>
    if table.has first then
      if table.has second then .error (.boundBetweenVariables line) else .ok (.above first second)
    else .ok (.below first second)
  | .ok [lower, name, upper] => .ok (.between lower name upper)
  | .ok _ => .error (.unknownBoundFormat line)

/-- The variable that a form is about. -/
def Form.name : Form → Text
  | .fixed name _ => name
  | .free name => name
  | .below _ name => name
  | .above name _ => name
  | .between _ name _ => name

/-! ## Changes -/

/-- The change that a form stands for, its values read from left to right. -/
def Form.change : Form → Except Cause Change
  | .fixed _ value => (Quantity.read value).map fun x => .both x x
  | .free _ => .ok (.both (-Quantity.infinity) Quantity.infinity)
  | .below value _ => (Quantity.read value).map .lower
  | .above _ value => (Quantity.read value).map .upper
  | .between lower _ upper =>
    match Quantity.read lower with
    | .error cause => .error cause
    | .ok l => (Quantity.read upper).map (.both l)

/-- What a form does: its variable must be registered, then its values must be quantities. -/
def ofForm (table : Table) (form : Form) : Except Cause Bound :=
  if table.has form.name then form.change.map (⟨form.name, ·⟩)
  else .error (.unknownVariable form.name)

/-- Reads a line of the bounds section. -/
def read (table : Table) (line : Text) : Except Cause Bound :=
  match form table line with
  | .error cause => .error cause
  | .ok f => ofForm table f

/-- The column behind a change. -/
def Change.apply : Change → Column → Column
  | .lower x, c => { c with lower := x }
  | .upper x, c => { c with upper := x }
  | .both l u, c => { c with lower := l, upper := u }

/-- The table behind a bound. -/
def apply (b : Bound) (table : Table) : Table := table.update b.name b.change.apply

@[simp] theorem Change.name_apply (change : Change) (c : Column) :
    (change.apply c).name = c.name := by
  cases change <;> rfl

@[simp] theorem Change.kind_apply (change : Change) (c : Column) :
    (change.apply c).kind = c.kind := by
  cases change <;> rfl

/-- **A bound keeps the names and their order.** -/
theorem names_apply (b : Bound) (table : Table) : (b.apply table).names = table.names :=
  Table.names_update table b.name (Change.name_apply b.change)

end Bound

end LinearProgram

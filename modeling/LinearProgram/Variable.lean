/-
  Variable — what a document says about its variables.

  1. **Columns** — a `Column` is a variable while the document is being read: its bounds and its
     kind, as far as they were given. A variable starts out continuous and not negative.

  2. **Tables** — the columns in the order in which the variables were first mentioned. A name is
     registered at most once, and only a registered name can be declared further.

  3. **Variables** — a column whose document is complete becomes a `Variable`, with the bounds of a
     binary variable cut down to the interval from 0 to 1. Its name must not be blank and its lower
     bound must not exceed its upper bound.
-/

import LinearProgram.Quantity

namespace LinearProgram

/-- The values that a variable may take between its bounds. -/
inductive Variable.Kind where
  | continuous
  | integer
  | binary
deriving DecidableEq, Repr

/-- The kind's name in reports. -/
def Variable.Kind.label : Variable.Kind → String
  | continuous => "continuous"
  | integer => "integer"
  | binary => "binary"

/-- The kinds in the order of reports. -/
def Variable.Kind.all : List Variable.Kind := [.continuous, .integer, .binary]

/-- A variable of a finished model. -/
structure Variable where
  name : Text
  lower : Float
  upper : Float
  kind : Variable.Kind
deriving DecidableEq

/-! ## Columns -/

/-- A variable while its document is being read. -/
structure Column where
  name : Text
  lower : Float := 0.0
  upper : Float := Quantity.infinity
  kind : Variable.Kind := .continuous
deriving DecidableEq

namespace Column

/-- The larger of a bound and zero; a bound that does not compare stays. -/
def raisedToZero (x : Float) : Float := if 0.0 > x then 0.0 else x

/-- The smaller of a bound and one; a bound that does not compare stays. -/
def loweredToOne (x : Float) : Float := if 1.0 < x then 1.0 else x

/-- The lower bound that the finished variable has. -/
def finalLower (c : Column) : Float :=
  if c.kind = .binary then raisedToZero c.lower else c.lower

/-- The upper bound that the finished variable has. -/
def finalUpper (c : Column) : Float :=
  if c.kind = .binary then loweredToOne c.upper else c.upper

/-- The finished variable, unless its name is blank or its bounds are inverted. -/
def finish (c : Column) : Except Cause Variable :=
  if c.name.isBlankOnly then .error (.blankName .variable)
  else if c.finalLower > c.finalUpper then
    .error (.invertedBounds c.name c.finalLower c.finalUpper)
  else .ok ⟨c.name, c.finalLower, c.finalUpper, c.kind⟩

end Column

/-! ## Tables -/

/-- The variables mentioned so far, in the order of first mention. -/
abbrev Table := List Column

namespace Table

/-- The registered names, in order. -/
def names (table : Table) : List Text := table.map Column.name

/-- Is the name registered? -/
def has (table : Table) (name : Text) : Bool := table.any (·.name == name)

/-- Registers a name that is not yet registered. -/
def register (table : Table) (name : Text) : Table :=
  if table.has name then table else table ++ [{ name := name }]

/-- Registers names, in order. -/
def registerAll (table : Table) (names : List Text) : Table := names.foldl register table

/-- Changes the column of a name, and no other. -/
def update (table : Table) (name : Text) (change : Column → Column) : Table :=
  table.map fun column => if column.name = name then change column else column

theorem has_iff (table : Table) (name : Text) : table.has name = true ↔ name ∈ table.names := by
  simp [has, names]

theorem names_register (table : Table) (name : Text) :
    (table.register name).names =
      if name ∈ table.names then table.names else table.names ++ [name] := by
  unfold register
  by_cases h : table.has name = true
  · rw [if_pos h, if_pos ((has_iff table name).mp h)]
  · rw [if_neg h, if_neg fun hm => h ((has_iff table name).mpr hm)]
    simp [names]

/-- **Registering only appends.** -/
theorem register_suffix (table : Table) (name : Text) : table <+: table.register name := by
  unfold register
  split
  · exact List.prefix_rfl
  · exact List.prefix_append table _

theorem registerAll_suffix (table : Table) (names : List Text) :
    table <+: table.registerAll names := by
  induction names generalizing table with
  | nil => exact List.prefix_rfl
  | cons name names ih => exact (register_suffix table name).trans (ih (table.register name))

/-- A change that keeps the name keeps all names and their order. -/
theorem names_update (table : Table) (name : Text) {change : Column → Column}
    (h : ∀ c, (change c).name = c.name) : (table.update name change).names = table.names := by
  simp only [update, names, List.map_map]
  apply List.map_congr_left
  intro c _
  by_cases hc : c.name = name <;> simp [hc, h]

end Table

end LinearProgram

/-
  Effect — what a line of the bounds section does to the columns.

  1. **Writes** — which bounds a line is about: a line with two sides is about one of them, namely
     the upper one if its first side is the variable and the lower one otherwise; every other line
     is about both.

  2. **Columns** — a bound changes the column of its variable only. There it puts what the line says
     into each bound that the line is about, and leaves everything else (`Column.Rebound`).

  3. **Lines** — a line that is read has this effect on the table; a line that is not read has none,
     although both values of `l <= x <= u` must be read (`Declarations.bound_atomic`).
-/

import LinearProgram.Proofs.Bound
import LinearProgram.Proofs.Document.WellFormed
import Mathlib.Data.List.Forall2

namespace LinearProgram

/-! ## Writes -/

namespace Bound

/-- A line is about the lower bound of a variable, about its upper bound, or about both. -/
inductive Writes (names : List Text) (line : Text) : (x : Text) → (low high : Bool) → Prop where
  /-- Behind a first side that is no registered name stands a variable, and its lower bound is
      meant. -/
  | lower {value x : Text} (h : Sides line [value, x]) (hvalue : value ∉ names) :
      Writes names line x true false
  /-- A first side that is a registered name is the variable, and its upper bound is meant. -/
  | upper {x value : Text} (h : Sides line [x, value]) (hx : x ∈ names) :
      Writes names line x false true
  /-- A line that has not two sides is about both bounds. -/
  | both {x : Text} (h : ∀ first second, ¬ Sides line [first, second]) :
      Writes names line x true true

/-- The lower bound that a change writes. -/
def Change.lower? : Change → Option Float
  | .lower x => some x
  | .upper _ => none
  | .both l _ => some l

/-- The upper bound that a change writes. -/
def Change.upper? : Change → Option Float
  | .lower _ => none
  | .upper x => some x
  | .both _ u => some u

variable {names : List Text} {line : Text} {b : Bound}

/-- **What a line says is about the bounds that the line is about.** -/
theorem Says.writes (h : Says names line b) :
    Writes names line b.name b.change.lower?.isSome b.change.upper?.isSome := by
  have hboth : ∀ {pieces : List Text} {x : Text}, Sides line pieces → pieces.length ≠ 2 →
      Writes names line x true true := fun hpieces hlength =>
    .both fun _ _ hsides => hlength (congrArg List.length (hpieces.unique hsides))
  cases h with
  | @upper x value v h hx hvalue hv => exact .upper h hx
  | @lower x value v h hx hvalue hv => exact .lower h hvalue
  | @between low x high l u h hx hl hu => exact hboth h (by simp)
  | @fixed whole left value rest v h hline hx hv => exact hboth h (by simp)
  | @free whole x word h hline hwords hfree hx => exact hboth h (by simp)

end Bound

/-! ## Columns -/

/-- What becomes of a column where these bounds of the variable `x` are written. -/
structure Column.Rebound (x : Text) (lower? upper? : Option Float) (c c' : Column) : Prop where
  other : c.name ≠ x → c' = c
  name : c'.name = c.name
  kind : c'.kind = c.kind
  lower : c.name = x → c'.lower = lower?.getD c.lower
  upper : c.name = x → c'.upper = upper?.getD c.upper

namespace Bound

/-- A change writes its bounds into a column. -/
theorem Change.rebound (change : Change) (c : Column) :
    Column.Rebound c.name change.lower? change.upper? c (change.apply c) where
  other hne := absurd rfl hne
  name := change.name_apply c
  kind := change.kind_apply c
  lower _ := by cases change <;> rfl
  upper _ := by cases change <;> rfl

/-- **A bound writes into the column of its variable**, and into no other. -/
theorem rebound_apply (b : Bound) (table : Table) :
    List.Forall₂ (Column.Rebound b.name b.change.lower? b.change.upper?) table
      (b.apply table) := by
  refine List.forall₂_map_right_iff.mpr (List.forall₂_same.mpr fun c _ => ?_)
  split
  · next hname =>
    rw [← hname]
    exact b.change.rebound c
  · next hname =>
    exact ⟨fun _ => rfl, rfl, rfl, fun hc => absurd hc hname, fun hc => absurd hc hname⟩

/-- What a sound change writes are numbers. -/
theorem Change.Sound.isNaN_written {change : Change} (h : change.Sound) {v : Float}
    (hv : change.lower? = some v ∨ change.upper? = some v) : v.isNaN = false := by
  cases change with
  | lower x =>
    rcases hv with hv | hv <;> cases hv
    exact h
  | upper x =>
    rcases hv with hv | hv <;> cases hv
    exact h
  | both l u =>
    rcases hv with hv | hv <;> cases hv
    · exact h.1
    · exact h.2

end Bound

/-! ## Lines -/

namespace Declarations

/-- **A line of the bounds section acts on one variable, or not at all.** Where it is read, it says
    a change of a registered variable: the bounds that the line is about are written, with numbers;
    the other bound, if there is one, the kind and all other columns stay, and so do the names and
    their order. Where it is refused the draft stays as it is. -/
theorem bound_atomic (number : Nat) (text : Text) (d : Draft) :
    (bound number text d).verdict.Leads
      (fun d' => ∃ x ∈ d.table.names, ∃ change, Bound.Says d.table.names text ⟨x, change⟩ ∧
        Bound.Writes d.table.names text x change.lower?.isSome change.upper?.isSome ∧
        (∀ v, change.lower? = some v ∨ change.upper? = some v → v.isNaN = false) ∧
        List.Forall₂ (Column.Rebound x change.lower? change.upper?) d.table d'.table ∧
        d'.table.names = d.table.names ∧ d' = { d with table := d'.table })
      (fun _ _ => False)
      (fun d' fault => d' = d ∧ ∃ cause, Bound.read d.table text = .error cause ∧
        fault = { cause, line := number }) := by
  unfold bound
  cases hread : Bound.read d.table text with
  | error cause => exact ⟨rfl, cause, rfl, rfl⟩
  | ok b =>
    have hsays := Bound.read_eq_ok_iff.mp hread
    have hsound := Bound.sound_of_read hread
    exact ⟨b.name, hsays.name_mem, b.change, hsays, hsays.writes, fun v => hsound.isNaN_written,
      Bound.rebound_apply b d.table, b.names_apply d.table, rfl⟩

end Declarations

end LinearProgram

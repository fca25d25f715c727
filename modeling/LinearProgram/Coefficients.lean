/-
  Coefficients — the factors of the variables in an objective or a constraint.

  Each variable has one coefficient; mentioning it again adds to it. The order is that of the first
  mention, and a variable stays even when its coefficient has become zero.
-/

import LinearProgram.Text.Basic

namespace LinearProgram

/-- Variables and their coefficients, in the order of first mention. -/
abbrev Coefficients := List (Text × Float)

/-- A signed coefficient and its variable, as one addend of an expression says. -/
structure Term where
  value : Float
  name : Text
deriving DecidableEq

namespace Coefficients

/-- The variables, in order. -/
def names (cs : Coefficients) : List Text := cs.map Prod.fst

/-- A variable's coefficient; zero for one that is not mentioned. -/
def get (cs : Coefficients) (name : Text) : Float := (cs.lookup name).getD 0.0

/-- Adds to a variable's coefficient, which starts from zero. -/
def add : Coefficients → Text → Float → Coefficients
  | [], name, x => [(name, 0.0 + x)]
  | (n, y) :: rest, name, x =>
    if n = name then (n, y + x) :: rest else (n, y) :: add rest name x

/-- Adds the coefficients of another list, one variable after the other. -/
def merge (cs other : Coefficients) : Coefficients :=
  other.foldl (fun cs (name, x) => cs.add name x) cs

/-- The sums of the terms, variable by variable. -/
def ofTerms (terms : List Term) : Coefficients :=
  terms.foldl (fun cs term => cs.add term.name term.value) []

theorem names_add (cs : Coefficients) (name : Text) (x : Float) :
    (cs.add name x).names = if name ∈ cs.names then cs.names else cs.names ++ [name] := by
  induction cs with
  | nil => simp [add, names]
  | cons entry rest ih =>
    obtain ⟨n, y⟩ := entry
    by_cases h : n = name
    · simp [add, names, h]
    · have hne : ¬ name = n := fun h' => h h'.symm
      have ih' : List.map Prod.fst (add rest name x) =
          if name ∈ List.map Prod.fst rest then List.map Prod.fst rest
          else List.map Prod.fst rest ++ [name] := ih
      simp only [add, names, if_neg h, List.map_cons, List.mem_cons, hne, false_or, ih']
      split <;> simp

/-- Adding to one variable leaves the others as they are. -/
theorem get_add_of_ne {cs : Coefficients} {name other : Text} (x : Float) (h : other ≠ name) :
    (cs.add name x).get other = cs.get other := by
  induction cs with
  | nil =>
    have hb : (other == name) = false := by simpa using h
    simp [add, get, List.lookup_cons, hb]
  | cons entry rest ih =>
    obtain ⟨n, y⟩ := entry
    by_cases hn : n = name
    · subst hn
      have hb : (other == n) = false := by simpa using h
      simp [add, get, List.lookup_cons, hb]
    · by_cases ho : other = n
      · subst ho
        simp [add, get, hn]
      · have hb : (other == n) = false := by simpa using ho
        simpa [add, get, hn, List.lookup_cons, hb] using ih

/-- What is added to a variable is added to its coefficient. -/
theorem get_add_self {cs : Coefficients} {name : Text} (x : Float) :
    (cs.add name x).get name = cs.get name + x := by
  induction cs with
  | nil => simp [add, get]
  | cons entry rest ih =>
    obtain ⟨n, y⟩ := entry
    by_cases hn : n = name
    · subst hn
      simp [add, get]
    · have hb : (name == n) = false := by simpa using fun h : name = n => hn h.symm
      simpa [add, get, hn, List.lookup_cons, hb] using ih

end Coefficients

end LinearProgram

/-
  Relation — how the two sides of a constraint compare, and the operators that say so.
-/

import LinearProgram.Text.Basic

namespace LinearProgram

/-- The relation between a constraint's left-hand side and its right-hand side. -/
inductive Relation where
  | le
  | eq
  | ge
deriving DecidableEq, Repr

namespace Relation

/-- The relation's sign in reports. -/
def symbol : Relation → String
  | le => "<="
  | eq => "="
  | ge => ">="

/-- The relation that an operator stands for. There are seven operators; other combinations of
    relational characters stand for nothing. -/
def ofOperator? : Text → Option Relation
  | ['<', '='] => some le
  | ['=', '<'] => some le
  | ['<'] => some le
  | ['='] => some eq
  | ['>', '='] => some ge
  | ['=', '>'] => some ge
  | ['>'] => some ge
  | _ => none

/-- The characters that operators are made of. -/
def isRelational (c : Char) : Bool := c == '<' || c == '=' || c == '>'

/-- Does the line hold a relational character? -/
def occursIn (line : Text) : Bool := line.any isRelational

/-- The first operator of a line: its first relational character, and the next one if that is
    relational too. -/
def firstOperator? (line : Text) : Option Text :=
  match line.dropWhile (! isRelational ·) with
  | [] => none
  | [c] => some [c]
  | c :: d :: _ => if isRelational d then some [c, d] else some [c]

/-- The pieces of a line between the occurrences of an operator. -/
def piecesAround (operator line : Text) : List Text :=
  match operator with
  | [c] => Text.splitAt c line
  | [c, d] => Text.splitAtPair c d line
  | _ => [line]

theorem firstOperator?_eq_none_iff (line : Text) :
    firstOperator? line = none ↔ occursIn line = false := by
  induction line with
  | nil => simp [firstOperator?, occursIn]
  | cons c rest ih =>
    by_cases h : isRelational c = true
    · constructor
      · intro hn
        simp only [firstOperator?, List.dropWhile_cons, h] at hn
        cases rest with
        | nil => simp at hn
        | cons d _ => by_cases hd : isRelational d = true <;> simp [hd] at hn
      · intro hn
        simp [occursIn, h] at hn
    · simp only [Bool.not_eq_true] at h
      simpa [firstOperator?, occursIn, List.dropWhile_cons, h] using ih

end Relation

end LinearProgram

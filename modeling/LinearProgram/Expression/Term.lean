/-
  Term — an expression read as a list of signed terms.

  Reading goes from left to right and stops at the first thing that is wrong, so that the terms in
  front of it are known: `terms` gives those terms, together with the cause if there is one.

  A sign counts for the addend behind it; of several signs in a row the last one counts. Every
  addend but the first needs a sign.
-/

import LinearProgram.Coefficients
import LinearProgram.Expression.Token

namespace LinearProgram.Expression

/-- The terms that the tokens stand for, up to the first cause; `sign` is the sign that waits for
    the next addend. -/
def termsFrom : (sign : Option Sign) → List Token → List Term × Option Cause
  | _, [] => ([], none)
  | _, .sign s :: tokens => termsFrom (some s) tokens
  | none, .addend t :: _ => ([], some (.missingSign t))
  | some s, .addend t :: tokens =>
    match Addend.read t with
    | .error cause => ([], some cause)
    | .ok (x, name) =>
      let (terms, cause?) := termsFrom none tokens
      (⟨s.apply x, name⟩ :: terms, cause?)

/-- The terms of an expression up to the first cause. -/
def terms (t : Text) : List Term × Option Cause := termsFrom (some .plus) (Token.ofExpression t)

/-- Reads an expression as the coefficients of its variables. -/
def read (t : Text) : Except Cause Coefficients :=
  match terms t with
  | (ts, none) => .ok (.ofTerms ts)
  | (_, some cause) => .error cause

end LinearProgram.Expression

/-
  Token — an expression cut into signs and addends.

  1. **Signs** separate addends, except directly behind the exponent mark of a number and in front
     of a digit, as in `2.5e-1 y`.

  2. **Words** between two signs are addends of their own, except that a bare number belongs to the
     word behind it: `2 y z` is `2 y` and `z`. Addends may thus follow each other without a sign;
     whether they may is not decided here.
-/

import LinearProgram.Expression.Addend

namespace LinearProgram

/-- A piece of an expression. -/
inductive Token where
  | sign (s : Sign)
  | addend (t : Text)
deriving DecidableEq, Repr

namespace Token

/-- The token as it is written. -/
def text : Token → Text
  | sign s => [s.toChar]
  | addend t => t

/-- The addends among the words between two signs; `number` is a bare number that waits for the
    word behind it. -/
def addendsFrom : (number : Option Text) → List Text → List Text
  | none, [] => []
  | some n, [] => [n]
  | some n, w :: ws => (n ++ ' ' :: w) :: addendsFrom none ws
  | none, w :: ws =>
    if Addend.isNumeric w then addendsFrom (some w) ws else w :: addendsFrom none ws

/-- The addends in a stretch without signs. -/
def addends (stretch : Text) : List Token := (addendsFrom none stretch.words).map addend

/-- Is the text an exponent mark and nothing else? -/
def isMarkAlone : Text → Bool
  | [m] => Addend.isMark m
  | _ => false

/-- Is the text, blanks in front apart, a number up to and including its exponent mark: decimal
    digits with at most one point behind or among them, or a point and decimal digits? -/
def endsInMark (stretch : Text) : Bool :=
  let number := stretch.trimStart
  match number.takeWhile Text.isDecimal, number.dropWhile Text.isDecimal with
  | [], '.' :: rest =>
    ! (rest.takeWhile Text.isDecimal).isEmpty && isMarkAlone (rest.dropWhile Text.isDecimal)
  | [], _ => false
  | _ :: _, '.' :: rest => isMarkAlone (rest.dropWhile Text.isDecimal)
  | _ :: _, rest => isMarkAlone rest

/-- Does the text begin with a digit? -/
def beginsWithDigit : Text → Bool
  | [] => false
  | c :: _ => Text.isDigitLike c

/-- The tokens of an expression of which `stretch` was read since the last sign. -/
def ofExpressionFrom (stretch : Text) : Text → List Token
  | [] => addends stretch
  | c :: rest =>
    match Sign.ofChar? c with
    | none => ofExpressionFrom (stretch ++ [c]) rest
    | some s =>
      if endsInMark stretch && beginsWithDigit rest then ofExpressionFrom (stretch ++ [c]) rest
      else addends stretch ++ sign s :: ofExpressionFrom [] rest

/-- The tokens of an expression. -/
def ofExpression (t : Text) : List Token := ofExpressionFrom [] t

example : ofExpression "2.5e-1 y- z".toList =
    [.addend "2.5e-1 y".toList, .sign .minus, .addend "z".toList] := by decide

example : ofExpression "2 y z 3".toList =
    [.addend "2 y".toList, .addend "z".toList, .addend "3".toList] := by decide

end Token

end LinearProgram

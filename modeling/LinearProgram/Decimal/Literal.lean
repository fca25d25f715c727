/-
  Literal — numbers written in decimal notation, and the binary64 number each one stands for.

  1. **Notation** — an optional sign, digits with at most one point among or around them, and an
     optional exponent: a mark `e` or `E`, an optional sign, digits. The digits may be those of any
     script, and a single underscore may stand between two digits.

  2. **Meaning** — `Literal.value` is the binary64 number nearest to `± digits · 10 ^ exponent`,
     ties going to the even significand; what is too large becomes an infinity.

  `Integer.read?` reads whole numbers with the same digits and the same underscores.
-/

import LinearProgram.Text.Digit

namespace LinearProgram.Decimal

/-! ## Digits -/

/-- The longest run of digits at the start, each as its value, and what follows it. An underscore
    belongs to the run if a digit stands on either side of it. -/
def digitRun : Text → List Nat × Text
  | [] => ([], [])
  | c :: rest =>
    match Text.decimalValue? c with
    | none => ([], c :: rest)
    | some d =>
      match rest with
      | '_' :: c' :: rest' =>
        if Text.isDecimal c' then
          let (ds, tail) := digitRun (c' :: rest')
          (d :: ds, tail)
        else ([d], '_' :: c' :: rest')
      | rest =>
        let (ds, tail) := digitRun rest
        (d :: ds, tail)

/-- The number that a list of digits, most significant first, stands for. -/
def ofDigits (ds : List Nat) : Nat := ds.foldl (fun n d => 10 * n + d) 0

/-- Is the text's first character a minus sign? And the text without its sign. -/
def readSign : Text → Bool × Text
  | '+' :: rest => (false, rest)
  | '-' :: rest => (true, rest)
  | t => (false, t)

/-! ## Literals -/

/-- The number `± significand · 10 ^ exponent`. -/
structure Literal where
  negative : Bool
  significand : Nat
  exponent : Int
deriving DecidableEq, Repr

/-- The exponent part at the end of a literal; an empty text is the exponent zero. -/
def readExponent? : Text → Option Int
  | [] => some 0
  | c :: rest =>
    if c = 'e' ∨ c = 'E' then
      match readSign rest with
      | (negative, digits) =>
        match digitRun digits with
        | ([], _) => none
        | (_, _ :: _) => none
        | (ds, []) => some (if negative then -(ofDigits ds : Int) else ofDigits ds)
    else none

/-- The fraction's digits behind a point, if there is a point, and what follows. -/
def readFraction : Text → List Nat × Text
  | '.' :: rest => digitRun rest
  | t => ([], t)

/-- Reads a whole text, without surrounding blanks, as a literal. -/
def Literal.read? (t : Text) : Option Literal :=
  let (negative, t) := readSign t
  let (whole, t) := digitRun t
  let (fraction, t) := readFraction t
  if whole = [] ∧ fraction = [] then none
  else (readExponent? t).map fun exponent =>
    { negative
      significand := ofDigits (whole ++ fraction)
      exponent := exponent - fraction.length }

/-- The nearest binary64 number to the literal without its sign. No number from `10 ^ 309` on is
    finite, and below `10 ^ -324` the nearest one is zero; there the power of ten need not be
    computed. A significand has no more decimal digits than binary ones. -/
def Literal.magnitude (l : Literal) : Float :=
  if l.significand = 0 then 0.0
  else if 309 < l.exponent then Float.ofBits 0x7FF0000000000000
  else if l.exponent + l.significand.log2 + 1 < -324 then 0.0
  else Float.ofScientific l.significand (l.exponent < 0) l.exponent.natAbs

/-- The nearest binary64 number. -/
def Literal.value (l : Literal) : Float :=
  if l.negative then -l.magnitude else l.magnitude

example : Literal.read? "1_000.25e-3".toList = some ⟨false, 100025, -5⟩ := by decide

example : Literal.read? "-.5".toList = some ⟨true, 5, -1⟩ := by decide

example : Literal.read? "1__0".toList = none ∧ Literal.read? ".e1".toList = none := by decide

end LinearProgram.Decimal

/-! ## Whole numbers -/

namespace LinearProgram.Decimal.Integer

/-- A blank that may stand around a number; the information separators may not. -/
def isMargin (c : Char) : Bool := Text.isBlank c && ! (28 ≤ c.toNat && c.toNat ≤ 31)

/-- The text without its margins. -/
def withoutMargins (t : Text) : Text :=
  ((t.dropWhile isMargin).reverse.dropWhile isMargin).reverse

/-- Reads a text as a whole number with margins; no number has more than `longest` digits. -/
def read? (longest : Nat) (t : Text) : Option Int :=
  let (negative, digits) := readSign (withoutMargins t)
  match digitRun digits with
  | ([], _) => none
  | (_, _ :: _) => none
  | (ds, []) =>
    if longest < ds.length then none
    else some (if negative then -(ofDigits ds : Int) else ofDigits ds)

end LinearProgram.Decimal.Integer

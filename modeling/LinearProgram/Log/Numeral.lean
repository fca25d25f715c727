/-
  Numeral — a whole number as a field of a line sets it out.

  1. **Fit** — a text is fitted into a place of some width, on the left or on the right of it. A
     precision cuts a text short, and says how many digits a number shows.

  2. **Digits** — a number is rounded to some significant digits, to the even one of two that are
     equally near.

  3. **Numerals** — a number stands to the base ten, eight or sixteen, with digits behind a point,
     with a power of ten, with whichever of these two is shorter, or as the character of that
     number. In front of the digits there may be a sign and the mark of the base; zeros fill the
     place behind them.
-/

import LinearProgram.Decimal.Digits

namespace LinearProgram.Log

/-! ## Fit -/

/-- How the text of a field is fitted into its place. -/
structure Fit where
  leftAligned : Bool := false
  zeroFilled : Bool := false
  /-- Is a number's base marked, and is its point kept? -/
  marked : Bool := false
  /-- What stands in front of a number. -/
  sign : Text := []
  width : Nat := 0
  precision : Option Nat := none
deriving DecidableEq, Repr

/-- A text filled up to the width with blanks. -/
def Fit.fill (fit : Fit) (t : Text) : Text :=
  let blanks := List.replicate (fit.width - t.length) ' '
  if fit.leftAligned then t ++ blanks else blanks ++ t

/-- A text cut down to the precision. -/
def Fit.cut (fit : Fit) (t : Text) : Text :=
  match fit.precision with
  | some n => t.take n
  | none => t

/-- A number's digits with what stands in front of them, filled up to the width. -/
def Fit.fillNumber (fit : Fit) (mark digits : Text) : Text :=
  let front := fit.sign ++ mark
  if fit.zeroFilled && ! fit.leftAligned then
    front ++ List.replicate (fit.width - front.length - digits.length) '0' ++ digits
  else fit.fill (front ++ digits)

/-! ## Digits -/

/-- The whole number nearest to a quotient; of two the even one. -/
def nearest (n d : Nat) : Nat :=
  let low := n / d
  let doubled := 2 * (n % d)
  if doubled < d then low
  else if d < doubled then low + 1
  else if low % 2 = 0 then low else low + 1

/-- The first significant digit of a number and `places` more, rounded, and the power of ten of the
    first one. -/
def significant (places n : Nat) : Text × Nat :=
  let digits := Decimal.digits n
  if digits.length ≤ places + 1 then
    (digits ++ List.replicate (places + 1 - digits.length) '0', digits.length - 1)
  else
    let rounded := Decimal.digits (nearest n (Nat.pow 10 (digits.length - (places + 1))))
    (rounded.take (places + 1), digits.length - 1 + (rounded.length - (places + 1)))

example : significant 1 1999 = ("20".toList, 3) ∧ significant 0 25 = ("2".toList, 1) := by decide

example : significant 1 9999 = ("10".toList, 4) ∧ significant 2 7 = ("700".toList, 0) := by decide

/-! ## Numerals -/

/-- How a number is set out. -/
inductive Numeral where
  | decimal
  | octal
  | hexadecimal (large : Bool)
  /-- With digits behind the point. -/
  | fixed
  /-- With a power of ten. -/
  | scientific (large : Bool)
  /-- With a power of ten if there are not digits enough without it. -/
  | general (large : Bool)
  | character
deriving DecidableEq, Repr

/-- How many digits stand behind the point if nothing is said of it. -/
def standardPrecision : Nat := 6

/-- Digits in front of the point and behind it; without digits behind it the point goes, unless it
    is kept. -/
def pointed (fit : Fit) (whole fraction : Text) : Text :=
  if fraction.isEmpty && ! fit.marked then whole else whole ++ '.' :: fraction

/-- The power of ten behind a number. -/
def power (large : Bool) (exponent : Nat) : Text :=
  (if large then 'E' else 'e') :: '+' :: Decimal.paddedDigits 2 exponent

/-- The digits without the zeros they end with. -/
def withoutFinalZeros (digits : Text) : Text := (digits.reverse.dropWhile (· = '0')).reverse

/-- Digits, filled up with zeros in front to the precision. -/
def Fit.lengthen (fit : Fit) (digits : Text) : Text :=
  List.replicate (fit.precision.getD 0 - digits.length) '0' ++ digits

/-- The mark of a base, if bases are marked. -/
def Fit.mark (fit : Fit) (letter : Char) : Text := if fit.marked then ['0', letter] else []

/-- A number with a power of ten behind it. -/
def scientific (fit : Fit) (large : Bool) (n : Nat) : Text :=
  match significant (fit.precision.getD standardPrecision) n with
  | (digits, exponent) => pointed fit (digits.take 1) (digits.drop 1) ++ power large exponent

/-- A number in as many significant digits as the precision says, at least one; final zeros go
    behind the point, unless the point is kept. -/
def general (fit : Fit) (large : Bool) (n : Nat) : Text :=
  let count := max 1 (fit.precision.getD standardPrecision)
  match significant (count - 1) n with
  | (digits, exponent) =>
    let shown (whole : Nat) : Text :=
      let fraction := digits.drop whole
      pointed fit (digits.take whole) (if fit.marked then fraction else withoutFinalZeros fraction)
    if exponent < count then shown (exponent + 1) else shown 1 ++ power large exponent

/-- A number in its place. -/
def Numeral.render (fit : Fit) (n : Nat) : Numeral → Text
  | decimal => fit.fillNumber [] (fit.lengthen (Decimal.digits n))
  | octal => fit.fillNumber (fit.mark 'o') (fit.lengthen (Nat.toDigits 8 n))
  | hexadecimal false => fit.fillNumber (fit.mark 'x') (fit.lengthen (Nat.toDigits 16 n))
  | hexadecimal true =>
    fit.fillNumber (fit.mark 'X') (fit.lengthen ((Nat.toDigits 16 n).map Char.toUpper))
  | fixed =>
    let fraction := List.replicate (fit.precision.getD standardPrecision) '0'
    fit.fillNumber [] (pointed fit (Decimal.digits n) fraction)
  | Numeral.scientific large => fit.fillNumber [] (Log.scientific fit large n)
  | Numeral.general large => fit.fillNumber [] (Log.general fit large n)
  | character => fit.fill [Char.ofNat n]

example : Numeral.render { zeroFilled := true, width := 8, precision := some 3 } 20 .fixed
    = "0020.000".toList := by decide

example : Numeral.render { marked := true, sign := ['+'] } 20 .octal = "+0o24".toList := by decide

example : Numeral.render { precision := some 1 } 20 (.general false) = "2e+01".toList := by decide

end LinearProgram.Log

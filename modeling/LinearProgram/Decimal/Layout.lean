/-
  Layout — how the digits of a binary64 number are set out on the page.

  A layout says which exponents are written out in positional notation, how many digits an
  exponent has at least, and what stands for the numbers without digits. A positional number
  always shows a point with a digit on either side of it.
-/

import LinearProgram.Decimal.Shortest

namespace LinearProgram.Decimal

/-- The decisions of an output format about binary64 numbers. -/
structure Layout where
  /-- Numbers from `10 ^ leastPositional` on are positional, -/
  leastPositional : Int
  /-- and those from `10 ^ firstScientific` on are not. -/
  firstScientific : Int
  exponentWidth : Nat
  infinity : Text
  notANumber : Text

/-- Positional notation. -/
def positional (d : Shortest) : Text :=
  if d.point ≤ 0 then '0' :: '.' :: (List.replicate (-d.point).toNat '0' ++ d.digits)
  else
    let whole := d.point.toNat
    if d.digits.length ≤ whole then
      d.digits ++ List.replicate (whole - d.digits.length) '0' ++ ['.', '0']
    else d.digits.take whole ++ '.' :: d.digits.drop whole

/-- Scientific notation: one digit before the point, no point if no digit follows. -/
def scientific (exponentWidth : Nat) (d : Shortest) : Text :=
  let exponent := d.point - 1
  let sign := if exponent < 0 then '-' else '+'
  let fraction := match d.digits.drop 1 with
    | [] => []
    | ds => '.' :: ds
  d.digits.take 1 ++ fraction ++ 'e' :: sign :: paddedDigits exponentWidth exponent.natAbs

/-- A number without its sign. -/
def Layout.unsigned (layout : Layout) (x : Float) : Text :=
  let v := Magnitude.ofFloat x
  if v.significand = 0 then ['0', '.', '0']
  else
    let d := v.shortest
    if layout.leastPositional < d.point && d.point ≤ layout.firstScientific then positional d
    else scientific layout.exponentWidth d

/-- A binary64 number as the layout sets it out. -/
def Layout.render (layout : Layout) (x : Float) : Text :=
  if x.isNaN then layout.notANumber
  else
    let magnitude := if x.isInf then layout.infinity else layout.unsigned x
    if isNegative x then '-' :: magnitude else magnitude

/-- Numbers in messages, logs and summaries: positional from `0.0001` up to sixteen digits before
    the point. -/
def plainLayout : Layout where
  leastPositional := -4
  firstScientific := 16
  exponentWidth := 2
  infinity := ['i', 'n', 'f']
  notANumber := ['n', 'a', 'n']

/-- A number as it stands in messages and logs. -/
def plain (x : Float) : Text := plainLayout.render x

example : plain 0.0001 = "0.0001".toList := by decide +kernel

example : plain (-1e-5) = "-1e-05".toList := by decide +kernel

example : plain 1e16 = "1e+16".toList := by decide +kernel

example : plain 1234567890123456.0 = "1234567890123456.0".toList := by decide +kernel

end LinearProgram.Decimal

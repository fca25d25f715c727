/-
  Shortest — the fewest decimal digits that still name a binary64 number.

  1. **Decoding** — a finite number other than zero is `significand · 2 ^ exponent` with whole
     `significand` and `exponent`. A decimal reads back as it exactly if it lies in the rounding
     interval around it: up to half a step above, and half a step below, where the step below a
     power of two is half as long. The ends belong to the interval if the significand is even.

  2. **Search** — for one digit, two digits, and so on up to seventeen, the two points of that
     decimal grid next to the number are tried. The first grid with a point inside the interval
     gives the digits; of two points inside, the nearer one, and of two equally near the even one.

  All comparisons are between whole numbers.
-/

import LinearProgram.Decimal.Digits

namespace LinearProgram.Decimal

/-! ## Decoding -/

/-- The magnitude `significand · 2 ^ exponent` of a finite binary64 number. -/
structure Magnitude where
  significand : Nat
  exponent : Int
deriving DecidableEq, Repr

/-- The bit above the fraction field of a binary64 number; a significand that is not subnormal has
    it, though it is not stored. -/
def hiddenBit : Nat := 0x10000000000000

/-- The bit above the exponent field of a binary64 number, which is the sign. -/
def signBit : Nat := 0x8000000000000000

/-- The exponent field of a binary64 number: the eleven bits below the sign. -/
def exponentField (x : Float) : Nat := x.toBits.toNat % signBit / hiddenBit

/-- The fraction field of a binary64 number: its lowest 52 bits. -/
def fractionField (x : Float) : Nat := x.toBits.toNat % hiddenBit

/-- Is the sign bit set? -/
def isNegative (x : Float) : Bool := signBit ≤ x.toBits.toNat

/-- The magnitude of a finite binary64 number. -/
def Magnitude.ofFloat (x : Float) : Magnitude :=
  if exponentField x = 0 then ⟨fractionField x, -1074⟩
  else ⟨hiddenBit + fractionField x, (exponentField x : Int) - 1075⟩

/-- Is the next smaller number only half a step away? -/
def Magnitude.isLowerClose (v : Magnitude) : Bool :=
  v.significand == hiddenBit && v.exponent > -1074

/-! ## The rounding interval -/

/-- Quarters of the unit `2 ^ exponent`, and the points `c · 10 ^ e` of a decimal grid, brought to
    whole numbers: `c · gridFactor` against `quarters · unitFactor`. -/
structure Scale where
  gridFactor : Nat
  unitFactor : Nat

/-- The scale that compares points of the grid `10 ^ e` with quarters of the unit `2 ^ q`. -/
def Scale.between (e q : Int) : Scale where
  gridFactor := Nat.pow 10 e.toNat * Nat.pow 2 (2 - q).toNat
  unitFactor := Nat.pow 2 (q - 2).toNat * Nat.pow 10 (-e).toNat

/-- Does `c · 10 ^ e` round to the magnitude? -/
def Magnitude.roundsFrom (v : Magnitude) (s : Scale) (c : Nat) : Bool :=
  let point := c * s.gridFactor
  let low := (4 * v.significand - if v.isLowerClose then 1 else 2) * s.unitFactor
  let high := (4 * v.significand + 2) * s.unitFactor
  if v.significand % 2 = 0 then low ≤ point && point ≤ high else low < point && point < high

/-- The point of the grid `10 ^ e` that names the magnitude, if there is one. -/
def Magnitude.onGrid? (v : Magnitude) (e : Int) : Option Nat :=
  let s := Scale.between e v.exponent
  let exact := 4 * v.significand * s.unitFactor
  let c := exact / s.gridFactor
  match v.roundsFrom s c, v.roundsFrom s (c + 1) with
  | false, false => none
  | true, false => some c
  | false, true => some (c + 1)
  | true, true =>
    if 2 * exact < (2 * c + 1) * s.gridFactor then some c
    else if (2 * c + 1) * s.gridFactor < 2 * exact then some (c + 1)
    else some (c + c % 2)

/-! ## The search -/

/-- How many digits stand before the point; for a number below one, minus the count of zeros that
    follow the point. The binary exponent gives the decimal one up to one place, as
    `log₁₀ 2 ≈ 0.30103`; a comparison with the power of ten in question decides. -/
def Magnitude.pointPosition (v : Magnitude) : Int :=
  let binary : Int := v.significand.log2 + v.exponent
  let place := Int.fdiv (binary * 30103) 100000 + 1
  let s := Scale.between place v.exponent
  if s.gridFactor ≤ 4 * v.significand * s.unitFactor then place + 1 else place

/-- Digits before which a point is thought: `0.digits · 10 ^ point`. -/
structure Shortest where
  digits : Text
  point : Int
deriving DecidableEq, Repr

/-- The digits without the zeros at their end. -/
def dropTrailingZeros (ds : Text) : Text := (ds.reverse.dropWhile (· = '0')).reverse

/-- Tries the grids of `count` digits and more; `left` bounds how many more. -/
def Magnitude.shortestFrom (v : Magnitude) (point : Int) : (left count : Nat) → Shortest
  | 0, _ => ⟨digits v.significand, point⟩
  | left + 1, count =>
    match v.onGrid? (point - count) with
    | some c =>
      let ds := digits c
      ⟨dropTrailingZeros ds, point + ((ds.length : Int) - count)⟩
    | none => v.shortestFrom point left (count + 1)

/-- The fewest digits that name a magnitude other than zero. -/
def Magnitude.shortest (v : Magnitude) : Shortest := v.shortestFrom v.pointPosition 17 1

example : (Magnitude.ofFloat 0.1).shortest = ⟨['1'], 0⟩ := by decide +kernel

example : (Magnitude.ofFloat 1234.5).shortest = ⟨['1', '2', '3', '4', '5'], 4⟩ := by decide +kernel

end LinearProgram.Decimal

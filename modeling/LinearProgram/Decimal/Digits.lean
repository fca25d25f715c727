/-
  Digits — whole numbers in decimal notation.

  A number has one notation without leading zeros, so different numbers have different digits
  (`digits_injective`).
-/

import LinearProgram.Text.Basic

namespace LinearProgram.Decimal

/-- The digits of a number, most significant first; zero has the one digit `0`. -/
def digits (n : Nat) : Text := Nat.toDigits 10 n

/-- The digits of a number, filled up with zeros in front to a width. -/
def paddedDigits (width n : Nat) : Text :=
  List.replicate (width - (digits n).length) '0' ++ digits n

/-- A whole number, a minus sign in front of it if it is negative. -/
def integer (z : Int) : Text :=
  if z < 0 then '-' :: digits z.natAbs else digits z.natAbs

theorem digits_ne_nil (n : Nat) : digits n ≠ [] := Nat.toDigits_ne_nil

/-- **Different numbers have different digits.** -/
theorem digits_injective {m n : Nat} (h : digits m = digits n) : m = n := by
  have hm := Nat.ofDigitChars_ten_toDigits (n := m)
  have hn := Nat.ofDigitChars_ten_toDigits (n := n)
  rw [← hm, ← hn]
  exact congrArg (Nat.ofDigitChars 10 · 0) h

end LinearProgram.Decimal

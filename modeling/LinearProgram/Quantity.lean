/-
  Quantity — the numbers of a document: coefficients, bounds and right-hand sides.

  A quantity is a decimal literal that a finite binary64 number is nearest to, or one of the
  spellings of infinity, in any case, with or without a sign. Nothing else is a quantity; in
  particular no literal stands for an infinity and no text for the missing number.
-/

import LinearProgram.Fault
import LinearProgram.Decimal.Literal
import LinearProgram.Text.Case

namespace LinearProgram.Quantity

/-- The binary64 infinity. -/
def infinity : Float := Float.ofBits 0x7FF0000000000000

/-- Spellings of plus infinity, in lower case. -/
def positiveInfinities : List Text :=
  ["inf".toList, "+inf".toList, "infinity".toList, "+infinity".toList]

/-- Spellings of minus infinity, in lower case. -/
def negativeInfinities : List Text :=
  ["-inf".toList, "-infinity".toList]

/-- The infinity that a text spells. -/
def infinity? (t : Text) : Option Float :=
  let word := t.lower
  if positiveInfinities.contains word then some infinity
  else if negativeInfinities.contains word then some (-infinity)
  else none

/-- The finite number that a text is the literal of. -/
def finite? (t : Text) : Option Float :=
  (Decimal.Literal.read? t).bind fun l => if l.value.isFinite then some l.value else none

/-- Reads a text as a quantity; blanks around it do not matter. -/
def read (t : Text) : Except Cause Float :=
  match infinity? t.trim with
  | some x => .ok x
  | none =>
    match finite? t.trim with
    | some x => .ok x
    | none => .error (.invalidNumber t.trim)

/-- A text that is no quantity has one cause. -/
theorem eq_invalidNumber_of_read {t : Text} {cause : Cause} (h : read t = .error cause) :
    cause = .invalidNumber t.trim := by
  unfold read at h
  split at h
  · cases h
  · split at h
    · cases h
    · simpa using h.symm

end LinearProgram.Quantity

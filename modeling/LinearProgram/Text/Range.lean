/-
  Range — sets of characters given by the ranges of their numbers.
-/

import LinearProgram.Text.Basic

namespace LinearProgram.Text

/-- A set of characters: the first and the last number of each range. -/
abbrev Ranges := List (Nat × Nat)

/-- Does the character lie in one of the ranges? -/
def Ranges.has (ranges : Ranges) (c : Char) : Bool :=
  ranges.any fun (first, last) => first ≤ c.toNat && c.toNat ≤ last

theorem Ranges.has_iff (ranges : Ranges) (c : Char) :
    ranges.has c = true ↔ ∃ r ∈ ranges, r.1 ≤ c.toNat ∧ c.toNat ≤ r.2 := by
  simp [Ranges.has]

end LinearProgram.Text

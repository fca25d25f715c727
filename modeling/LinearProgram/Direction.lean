/-
  Direction — whether the objectives are maximised or minimised, and the words that say so.
-/

import LinearProgram.Text.Case

namespace LinearProgram

/-- The optimisation direction of a document; all its objectives share it. -/
inductive Direction where
  | maximize
  | minimize
deriving DecidableEq, Repr

namespace Direction

/-- The direction's name in reports. -/
def label : Direction → String
  | maximize => "MAX"
  | minimize => "MIN"

/-- The spellings of a direction, in lower case. -/
def spellings : Direction → List Text
  | maximize => ["max".toList, "maximize".toList, "maximise".toList, "maximum".toList]
  | minimize => ["min".toList, "minimize".toList, "minimise".toList, "minimum".toList]

/-- The direction that a word names, in any case. -/
def ofWord? (word : Text) : Option Direction :=
  let lowered := word.lower
  [maximize, minimize].find? fun direction => direction.spellings.contains lowered

end Direction

end LinearProgram

/-
  Keyword — the lines that switch from one section to the next.

  Case does not matter, nor how many blanks stand around and between the words.
-/

import LinearProgram.Section
import LinearProgram.Text.Case

namespace LinearProgram.Keyword

/-- A line as keywords are compared: lower case, single spaces between the words. -/
def normal (line : Text) : Text := Text.join [' '] line.lower.words

/-- The spellings that open the constraints section. -/
def constraintsSpellings : List Text :=
  ["subject to".toList, "such that".toList, "s.t.".toList, "st.".toList, "st".toList]

/-- The spellings of the keywords that may follow the objectives or the constraints. -/
def sectionSpellings : List (Text × Section) :=
  [ ("bounds".toList, .bounds), ("bound".toList, .bounds),
    ("binary".toList, .binary), ("binaries".toList, .binary), ("bin".toList, .binary),
    ("generals".toList, .general), ("general".toList, .general), ("gen".toList, .general),
    ("end".toList, .finish) ]

/-- Does the line open the constraints section? -/
def opensConstraints (line : Text) : Bool := constraintsSpellings.contains (normal line)

/-- The section that the line opens, the constraints section apart. -/
def section? (line : Text) : Option Section := sectionSpellings.lookup (normal line)

/-- A section keyword never leads back to the start, the objectives or the constraints. -/
theorem mem_of_section? {line : Text} {s : Section} (h : section? line = some s) :
    s ∈ [Section.bounds, .binary, .general, .finish] := by
  have hmem : ∀ (table : List (Text × Section)) (key : Text),
      table.lookup key = some s → s ∈ table.map Prod.snd := by
    intro table key hs
    induction table with
    | nil => simp at hs
    | cons entry table ih =>
      obtain ⟨k, v⟩ := entry
      simp only [List.lookup_cons] at hs
      split at hs
      · simp only [Option.some.injEq] at hs
        simp [hs]
      · simp [ih hs]
  have := hmem sectionSpellings (normal line) h
  simp only [sectionSpellings, List.map_cons, List.map_nil, List.mem_cons, List.not_mem_nil,
    or_false] at this
  rcases this with rfl | rfl | rfl | rfl | rfl | rfl | rfl | rfl | rfl <;> simp

end LinearProgram.Keyword

/-
  Name — how variables, objectives and constraints may be called.

  A name is one or more characters out of the ASCII letters, the ASCII digits, the point and
  eighteen punctuation marks; its first character is neither a digit nor the point.
-/

import LinearProgram.Fault

namespace LinearProgram.Name

/-- The punctuation marks that a name may hold. -/
def marks : Text :=
  ['!', '"', '#', '$', '%', '&', '(', ')', '/', ',', ';', '?', '\'', '{', '}', '|', '~', '_']

/-- An ASCII letter. -/
def isLetter (c : Char) : Bool :=
  (0x41 ≤ c.toNat && c.toNat ≤ 0x5A) || (0x61 ≤ c.toNat && c.toNat ≤ 0x7A)

/-- May a name start with the character? -/
def isInitial (c : Char) : Bool := isLetter c || marks.contains c

/-- May the character stand in a name behind the first one? -/
def isInner (c : Char) : Bool := isInitial c || (0x30 ≤ c.toNat && c.toNat ≤ 0x39) || c == '.'

/-- Is the whole text a name? -/
def isName : Text → Bool
  | [] => false
  | c :: rest => isInitial c && rest.all isInner

/-- Reads a text as a name; blanks around it do not belong to it. -/
def read (t : Text) : Except Cause Text :=
  if isName t.trim then .ok t.trim else .error (.invalidName t.trim)

theorem read_eq_ok_iff (t name : Text) :
    read t = .ok name ↔ name = t.trim ∧ isName name = true := by
  unfold read
  constructor
  · intro h
    split at h
    · next hn =>
      cases h
      exact ⟨rfl, hn⟩
    · cases h
  · rintro ⟨rfl, hn⟩
    simp [hn]

theorem read_eq_error_iff (t : Text) (cause : Cause) :
    read t = .error cause ↔ cause = .invalidName t.trim ∧ isName t.trim = false := by
  unfold read
  constructor
  · intro h
    split at h
    · cases h
    · next hn =>
      cases h
      exact ⟨rfl, by simpa using hn⟩
  · rintro ⟨rfl, hn⟩
    simp [hn]

/-- An ASCII letter, digit or mark starts below number 128. -/
theorem toNat_lt_of_isInner {c : Char} (h : isInner c = true) : c.toNat < 0x80 := by
  simp only [isInner, isInitial, isLetter, marks, Bool.or_eq_true, Bool.and_eq_true,
    decide_eq_true_eq, beq_iff_eq, List.contains_eq_mem, List.mem_cons, List.not_mem_nil,
    or_false] at h
  rcases h with ((h | h) | h) | rfl
  · omega
  · rcases h with rfl | rfl | rfl | rfl | rfl | rfl | rfl | rfl | rfl | rfl | rfl | rfl | rfl
      | rfl | rfl | rfl | rfl | rfl <;> decide
  · omega
  · decide

end LinearProgram.Name

/-
  Addend — an optional coefficient and a variable name, as in `3 x`, `2.5e-1 y` or `z`.

  1. **The cut** — `numericSplit?` finds where the coefficient ends and the name begins, by the
     characters alone: digits and points belong to the coefficient, and so does one exponent mark
     behind a digit, with the sign that may follow it, provided that a digit comes next.

  2. **Reading** — the coefficient is read as a quantity, 1 if there is none; the rest is read as
     a name.
-/

import LinearProgram.Name
import LinearProgram.Quantity

namespace LinearProgram

/-! ## Signs -/

/-- The two signs that separate addends. -/
inductive Sign where
  | plus
  | minus
deriving DecidableEq, Repr

namespace Sign

/-- The sign that a character is. -/
def ofChar? (c : Char) : Option Sign :=
  if c = '+' then some plus else if c = '-' then some minus else none

/-- The sign as a character. -/
def toChar : Sign → Char
  | plus => '+'
  | minus => '-'

/-- The number with the sign in front of it. -/
def apply : Sign → Float → Float
  | plus, x => x
  | minus, x => -x

theorem ofChar?_toChar (s : Sign) : ofChar? s.toChar = some s := by
  cases s <;> rfl

end Sign

namespace Addend

/-! ## The cut -/

/-- The exponent marks. -/
def isMark (c : Char) : Bool := c == 'e' || c == 'E'

/-- Do the characters behind an exponent mark make it one: a digit, or a sign and a digit? -/
def exponentFollows : Text → Bool
  | [] => false
  | [c] => Text.isDigitLike c
  | c :: d :: _ => Text.isDigitLike c || ((Sign.ofChar? c).isSome && Text.isDigitLike d)

/-- How far the scan for the end of a coefficient has come. -/
inductive Scan where
  /-- No digit yet. -/
  | opening
  /-- Behind a digit, no exponent mark yet. -/
  | digits
  /-- Directly behind the exponent mark. -/
  | mark
  /-- In the exponent. -/
  | exponent
deriving DecidableEq, Repr

/-- The scan's state behind one more character of the coefficient; `none` where `c`, with `rest`
    behind it, begins the name. -/
def Scan.step (state : Scan) (c : Char) (rest : Text) : Option Scan :=
  if Text.isDigitLike c then
    match state with
    | opening | digits => some digits
    | mark | exponent => some exponent
  else if c = '.' then
    match state with
    | mark => some exponent
    | state => some state
  else if isMark c && state == digits && exponentFollows rest then some mark
  else if (Sign.ofChar? c).isSome && state == mark then some exponent
  else none

/-- The coefficient's characters and the characters from the name on, the scan being in `state`;
    `none` if no name begins before the end. -/
def splitFrom (state : Scan) : Text → Option (Text × Text)
  | [] => none
  | c :: rest =>
    match state.step c rest with
    | some next => (splitFrom next rest).map fun (front, back) => (c :: front, back)
    | none => some ([], c :: rest)

/-- Cuts a text where a coefficient ends and a name begins; `none` if the text is a mere number. -/
def numericSplit? (t : Text) : Option (Text × Text) := splitFrom .opening t

/-- Is the text made of coefficient characters only? -/
def isNumeric (t : Text) : Bool := (numericSplit? t).isNone

theorem append_of_splitFrom {state : Scan} {t front back : Text}
    (h : splitFrom state t = some (front, back)) : front ++ back = t := by
  induction t generalizing state front with
  | nil => cases h
  | cons c rest ih =>
    unfold splitFrom at h
    split at h
    · obtain ⟨⟨front', back'⟩, hs, heq⟩ := Option.map_eq_some_iff.mp h
      simp only [Prod.mk.injEq] at heq
      obtain ⟨rfl, rfl⟩ := heq
      simp [ih hs]
    · simp only [Option.some.injEq, Prod.mk.injEq] at h
      obtain ⟨rfl, rfl⟩ := h
      rfl

/-- **The cut loses nothing.** -/
theorem append_of_numericSplit? {t front back : Text}
    (h : numericSplit? t = some (front, back)) : front ++ back = t :=
  append_of_splitFrom h

/-! ## Reading -/

/-- Reads an addend: its coefficient and its name. -/
def read (t : Text) : Except Cause (Float × Text) :=
  match numericSplit? t with
  | none => .error (.noVariable t)
  | some ([], name) =>
    match Name.read name with
    | .error cause => .error cause
    | .ok name => .ok (1.0, name)
  | some (coefficient, name) =>
    match Quantity.read coefficient with
    | .error cause => .error cause
    | .ok x =>
      match Name.read name with
      | .error cause => .error cause
      | .ok name => .ok (x, name)

end Addend

end LinearProgram

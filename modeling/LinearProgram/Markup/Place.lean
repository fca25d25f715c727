/-
  Place — where the reading of a configuration has come to.

  1. **Characters** — a line feed, a next line, a line separator and a paragraph separator break
     lines. Spaces, tabulators and line breaks are gaps between words.

  2. **Places** — a place knows what is left of the text, and its line and column. The byte order
     mark takes no column.

  3. **Gaps** — between words lines may end. One line break is then a space; of several the first
     one goes if it is a line feed.
-/

import LinearProgram.Text.Basic

namespace LinearProgram.Markup

/-! ## Characters -/

/-- Does the character break lines? -/
def isBreak (c : Char) : Bool :=
  c == '\n' || c == '\u0085' || c == '\u2028' || c == '\u2029'

/-- Is the character a space or a tabulator? -/
def isSpace (c : Char) : Bool := c == ' ' || c == '\t'

/-- Does the character stand between words? -/
def isGap (c : Char) : Bool := isSpace c || isBreak c

/-- Does a text start with a gap, or is nothing left of it? -/
def atGap : Text → Bool
  | [] => true
  | c :: _ => isGap c

/-- Does a text start with a line break, or is nothing left of it? -/
def atBreak : Text → Bool
  | [] => true
  | c :: _ => isBreak c

/-- What a line break is as a part of a value: a next line is a line feed. -/
def breakValue (c : Char) : Char := if c = '\u0085' then '\n' else c

/-! ## Places -/

/-- Where the reading has come to. -/
structure Place where
  rest : Text
  index : Nat := 0
  line : Nat := 0
  column : Nat := 0
deriving DecidableEq, Repr

namespace Place

/-- The place behind the next character. -/
def next (p : Place) : Place :=
  match p.rest with
  | [] => p
  | c :: rest =>
    if isBreak c then ⟨rest, p.index + 1, p.line + 1, 0⟩
    else ⟨rest, p.index + 1, p.line, if c = '\uFEFF' then p.column else p.column + 1⟩

/-- The place behind the next `n` characters. -/
def skip : Nat → Place → Place
  | 0, p => p
  | n + 1, p => skip n p.next

/-- The characters up to the first one that fails a test, and the place behind them. -/
def span (test : Char → Bool) (p : Place) : Text × Place :=
  let t := p.rest.takeWhile test
  (t, p.skip t.length)

theorem rest_next (p : Place) : p.next.rest = p.rest.drop 1 := by
  cases h : p.rest with
  | nil => simp [next, h]
  | cons c rest =>
    simp only [next, h]
    split <;> rfl

theorem rest_skip (n : Nat) (p : Place) : (p.skip n).rest = p.rest.drop n := by
  induction n generalizing p with
  | zero => rfl
  | succ n ih => simp [skip, ih, rest_next]

/-- **What was spanned and what is left are the text.** -/
theorem span_append (test : Char → Bool) (p : Place) :
    (p.span test).1 ++ (p.span test).2.rest = p.rest := by
  have h := List.takeWhile_append_dropWhile (p := test) (l := p.rest)
  have hdrop := @List.drop_left _ (p.rest.takeWhile test) (p.rest.dropWhile test)
  rw [h] at hdrop
  simp only [span, rest_skip, hdrop, h]

/-- Does a mark of three equal characters stand here, at the start of a line and with a gap behind
    it? -/
def atMark (mark : Char) (p : Place) : Bool :=
  p.column == 0 && p.rest.take 3 == [mark, mark, mark] && atGap (p.rest.drop 3)

/-- Does a mark between documents stand here? -/
def betweenDocuments (p : Place) : Bool := p.atMark '-' || p.atMark '.'

/-- The place behind the line, if nothing but spaces and a comment is left of it. -/
def behindLine? (p : Place) : Option Place :=
  let p := (p.span (· = ' ')).2
  let p := if p.rest.head? = some '#' then (p.span (! isBreak ·)).2 else p
  if atBreak p.rest then some p.next else none

end Place

/-! ## Gaps -/

/-- What stands between two words. -/
structure Gap where
  /-- The spaces in front of the first line break. -/
  spaces : Text := []
  /-- The line breaks. -/
  breaks : Text := []
  /-- The place behind them. -/
  behind : Place
  /-- Does the document end here? -/
  final : Bool := false
deriving DecidableEq, Repr

/-- The line breaks at the start of a text, with spaces among them that do not count, and the place
    behind. The text is what is left at the place. -/
def breaksFrom (isSpace : Char → Bool) : Text → Place → Gap
  | [], p => { behind := p }
  | c :: rest, p =>
    if isSpace c then breaksFrom isSpace rest p.next
    else if isBreak c then
      if p.next.betweenDocuments then { breaks := [breakValue c], behind := p.next, final := true }
      else
        let gap := breaksFrom isSpace rest p.next
        { gap with breaks := breakValue c :: gap.breaks }
    else { behind := p }

/-- The gap at a place. -/
def Place.gap (isSpace : Char → Bool) (p : Place) : Gap :=
  let (spaces, p) := p.span isSpace
  { breaksFrom isSpace p.rest p with spaces }

/-- What line breaks come to in a value. -/
def folded : Text → Text
  | ['\n'] => [' ']
  | '\n' :: more => more
  | breaks => breaks

/-- What a gap comes to in a value. -/
def Gap.text (gap : Gap) : Text :=
  if gap.breaks.isEmpty then gap.spaces else folded gap.breaks

example : (Place.gap isSpace ⟨" \n  \n\tx".toList, 0, 0, 0⟩).text = ['\n'] := by decide

example : (Place.gap isSpace ⟨"  x".toList, 0, 0, 0⟩).text = [' ', ' '] := by decide

end LinearProgram.Markup

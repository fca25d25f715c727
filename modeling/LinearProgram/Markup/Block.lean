/-
  Block — scalars that are written as a block of indented lines.

  1. **Head** — behind the mark of a block may stand how its end is treated, and how much deeper than
     its surroundings it is indented. Otherwise its first line that is not empty says so.

  2. **Lines** — a literal block keeps its line breaks. A folded block joins a line to the next one
     by a space, unless one of the two starts with a space or a tabulator.

  3. **End** — the last line break is kept, and the ones behind it go; a head may ask to keep all of
     them or none.
-/

import LinearProgram.Markup.Quoted

namespace LinearProgram.Markup

/-! ## Head -/

/-- How the line breaks at the end of a block are treated. -/
inductive Ending where
  | keepsOne
  | keepsNone
  | keepsAll
deriving DecidableEq, Repr

/-- How the end is treated, if it is said at the start of a text, and what follows. -/
def leadingEnding? : Text → Option Ending × Text
  | '+' :: rest => (some .keepsAll, rest)
  | '-' :: rest => (some .keepsNone, rest)
  | t => (none, t)

/-- The digit at the start of a text, if there is one, and what follows. -/
def leadingDigit? : Text → Option Nat × Text
  | [] => (none, [])
  | c :: rest =>
    match digit? 10 c with
    | some d => (some d, rest)
    | none => (none, c :: rest)

/-- What the head of a block says. -/
structure Head where
  ending : Ending
  depth : Option Nat
deriving DecidableEq, Repr

/-- The head of a block at the start of a text, and what follows. -/
def leadingHead (t : Text) : Head × Text :=
  match leadingEnding? t with
  | (some ending, rest) =>
    match leadingDigit? rest with
    | (depth, rest) => (⟨ending, depth⟩, rest)
  | (none, rest) =>
    match leadingDigit? rest with
    | (none, rest) => (⟨.keepsOne, none⟩, rest)
    | (some depth, rest) =>
      match leadingEnding? rest with
      | (ending, rest) => (⟨ending.getD .keepsOne, some depth⟩, rest)

/-- The head of a block at a place, and the place where its lines begin. -/
def head (p : Place) : Except Defect (Head × Place) :=
  match leadingHead p.rest with
  | (head, rest) =>
    if head.depth = some 0 || rest.head? = some '\t' then .error .token
    else
      let p := p.skip (p.rest.length - rest.length)
      if atGap rest then
        match p.behindLine? with
        | some p => .ok (head, p)
        | none => .error .token
      else .error .token

/-! ## Lines -/

/-- The line breaks from a place on, with spaces among them up to the column `indent`, and the place
    behind. The text is what is left at the place. -/
def blockBreaks (indent : Nat) : Text → Place → Text × Place
  | [], p => ([], p)
  | c :: rest, p =>
    if c = ' ' ∧ p.column < indent then blockBreaks indent rest p.next
    else if isBreak c then
      let (breaks, p) := blockBreaks indent rest p.next
      (breakValue c :: breaks, p)
    else ([], p)

/-- The line breaks from a place on, with spaces among them, the greatest column of these, and the
    place behind. The text is what is left at the place. -/
def leadingBreaks : Text → Place → Text × Nat × Place
  | [], p => ([], 0, p)
  | c :: rest, p =>
    if c = ' ' then
      let (breaks, column, q) := leadingBreaks rest p.next
      (breaks, max column p.next.column, q)
    else if isBreak c then
      let (breaks, column, p) := leadingBreaks rest p.next
      (breakValue c :: breaks, column, p)
    else ([], 0, p)

/-- Does a text start with a space or a tabulator? -/
def startsWithSpace : Text → Bool
  | [] => false
  | c :: _ => isSpace c

/-- What stands between two lines of a block: `first` is the line break, and `breaks` are those of
    the empty lines in between. -/
def joint (folds : Bool) (first breaks : Text) (line next : Text) : Text :=
  if folds && first == ['\n'] && ! startsWithSpace line && ! startsWithSpace next then
    if breaks.isEmpty then [' '] else []
  else first

/-- The lines of a block. -/
structure Lines where
  text : Text := []
  /-- The line break behind the last line, -/
  last : Text := []
  /-- and those of the empty lines behind it. -/
  breaks : Text := []
  behind : Place
deriving DecidableEq, Repr

/-- The lines from a place on, with the line breaks in front of them. -/
def linesFrom (folds : Bool) (indent : Nat) : (fuel : Nat) → (breaks : Text) → Place → Lines
  | 0, breaks, p => { breaks, behind := p }
  | fuel + 1, breaks, p =>
    if p.column ≠ indent ∨ p.rest = [] then { breaks, behind := p }
    else
      let (line, q) := p.span (! isBreak ·)
      let last := (q.rest.take 1).map breakValue
      let (next, q) := blockBreaks indent q.next.rest q.next
      if q.column = indent ∧ q.rest ≠ [] then
        let lines := linesFrom folds indent fuel next q
        { lines with text := breaks ++ line ++ joint folds last next p.rest q.rest ++ lines.text }
      else { text := breaks ++ line, last, breaks := next, behind := q }

/-! ## End -/

/-- The text of a block. -/
def Lines.ended (lines : Lines) : Ending → Text
  | .keepsOne => lines.text ++ lines.last
  | .keepsNone => lines.text
  | .keepsAll => lines.text ++ lines.last ++ lines.breaks

/-- The block at a place, whose lines start at the column `least` or behind it, and the place behind
    it. Each line takes a character. -/
def block (folds : Bool) (least : Nat) (p : Place) : Except Defect (Text × Place) :=
  match head p.next with
  | .error defect => .error defect
  | .ok (head, p) =>
    let least := max 1 least
    let (indent, breaks, p) := match head.depth with
      | some depth => (least + depth - 1, blockBreaks (least + depth - 1) p.rest p)
      | none =>
        let (breaks, column, p) := leadingBreaks p.rest p
        (max least column, breaks, p)
    let lines := linesFrom folds indent p.rest.length breaks p
    .ok (lines.ended head.ending, lines.behind)

example : (block false 1 ⟨"|\n  a\n\n  b\n\nc".toList, 0, 0, 3⟩).toOption.map Prod.fst
    = some "a\n\nb\n".toList := by decide

example : (block true 1 ⟨">-\n  a\n  b\n\n  c\n".toList, 0, 0, 3⟩).toOption.map Prod.fst
    = some "a b\nc".toList := by decide

end LinearProgram.Markup

/-
  Source — the lines of a document, handed out one after the other.

  1. **Content** — of a raw line only the part before the first backslash counts, without the blanks
     around it; the rest is a comment.

  2. **Ending** — behind the last line a source either is finished, or it breaks: the attempt to
     read on fails for a reason outside the document.

  3. **Cursor** — a source and the number of lines that were handed out. `next` hands out one line,
     `feed` hands out lines to a step function until that is done.
-/

import LinearProgram.Event

namespace LinearProgram

/-! ## Content -/

/-- What a raw line says: the part before the comment, without the blanks around it. -/
def Text.content (raw : Text) : Text := (raw.before '\\').trim

/-! ## Sources -/

/-- What lies behind the last line. -/
inductive Source.Ending where
  /-- Nothing. -/
  | finished
  /-- The attempt to read on fails, after saying `grace` times that there is nothing. -/
  | broken (reason : Text) (grace : Nat)
  /-- There is no document at all. -/
  | absent
deriving DecidableEq, Repr

namespace Source.Ending

/-- Why no line comes behind the last one. -/
def cause : Ending → Cause
  | finished => .endOfInput
  | broken reason 0 => .unreadable reason
  | broken _ (_ + 1) => .endOfInput
  | absent => .noDocument

/-- The ending after one attempt to read on. -/
def tried : Ending → Ending
  | broken reason (grace + 1) => broken reason grace
  | ending => ending

end Source.Ending

/-- The raw lines of a document, and what lies behind them. -/
structure Source where
  lines : List Text
  ending : Source.Ending := .finished
deriving DecidableEq

namespace Source

/-- The source of a text held in memory. -/
def ofText (t : Text) : Source where
  lines := t.lines

/-- The source that breaks after a number of successful reads. Finding the end is a successful read
    too. -/
def breakingAfter (source : Source) (reads : Nat) (reason : Text) : Source where
  lines := source.lines.take reads
  ending := .broken reason (reads - source.lines.length)

end Source

/-! ## Cursors -/

/-- A source that is being read, and how many lines were handed out. -/
structure Cursor where
  lines : List Text
  ending : Source.Ending
  number : Nat := 0
deriving DecidableEq

namespace Cursor

/-- The cursor at the start of a source. -/
def ofSource (source : Source) : Cursor where
  lines := source.lines
  ending := source.ending

/-- The cursor where no document was given. -/
def absent : Cursor where
  lines := []
  ending := .absent

/-- Hands out the next line from `lines` on, with `number` lines handed out before. -/
def nextOf (ending : Source.Ending) (skipBlank : Bool) :
    List Text → (number : Nat) → Except Fault Text × Cursor
  | [], number => (.error ⟨ending.cause, number, none⟩, ⟨[], ending.tried, number⟩)
  | raw :: rest, number =>
    if raw.content.isEmpty && skipBlank then nextOf ending skipBlank rest (number + 1)
    else (.ok raw.content, ⟨rest, ending, number + 1⟩)

/-- Hands out the content of the next line, or of the next line with content if blank ones are to
    be skipped. -/
def next (skipBlank : Bool) (c : Cursor) : Except Fault Text × Cursor :=
  nextOf c.ending skipBlank c.lines c.number

/-- What a step function says to a line. -/
inductive Verdict (σ α : Type) where
  /-- Another line, please. -/
  | more (state : σ)
  /-- No more lines are needed. -/
  | done (state : σ) (answer : α)
  /-- Something is wrong; what was reached before stays reached. -/
  | failed (state : σ) (fault : Fault)

/-- A verdict and the events on the way to it. -/
structure Turn (σ α : Type) where
  verdict : Verdict σ α
  events : List Event

/-- What came of handing out lines. -/
structure Fed (σ α : Type) where
  result : Except Fault α
  state : σ
  cursor : Cursor
  events : List Event

variable {σ α : Type}

/-- Hands out lines from `lines` on to a step function, which is told their numbers. -/
def feedOf (ending : Source.Ending) (step : Nat → Text → σ → Turn σ α) :
    List Text → (number : Nat) → σ → Fed σ α
  | [], number, state =>
    ⟨.error ⟨ending.cause, number, none⟩, state, ⟨[], ending.tried, number⟩, []⟩
  | raw :: rest, number, state =>
    match step (number + 1) raw.content state with
    | ⟨.more state, events⟩ =>
      let fed := feedOf ending step rest (number + 1) state
      { fed with events := events ++ fed.events }
    | ⟨.done state answer, events⟩ => ⟨.ok answer, state, ⟨rest, ending, number + 1⟩, events⟩
    | ⟨.failed state fault, events⟩ => ⟨.error fault, state, ⟨rest, ending, number + 1⟩, events⟩

/-- Hands out lines to a step function until it is done or fails, or there are no more. -/
def feed (step : Nat → Text → σ → Turn σ α) (c : Cursor) (state : σ) : Fed σ α :=
  feedOf c.ending step c.lines c.number state

/-- An answer takes at least one line. -/
theorem feedOf_lines_lt {ending : Source.Ending} {step : Nat → Text → σ → Turn σ α}
    {lines : List Text} {number : Nat} {state : σ} {answer : α}
    (h : (feedOf ending step lines number state).result = .ok answer) :
    (feedOf ending step lines number state).cursor.lines.length < lines.length := by
  induction lines generalizing number state with
  | nil => simp [feedOf] at h
  | cons raw rest ih =>
    simp only [feedOf] at h ⊢
    split
    · next state' events hstep =>
      rw [hstep] at h
      exact Nat.lt_succ_of_lt (ih h)
    · simp
    · next state' fault events hstep =>
      rw [hstep] at h
      cases h

theorem feed_lines_lt {step : Nat → Text → σ → Turn σ α} {c : Cursor} {state : σ} {answer : α}
    (h : (c.feed step state).result = .ok answer) :
    (c.feed step state).cursor.lines.length < c.lines.length :=
  feedOf_lines_lt h

end Cursor

end LinearProgram

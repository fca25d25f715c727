/-
  Plain — scalars that are written without quotes.

  1. **Start** — a plain scalar starts with none of the characters that mark something else. A dash,
     and outside brackets a question mark and a colon, may start one if no gap follows.

  2. **Words** — a word goes on to the next gap, to a colon with a gap behind it, and between
     brackets to a comma, a question mark or a bracket.

  3. **Scalars** — a scalar goes on over gaps without tabulators. It ends in front of a comment, of a
     mark between documents, and of a line that is not indented enough.
-/

import LinearProgram.Markup.Place

namespace LinearProgram.Markup

/-! ## Start -/

/-- The characters that mark something and start no plain scalar. -/
def indicators : Text :=
  [ '-', '?', ':', ',', '[', ']', '\x7b', '\x7d', '#', '&', '*', '!', '|', '>', '\'', '"', '%', '@',
    '\x60' ]

/-- Does a plain scalar start here? -/
def startsPlain (inBrackets : Bool) : Text → Bool
  | [] => false
  | c :: rest =>
    (! isGap c && ! indicators.contains c)
      || (! atGap rest && (c == '-' || (! inBrackets && (c == '?' || c == ':'))))

/-! ## Words -/

/-- The characters that end a word between brackets. -/
def bracketStops : Text := [',', '?', '[', ']', '\x7b', '\x7d']

/-- Is a colon in front of this text the end of a key? -/
def endsKey (inBrackets : Bool) : Text → Bool
  | [] => true
  | c :: _ => isGap c || (inBrackets && c != '?' && bracketStops.contains c)

/-- Does a word end in front of this text? -/
def endsWord (inBrackets : Bool) : Text → Bool
  | [] => true
  | c :: rest =>
    isGap c || (c == ':' && endsKey inBrackets rest) || (inBrackets && bracketStops.contains c)

/-- The word at the start of a text. -/
def word (inBrackets : Bool) : Text → Text
  | [] => []
  | c :: rest =>
    if endsWord inBrackets (c :: rest) then [] else c :: word inBrackets rest

/-- A text starts with its word. -/
theorem word_append_drop_word (inBrackets : Bool) (t : Text) :
    word inBrackets t ++ t.drop (word inBrackets t).length = t := by
  induction t with
  | nil => rfl
  | cons c rest ih =>
    by_cases h : endsWord inBrackets (c :: rest) = true
    · simp [word, h]
    · simp [word, h, ih]

/-- **A word goes on as far as it can.** -/
theorem endsWord_drop_word (inBrackets : Bool) (t : Text) :
    endsWord inBrackets (t.drop (word inBrackets t).length) = true := by
  induction t with
  | nil => rfl
  | cons c rest ih =>
    by_cases h : endsWord inBrackets (c :: rest) = true
    · simp [word, h]
    · simp [word, h, ih]

example : word false "http://h:80 x".toList = "http://h:80".toList := by decide

example : word true "a]b".toList = "a".toList ∧ word false "a]b: c".toList = "a]b".toList := by
  decide

/-! ## Scalars -/

/-- Does a scalar end in this gap? Its further lines start at the column `least` or behind it. -/
def endsScalar (inBrackets : Bool) (least : Nat) (gap : Gap) : Bool :=
  gap.final || gap.text.isEmpty || gap.behind.rest.head? == some '#'
    || (! inBrackets && decide (gap.behind.column < least))

/-- The scalar's text from a gap on, the gap first, and the gap that ends the scalar. -/
def plainFrom (inBrackets : Bool) (least : Nat) : (fuel : Nat) → Gap → Text × Gap
  | 0, gap => ([], gap)
  | fuel + 1, gap =>
    match word inBrackets gap.behind.rest with
    | [] => ([], gap)
    | w =>
      let next := (gap.behind.skip w.length).gap (· = ' ')
      if endsScalar inBrackets least next then (gap.text ++ w, next)
      else
        let (more, last) := plainFrom inBrackets least fuel next
        (gap.text ++ w ++ more, last)

/-- The plain scalar at a place, and the gap that ends it. Each word takes a character. -/
def plain (inBrackets : Bool) (least : Nat) (p : Place) : Text × Gap :=
  plainFrom inBrackets least p.rest.length { behind := p }

example : (plain false 1 ⟨"a b # c".toList, 0, 0, 1⟩).1 = "a b".toList := by decide

example : (plain false 1 ⟨"a\n b\nc".toList, 0, 0, 1⟩).1 = "a b".toList := by decide

end LinearProgram.Markup

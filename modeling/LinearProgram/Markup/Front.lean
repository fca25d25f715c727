/-
  Front — a configuration's tokens, found from left to right.

  1. **Candidates** — a key is known as one only by the colon behind it. What could be a key is a
     candidate until the line ends, or too much stands behind it. One that is the first thing at the
     column of its block must be a key. There is at most one candidate for each depth of brackets.

  2. **Fronts** — the front is how far the finding of tokens has come: the place, the tokens so far,
     the depth of brackets, and the columns of the blocks that are open. A block ends in front of
     a line that starts left of its column; between brackets there are no blocks.

  3. **Steps** — each step finds one token, and the starts and ends of blocks in front of it. A colon
     behind a candidate puts the key's token in front of the candidate.

  4. **Tokens** — tokens are found only as they are asked for, and a candidate's token and those
     behind it are not given out before it is settled. So if a step fails, only the tokens in front
     of the first candidate before it were given out.
-/

import LinearProgram.Markup.Block
import LinearProgram.Markup.Plain
import LinearProgram.Markup.Token

namespace LinearProgram.Markup

/-! ## Candidates -/

/-- What could be a key. -/
structure Candidate where
  /-- The depth of brackets around it. -/
  depth : Nat
  /-- The number of tokens in front of it. -/
  number : Nat
  /-- The place where it starts. -/
  place : Place
  /-- Must it be a key? -/
  required : Bool
deriving DecidableEq, Repr

/-- The most characters that a key without a mark of its own has, those of its blanks included. -/
def longestKey : Nat := 1024

/-- Is the candidate no key, because the colon must have come before this place? -/
def Candidate.isStale (p : Place) (c : Candidate) : Bool :=
  c.place.line != p.line || decide (longestKey < p.index - c.place.index)

/-! ## Fronts -/

/-- How far the finding of tokens has come. -/
structure Front where
  place : Place
  tokens : Array Token := #[]
  /-- How many brackets are open. -/
  depth : Nat := 0
  /-- The columns of the blocks that are open, innermost first. -/
  blocks : List Nat := []
  /-- Could the next token be a key? -/
  mayBeKey : Bool := true
  candidates : List Candidate := []
  /-- Was the end of the text found? -/
  finished : Bool := false
deriving DecidableEq, Repr

namespace Front

/-- The tokens that were given out. -/
def given (f : Front) : List Token :=
  f.tokens.toList.take (f.candidates.foldl (fun n c => min n c.number) f.tokens.size)

/-- The front without the candidates that are no keys. -/
def dropStale (f : Front) : Except Defect Front :=
  if f.candidates.any fun c => c.required && c.isStale f.place then .error .token
  else .ok { f with candidates := f.candidates.filter fun c => ! c.isStale f.place }

/-- The candidate at the depth of the front. -/
def candidate? (f : Front) : Option Candidate := f.candidates.find? (·.depth == f.depth)

/-- The front without that candidate. -/
def withoutCandidate (f : Front) : Front :=
  { f with candidates := f.candidates.filter (·.depth != f.depth) }

/-- The front without the candidate at its depth, which must not be required. -/
def withdraw (f : Front) : Except Defect Front :=
  match f.candidate? with
  | some c => if c.required then .error .token else .ok f.withoutCandidate
  | none => .ok f

/-- Makes the next token a candidate if it can be a key. -/
def propose (f : Front) : Except Defect Front :=
  if f.mayBeKey then
    f.withdraw.map fun f =>
      let required := f.depth == 0 && f.blocks.head? == some f.place.column
      { f with candidates := ⟨f.depth, f.tokens.size, f.place, required⟩ :: f.candidates }
  else .ok f

/-- The column behind that of the innermost block. -/
def least (f : Front) : Nat :=
  match f.blocks with
  | [] => 0
  | column :: _ => column + 1

/-- Ends the blocks whose column fails a test, from the innermost one on. -/
def close (goesOn : Nat → Bool) (f : Front) : Front :=
  if f.depth = 0 then
    let closed := f.blocks.takeWhile (! goesOn ·)
    { f with
      blocks := f.blocks.dropWhile (! goesOn ·)
      tokens := f.tokens ++ Array.replicate closed.length .blockEnd }
  else f

/-- Starts a block at a column with a token of the number `number`, if it is right of the innermost
    block. -/
def startBlock (token : Token) (number column : Nat) (f : Front) : Front :=
  if f.depth = 0 ∧ f.least ≤ column then
    { f with
      blocks := column :: f.blocks
      tokens := f.tokens.insertIdxIfInBounds number token }
  else f

/-- Adds a token, with the place behind it. -/
def add (token : Token) (p : Place) (f : Front) : Front :=
  { f with tokens := f.tokens.push token, place := p }

/-! ## Steps -/

/-- How many characters stand in front of the next token: spaces, line breaks and comments. -/
def spaceBefore (inComment : Bool) : Text → Nat
  | [] => 0
  | c :: rest =>
    if isBreak c then spaceBefore false rest + 1
    else if inComment || c == '#' then spaceBefore true rest + 1
    else if c = ' ' then spaceBefore false rest + 1
    else 0

/-- The front at the next token. At the start of a line there may be a key, except between
    brackets. -/
def toToken (f : Front) : Front :=
  let p := f.place.skip (spaceBefore false f.place.rest)
  { f with place := p, mayBeKey := f.mayBeKey || (f.depth == 0 && p.line != f.place.line) }

/-- The end of the text. -/
def finish (f : Front) : Except Defect Front :=
  (f.close fun _ => false).withdraw.map fun f =>
    { f.add .streamEnd f.place with candidates := [], finished := true }

/-- A token that ends all blocks, which `read` reads. -/
def betweenDocuments (read : Place → Except Defect (Token × Place)) (f : Front) :
    Except Defect Front :=
  (f.close fun _ => false).withdraw.bind fun f =>
    (read f.place).map fun (token, p) => { f.add token p with mayBeKey := false }

/-- An opening bracket. -/
def openBracket (token : Token) (f : Front) : Except Defect Front :=
  f.propose.map fun f => { f.add token f.place.next with depth := f.depth + 1, mayBeKey := true }

/-- A closing bracket. -/
def closeBracket (token : Token) (f : Front) : Except Defect Front :=
  f.withdraw.map fun f => { f.add token f.place.next with depth := f.depth - 1, mayBeKey := false }

/-- A comma between brackets. -/
def comma (f : Front) : Except Defect Front :=
  f.withdraw.map fun f => { f.add .comma f.place.next with mayBeKey := true }

/-- The dash in front of an element. -/
def dash (f : Front) : Except Defect Front :=
  if f.depth = 0 ∧ f.mayBeKey = false then .error .token
  else
    (f.startBlock .listStart f.tokens.size f.place.column).withdraw.map fun f =>
      { f.add .dash f.place.next with mayBeKey := true }

/-- The question mark in front of a key. -/
def key (f : Front) : Except Defect Front :=
  if f.depth = 0 ∧ f.mayBeKey = false then .error .token
  else
    (f.startBlock .mappingStart f.tokens.size f.place.column).withdraw.map fun f =>
      { f.add .key f.place.next with mayBeKey := f.depth == 0 }

/-- The colon in front of a value. -/
def value (f : Front) : Except Defect Front :=
  match f.candidate? with
  | some c =>
    let f := f.withoutCandidate
    let f := { f with tokens := f.tokens.insertIdxIfInBounds c.number .key }
    let f := f.startBlock .mappingStart c.number c.place.column
    .ok { f.add .value f.place.next with mayBeKey := false }
  | none =>
    if f.depth = 0 ∧ f.mayBeKey = false then .error .token
    else
      let f := f.startBlock .mappingStart f.tokens.size f.place.column
      .ok { f.add .value f.place.next with mayBeKey := f.depth == 0 }

/-- A token that can be a key or a part of one, which `read` reads. -/
def node (read : Place → Except Defect (Token × Place)) (f : Front) : Except Defect Front :=
  f.propose.bind fun f =>
    (read f.place).map fun (token, p) => { f.add token p with mayBeKey := false }

/-- A scalar in a block of its own. -/
def blockScalar (folds : Bool) (f : Front) : Except Defect Front :=
  f.withdraw.bind fun f =>
    (block folds f.least f.place).map fun (t, p) =>
      { f.add (.scalar t false) p with mayBeKey := true }

/-- A scalar between quotes. -/
def quotedScalar (quote : Char) : Front → Except Defect Front :=
  node fun p => (quoted quote p).map fun (t, p) => (.scalar t false, p)

/-- A scalar without quotes. If it ends behind a line, there may be a key. -/
def plainScalar (f : Front) : Except Defect Front :=
  f.propose.map fun f =>
    match plain (0 < f.depth) f.least f.place with
    | (t, gap) => { f.add (.scalar t true) gap.behind with mayBeKey := ! gap.breaks.isEmpty }

/-- The step for the token at the front. -/
def step (f : Front) : Except Defect Front :=
  let inBrackets := decide (0 < f.depth)
  match f.place.rest with
  | [] => f.finish
  | c :: rest =>
    if c = '%' ∧ f.place.column = 0 then f.betweenDocuments directive
    else if f.place.atMark '-' then f.betweenDocuments fun p => .ok (.documentStart, p.skip 3)
    else if f.place.atMark '.' then f.betweenDocuments fun p => .ok (.documentEnd, p.skip 3)
    else if c = '[' then f.openBracket .bracketOpen
    else if c = '\x7b' then f.openBracket .braceOpen
    else if c = ']' then f.closeBracket .bracketClose
    else if c = '\x7d' then f.closeBracket .braceClose
    else if c = ',' then f.comma
    else if c = '-' ∧ atGap rest then f.dash
    else if c = '?' ∧ (inBrackets || atGap rest) then f.key
    else if c = ':' ∧ (inBrackets || atGap rest) then f.value
    else if c = '*' then f.node fun p => (name p).map fun (t, p) => (.sameAs t, p)
    else if c = '&' then f.node fun p => (name p).map fun (t, p) => (.anchor t, p)
    else if c = '!' then f.node tag
    else if c = '|' ∧ ! inBrackets then f.blockScalar false
    else if c = '>' ∧ ! inBrackets then f.blockScalar true
    else if c = '\'' ∨ c = '"' then f.quotedScalar c
    else if startsPlain inBrackets (c :: rest) then f.plainScalar
    else .error .token

/-- The front behind the next token. -/
def next (f : Front) : Except Defect Front :=
  match f.toToken.dropStale with
  | .error defect => .error defect
  | .ok f => (f.close (· ≤ f.place.column)).step

end Front

/-! ## Tokens -/

/-- The tokens of a text, as far as they can be told, and why no further ones can. -/
structure Tokens where
  tokens : List Token
  defect : Option Defect := none
deriving DecidableEq, Repr

/-- The tokens from a front on, those in front of it included. -/
def Front.tokensFrom : (fuel : Nat) → Front → Tokens
  | 0, f => ⟨f.given, some .token⟩
  | fuel + 1, f =>
    match f.next with
    | .error defect => ⟨f.given, some defect⟩
    | .ok g =>
      if g.finished then ⟨g.tokens.toList, none⟩
      else
        match g.dropStale with
        | .error defect => ⟨f.given, some defect⟩
        | .ok g => g.tokensFrom fuel

/-- The tokens of a text. Each step but the last one takes a character. -/
def Tokens.ofText (t : Text) : Tokens :=
  Front.tokensFrom (t.length + 1) { place := { rest := t } }

example : (Tokens.ofText "a: b".toList).tokens
    = [ .mappingStart, .key, .scalar ['a'] true, .value, .scalar ['b'] true, .blockEnd,
        .streamEnd ] := by decide +kernel

example : (Tokens.ofText "- x\ty".toList)
    = ⟨[.listStart, .dash], some .token⟩ := by decide +kernel

end LinearProgram.Markup

/-
  Quoted — scalars between quotes.

  1. **Escapes** — between double quotes a backslash introduces an escape: a letter for a character,
     a number in two, four or eight hexadecimal digits, or the end of a line that does not count.

  2. **Scalars** — between apostrophes only the apostrophe is special, and is written twice. Between
     quotes of either kind a gap with line breaks is folded.
-/

import LinearProgram.Markup.Defect
import LinearProgram.Markup.Place

namespace LinearProgram.Markup

/-! ## Escapes -/

/-- The characters that a backslash and one character stand for. -/
def escapes : List (Char × Nat) :=
  [ ('0', 0x00), ('a', 0x07), ('b', 0x08), ('t', 0x09), ('\t', 0x09), ('n', 0x0A), ('v', 0x0B),
    ('f', 0x0C), ('r', 0x0D), ('e', 0x1B), (' ', 0x20), ('"', 0x22), ('/', 0x2F), ('\\', 0x5C),
    ('N', 0x85), ('_', 0xA0), ('L', 0x2028), ('P', 0x2029) ]

/-- How many hexadecimal digits follow an escape by number. -/
def escapeWidth? (c : Char) : Option Nat :=
  if c = 'x' then some 2 else if c = 'u' then some 4 else if c = 'U' then some 8 else none

/-- The value of an ASCII digit to a base of at most sixteen. -/
def digit? (base : Nat) (c : Char) : Option Nat :=
  let n := c.toNat
  let value? :=
    if 0x30 ≤ n ∧ n ≤ 0x39 then some (n - 0x30)
    else if 0x41 ≤ n ∧ n ≤ 0x46 then some (n - 0x37)
    else if 0x61 ≤ n ∧ n ≤ 0x66 then some (n - 0x57)
    else none
  value?.filter (· < base)

/-- The number that digits stand for to a base, if all of them are digits. -/
def ofDigits? (base : Nat) (digits : Text) : Option Nat :=
  digits.foldl (fun n? c => n?.bind fun n => (digit? base c).map (base * n + ·)) (some 0)

/-- The character of a number. -/
def numberedCharacter (n : Nat) : Except Defect Char :=
  if n ≤ 0x10FFFF then .ok (Char.ofNat n)
  else if n ≤ 0x7FFFFFFF then .error .beyondCharacters
  else .error .beyondWords

/-- What the escape at a place stands for, and the place behind it. -/
def escape (p : Place) : Except Defect (Text × Place) :=
  match p.next.rest with
  | [] => .error .token
  | c :: rest =>
    match escapes.lookup c, escapeWidth? c with
    | some n, _ => .ok ([Char.ofNat n], p.skip 2)
    | none, some width =>
      let digits := rest.take width
      match ofDigits? 16 digits with
      | none => .error .token
      | some n =>
        if digits.length < width then .error .token
        else (numberedCharacter n).map fun c => ([c], p.skip (2 + width))
    | none, none =>
      if isBreak c then
        let gap := breaksFrom isSpace p.next.rest p.next
        if gap.final then .error .token else .ok (gap.breaks.drop 1, gap.behind)
      else .error .token

/-! ## Scalars -/

/-- The scalar from a place between its quotes on, and the place behind it. -/
def quotedFrom (quote : Char) : (fuel : Nat) → Place → Except Defect (Text × Place)
  | 0, _ => .error .token
  | fuel + 1, p =>
    let goOn (front : Text) (p : Place) : Except Defect (Text × Place) :=
      (quotedFrom quote fuel p).map fun (t, p) => (front ++ t, p)
    match p.rest with
    | [] => .error .token
    | c :: rest =>
      if isGap c then
        let gap := p.gap isSpace
        if gap.final then .error .token else goOn gap.text gap.behind
      else if c = '\\' ∧ quote = '"' then
        match escape p with
        | .error defect => .error defect
        | .ok (t, p) => goOn t p
      else if c ≠ quote then goOn [c] p.next
      else if quote = '\'' ∧ rest.head? = some '\'' then goOn ['\''] (p.skip 2)
      else .ok ([], p.next)

/-- The scalar between quotes at a place, and the place behind it. Each part of it takes a
    character. -/
def quoted (quote : Char) (p : Place) : Except Defect (Text × Place) :=
  quotedFrom quote p.rest.length p.next

example : (quoted '\'' ⟨"'it''s' x".toList, 0, 0, 0⟩).toOption.map Prod.fst
    = some "it's".toList := by decide

example : (quoted '"' ⟨"\"\\x41\\\n  b\n c\"".toList, 0, 0, 0⟩).toOption.map Prod.fst
    = some "Ab c".toList := by decide

end LinearProgram.Markup

/-
  Token — the words of a configuration's text: marks, names and scalars.

  1. **Tokens** — a token marks where something starts, ends or is parted, or it is a scalar. Starts
     and ends of blocks and keys have no mark of their own in the text.

  2. **Names** — an anchor names a node, an alias stands for a named node, and a tag says what kind
     of node one is. A tag's name may have the name of its family in front.

  3. **Directives** — a line in front of a document may tell the version of the language; directives
     of other names say nothing.
-/

import LinearProgram.Markup.Defect
import LinearProgram.Markup.Place

namespace LinearProgram.Markup

/-! ## Tokens -/

/-- A word of a configuration's text. -/
inductive Token where
  /-- A directive, with the version's first number if it tells one. -/
  | directive (version? : Option Nat)
  | documentStart
  | documentEnd
  /-- The start of a list whose elements have dashes. -/
  | listStart
  /-- The start of a mapping whose entries have lines of their own. -/
  | mappingStart
  | blockEnd
  | bracketOpen
  | bracketClose
  | braceOpen
  | braceClose
  | dash
  | comma
  | key
  | value
  | sameAs (name : Text)
  | anchor (name : Text)
  | tag (family? : Option Text) (name : Text)
  | scalar (t : Text) (isPlain : Bool)
  | streamEnd
deriving DecidableEq, Repr

/-! ## Names -/

/-- A character of a name. -/
def isNameChar (c : Char) : Bool := c.isAlphanum || c == '-' || c == '_'

/-- The characters that may follow an anchor or an alias, besides gaps. -/
def behindName : Text := ['?', ':', ',', ']', '\x7d', '%', '@', '\x60']

/-- The name of the anchor or the alias at a place, and the place behind it. -/
def name (p : Place) : Except Defect (Text × Place) :=
  match p.next.span isNameChar with
  | ([], _) => .error .token
  | (t, p) =>
    match p.rest with
    | [] => .ok (t, p)
    | c :: _ => if isGap c || behindName.contains c then .ok (t, p) else .error .token

/-- A character of a tag's name. -/
def isTagChar (c : Char) : Bool :=
  c.isAlphanum || "-;/?:@&=+$,_.!~*'()[]%".toList.contains c

/-- Does nothing follow, or a space or a line break? -/
def atTagEnd : Text → Bool
  | [] => true
  | c :: _ => c == ' ' || isBreak c

/-- The family's name at a place, between exclamation marks, and the place behind it. -/
def family (p : Place) : Except Defect (Text × Place) :=
  match p.next.span isNameChar with
  | (t, p) =>
    if p.rest.head? = some '!' then .ok ('!' :: t ++ ['!'], p.next) else .error .token

/-- The rest of a tag from the name at a place on; `close` must follow the name. -/
def tagName (family? : Option Text) (close : Text) (p : Place) : Except Defect (Token × Place) :=
  match p.span isTagChar with
  | ([], _) => .error .token
  | (t, p) =>
    let behind := p.skip close.length
    if close.isPrefixOf p.rest && atTagEnd behind.rest then .ok (.tag family? t, behind)
    else .error .token

/-- The tag at a place, and the place behind it. -/
def tag (p : Place) : Except Defect (Token × Place) :=
  match p.next.rest with
  | '<' :: _ => tagName none ['>'] (p.skip 2)
  | rest =>
    if atGap rest then
      if atTagEnd rest then .ok (.tag none ['!'], p.next) else .error .token
    else if (rest.takeWhile fun c => c != ' ' && ! isBreak c).contains '!' then
      match family p with
      | .error defect => .error defect
      | .ok (family, p) => tagName (some family) [] p
    else tagName (some ['!']) [] p.next

/-! ## Directives -/

/-- The version at a place, its first number only, and the place behind it. -/
def version (p : Place) : Except Defect (Nat × Place) :=
  match (p.span (· = ' ')).2.span Char.isDigit with
  | ([], _) => .error .token
  | (major, p) =>
    if p.rest.head? ≠ some '.' then .error .token
    else
      match p.next.span Char.isDigit with
      | ([], _) => .error .token
      | (_, p) => if atTagEnd p.rest then .ok (Nat.ofDigitChars 10 major 0, p) else .error .token

/-- The directive at a place, and the place behind its line. -/
def directive (p : Place) : Except Defect (Token × Place) :=
  match p.next.span isNameChar with
  | ([], _) => .error .token
  | (t, p) =>
    if ! atTagEnd p.rest then .error .token
    else if t = "YAML".toList then
      match version p with
      | .error defect => .error defect
      | .ok (major, p) =>
        match p.behindLine? with
        | some p => .ok (.directive (some major), p)
        | none => .error .token
    else .ok (.directive none, (p.span (! isBreak ·)).2.next)

end LinearProgram.Markup

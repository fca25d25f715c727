/-
  Template — how a record of the log is set out as a line.

  1. **Pieces** — a template is text with fields in it. A field `%(name)s` stands for a property of
     the record; between the parenthesis and the last letter there may be flags, a width, a
     precision and a letter for a size, which says nothing. Two percent signs stand for one, with or
     without anything in between. What looks like a field and is none is text.

  2. **Fields** — a field may be the channel, the level by name or by number, the message, the
     thread and the process by name, or one of the things that no record has. The letter `s` sets a
     property out as it is, `r` between quotes, `a` between quotes without a character beyond ASCII,
     and other letters set out a number in one of the numerals.

  3. **Validity** — a template must hold something that has the form of a field.
-/

import LinearProgram.Log
import LinearProgram.Log.Numeral
import LinearProgram.Text.Alphanumeric
import LinearProgram.Text.Digit
import LinearProgram.Text.Quoted

namespace LinearProgram.Log

/-! ## Pieces -/

/-- The properties of a record that a field may stand for. -/
inductive Property where
  | channel
  | levelName
  | levelNumber
  | message
  | thread
  | process
  /-- What a record could have and none has: an exception, the calls that led to it, or a task. -/
  | nothing
deriving DecidableEq, Repr

/-- How a property is set out. -/
inductive Manner where
  | verbatim
  | quoted
  /-- Between quotes, in ASCII. -/
  | quotedPlain
  | number (numeral : Numeral)
deriving DecidableEq, Repr

/-- A piece of a template. -/
inductive Piece where
  | text (c : Char)
  | field (property : Property) (fit : Fit) (manner : Manner)
deriving DecidableEq, Repr

/-- A template, piece by piece. -/
abbrev Template := List Piece

/-- The property of a name. -/
def property? (name : Text) : Option Property :=
  [ ("name".toList, Property.channel), ("levelname".toList, .levelName),
    ("levelno".toList, .levelNumber), ("message".toList, .message),
    ("threadName".toList, .thread), ("processName".toList, .process),
    ("exc_info".toList, .nothing), ("exc_text".toList, .nothing),
    ("stack_info".toList, .nothing), ("taskName".toList, .nothing) ].lookup name

/-- The numeral of a letter. -/
def numeral? (letter : Char) : Option Numeral :=
  [ ('d', Numeral.decimal), ('i', .decimal), ('u', .decimal), ('o', .octal),
    ('x', .hexadecimal false), ('X', .hexadecimal true), ('f', .fixed), ('F', .fixed),
    ('e', .scientific false), ('E', .scientific true), ('g', .general false),
    ('G', .general true), ('c', .character) ].lookup letter

/-- How a letter sets out a property; only the level's number is a number. -/
def manner? (property : Property) (letter : Char) : Option Manner :=
  if letter = 's' then some .verbatim
  else if letter = 'r' then some .quoted
  else if letter = 'a' then some .quotedPlain
  else if property = .levelNumber then (numeral? letter).map .number
  else none

/-- The flags of a field. -/
def isFlag (c : Char) : Bool := ['#', '0', '-', ' ', '+'].contains c

/-- A number in ASCII digits at the start of a text, if there is one, and what follows. -/
def leadingNumber (t : Text) : Option Nat × Text :=
  let isDigit : Char → Bool := fun c => 0x30 ≤ c.toNat && c.toNat ≤ 0x39
  match t.takeWhile isDigit with
  | [] => (none, t)
  | digits => (some (Nat.ofDigitChars 10 digits 0), t.dropWhile isDigit)

/-- The precision at the start of a text, if there is one, and what follows; a mere point is
    precision zero. -/
def leadingPrecision : Text → Option Nat × Text
  | '.' :: rest =>
    match leadingNumber rest with
    | (n?, rest) => (some (n?.getD 0), rest)
  | t => (none, t)

/-- A text without the letter for a size at its start. -/
def withoutSize : Text → Text
  | c :: rest => if ['h', 'l', 'L'].contains c then rest else c :: rest
  | [] => []

/-- What the flags put in front of a number. -/
def signOf (flags : Text) : Text :=
  if flags.contains '+' then ['+'] else if flags.contains ' ' then [' '] else []

/-- The fit at the start of a text, the letter behind it, and what follows. -/
def leadingFit? (t : Text) : Option (Fit × Char × Text) :=
  let flags := t.takeWhile isFlag
  match leadingNumber (t.dropWhile isFlag) with
  | (width, rest) =>
    match leadingPrecision rest with
    | (precision, rest) =>
      match withoutSize rest with
      | [] => none
      | letter :: rest =>
        let fit : Fit :=
          { leftAligned := flags.contains '-'
            zeroFilled := flags.contains '0'
            marked := flags.contains '#'
            sign := signOf flags
            width := width.getD 0
            precision }
        some (fit, letter, rest)

/-- The name up to the parenthesis that closes it, and what follows that; in the name, `depth`
    parentheses are open. -/
def closedName? : (depth : Nat) → Text → Option (Text × Text)
  | _, [] => none
  | depth, c :: rest =>
    if c = ')' then
      match depth with
      | 0 => some ([], rest)
      | depth + 1 => (closedName? depth rest).map fun (name, rest) => (c :: name, rest)
    else
      (closedName? (if c = '(' then depth + 1 else depth) rest).map fun (name, rest) =>
        (c :: name, rest)

/-- The piece behind a percent sign and a name, and what follows it. -/
def namedPiece? (name rest : Text) : Option (Piece × Text) :=
  (property? name).bind fun property =>
    (leadingFit? rest).bind fun (fit, letter, rest) =>
      if letter = '%' then some (.text '%', rest)
      else (manner? property letter).map fun manner => (.field property fit manner, rest)

/-- The piece behind a percent sign without a name, and what follows it. -/
def namelessPiece? (rest : Text) : Option (Piece × Text) :=
  (leadingFit? rest).bind fun (_, letter, rest) =>
    if letter = '%' then some (.text '%', rest) else none

/-- The piece behind the percent sign at the start of a text, and what follows it. -/
def markedPiece? : Text → Option (Piece × Text)
  | '%' :: '(' :: rest => (closedName? 0 rest).bind fun (name, rest) => namedPiece? name rest
  | '%' :: rest => namelessPiece? rest
  | _ => none

/-- The pieces of a text, of which the first `skipped` characters belong to a piece already. -/
def piecesFrom : (skipped : Nat) → Text → Template
  | _, [] => []
  | skipped + 1, _ :: rest => piecesFrom skipped rest
  | 0, c :: rest =>
    match markedPiece? (c :: rest) with
    | some (piece, behind) => piece :: piecesFrom (rest.length - behind.length) rest
    | none => .text c :: piecesFrom 0 rest

/-- The template that a text is. -/
def Template.ofText (t : Text) : Template := piecesFrom 0 t

/-! ## Fields -/

/-- What a property of a record is. -/
inductive Value where
  | text (t : Text)
  | number (n : Nat)
  | nothing
deriving DecidableEq, Repr

/-- A property of a record; documents are read in the main thread of the main process. -/
def Property.of (r : Record) : Property → Value
  | channel => .text r.channel.toList
  | levelName => .text r.level.label.toList
  | levelNumber => .number r.level.rank
  | message => .text r.message.toList
  | thread => .text "MainThread".toList
  | process => .text "MainProcess".toList
  | nothing => .nothing

/-- A value as it is; `quote` shows a text. -/
def Value.shown (quote : Text → Text) : Value → Text
  | text t => quote t
  | number n => Decimal.digits n
  | nothing => "None".toList

/-- A value in its place; one that is no number has no numeral. -/
def Value.render (fit : Fit) : Manner → Value → Text
  | .number numeral, number n => numeral.render fit n
  | .verbatim, v => fit.fill (fit.cut (v.shown id))
  | .quoted, v => fit.fill (fit.cut (v.shown Text.quoted))
  | .quotedPlain, v => fit.fill (fit.cut (v.shown Text.quotedPlain))
  | .number _, v => fit.fill (v.shown id)

/-- A piece for a record. -/
def Piece.render (r : Record) : Piece → Text
  | text c => [c]
  | field property fit manner => (property.of r).render fit manner

/-- The line of a record, without its end. -/
def Template.render (template : Template) (r : Record) : Text := template.flatMap (Piece.render r)

example : (Template.ofText "%(levelno)#x%% %(levelname)-6s|".toList).render ⟨"", .info, ""⟩
    = "0x14% INFO  |".toList := by decide +kernel

/-! ## Validity -/

/-- A character of a field's name. -/
def isNameChar (c : Char) : Bool := c == '_' || Text.isAlphanumeric c

/-- The letters that a field may end with, whether or not a property can be set out so. The dotless
    and the dotted `i` and the long `s` are cases of `i` and `s`. -/
def fieldLetters : Text :=
  [ 'd', 'i', 'o', 'u', 'x', 'e', 'f', 'g', 'c', 'r', 's', 'a', '%',
    'D', 'I', 'O', 'U', 'X', 'E', 'F', 'G', 'C', 'R', 'S', 'A', '\u0130', '\u0131', '\u017F' ]

/-- The text behind a number or a star at its start; `none` if it starts with neither. -/
def behindMeasure? : Text → Option Text
  | '*' :: rest => some rest
  | t =>
    match t.takeWhile Text.isDecimal with
    | [] => none
    | _ => some (t.dropWhile Text.isDecimal)

/-- Does a field end here, but for its precision and its letter? -/
def endsField (t : Text) : Bool :=
  match t with
  | '.' :: rest =>
    match behindMeasure? rest with
    | some (letter :: _) => fieldLetters.contains letter
    | _ => false
  | letter :: _ => fieldLetters.contains letter
  | [] => false

/-- Does a field start here? -/
def startsField : Text → Bool
  | '%' :: '(' :: rest =>
    match rest.takeWhile isNameChar, rest.dropWhile isNameChar with
    | _ :: _, ')' :: rest =>
      let rest := rest.dropWhile isFlag
      endsField ((behindMeasure? rest).getD rest)
    | _, _ => false
  | _ => false

/-- Does the text hold something that has the form of a field? -/
def holdsField : Text → Bool
  | [] => false
  | c :: rest => startsField (c :: rest) || holdsField rest

end LinearProgram.Log

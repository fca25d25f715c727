/-
  Json — structured values for other programs, and their text.

  `render` writes one member per line, two spaces of indentation per level, and ASCII only: every
  other character of a text is escaped by its UTF-16 code units.
-/

import LinearProgram.Decimal.Layout
import LinearProgram.Text.Hex

namespace LinearProgram

/-- A structured value; members of objects keep their order. -/
inductive Json where
  | null
  | bool (b : Bool)
  | integer (z : Int)
  | number (x : Float)
  | text (t : Text)
  | array (elements : List Json)
  | object (members : List (Text × Json))

namespace Json

/-! ## Texts -/

/-- A UTF-16 code unit as an escape. -/
def unit (n : Nat) : Text := '\\' :: 'u' :: Text.hex 4 n

/-- A character between double quotes. -/
def escaped (c : Char) : Text :=
  let n := c.toNat
  if c = '"' ∨ c = '\\' then ['\\', c]
  else if 0x20 ≤ n ∧ n ≤ 0x7E then [c]
  else if c = '\n' then ['\\', 'n']
  else if c = '\r' then ['\\', 'r']
  else if c = '\t' then ['\\', 't']
  else if n = 0x08 then ['\\', 'b']
  else if n = 0x0C then ['\\', 'f']
  else if n < 0x10000 then unit n
  else unit (0xD800 + (n - 0x10000) / 0x400) ++ unit (0xDC00 + (n - 0x10000) % 0x400)

/-- A text between double quotes. -/
def quotedText (t : Text) : Text := '"' :: t.flatMap escaped ++ ['"']

example : quotedText ['é', '"'] = "\"\\u00e9\\\"\"".toList := by decide

/-! ## Values -/

/-- Numbers in structured values: as in messages, but with the longer words for what is not
    finite. -/
def numberLayout : Decimal.Layout :=
  { Decimal.plainLayout with
    infinity := "Infinity".toList
    notANumber := "NaN".toList }

/-- A line break and the indentation of a level. -/
def newLine (level : Nat) : Text := '\n' :: List.replicate (2 * level) ' '

/-- A member of an object, its value being rendered already. -/
def memberText (name value : Text) : Text := quotedText name ++ ": ".toList ++ value

mutual

/-- A value at a level of indentation; its first line is not indented. -/
def renderAt (level : Nat) : Json → Text
  | null => "null".toList
  | bool true => "true".toList
  | bool false => "false".toList
  | integer z => Decimal.integer z
  | number x => numberLayout.render x
  | text t => quotedText t
  | array [] => "[]".toList
  | array (e :: es) =>
    '[' :: (newLine (level + 1) ++ renderAt (level + 1) e ++ renderElements (level + 1) es)
      ++ newLine level ++ [']']
  | object [] => ['\x7b', '\x7d']
  | object ((name, value) :: rest) =>
    '\x7b' :: (newLine (level + 1) ++ memberText name (renderAt (level + 1) value)
      ++ renderMembers (level + 1) rest) ++ newLine level ++ ['\x7d']

/-- The elements of an array behind the first one. -/
def renderElements (level : Nat) : List Json → Text
  | [] => []
  | e :: es => ',' :: (newLine level ++ renderAt level e ++ renderElements level es)

/-- The members of an object behind the first one. -/
def renderMembers (level : Nat) : List (Text × Json) → Text
  | [] => []
  | (name, value) :: rest =>
    ',' :: (newLine level ++ memberText name (renderAt level value) ++ renderMembers level rest)

end

/-- The text of a value. -/
def render (value : Json) : Text := renderAt 0 value

example : render (object [("a".toList, array [null, integer (-1)])]) =
    "\x7b\n  \"a\": [\n    null,\n    -1\n  ]\n\x7d".toList := by decide +kernel

/-! ## What other programs can read -/

mutual

/-- Is every number in the value finite? -/
def isFinite : Json → Bool
  | number x => x.isFinite
  | array es => areFinite es
  | object ms => membersAreFinite ms
  | _ => true

/-- Is every number in the elements finite? -/
def areFinite : List Json → Bool
  | [] => true
  | e :: es => isFinite e && areFinite es

/-- Is every number in the members finite? -/
def membersAreFinite : List (Text × Json) → Bool
  | [] => true
  | (_, value) :: rest => isFinite value && membersAreFinite rest

end

end Json

end LinearProgram

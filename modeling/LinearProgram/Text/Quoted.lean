/-
  Quoted — a text as a message shows it: between quotes, on one line, every character visible.

  1. **The quote** is the apostrophe, unless the text holds apostrophes and no double quote.

  2. **Escapes** — the quote and the backslash get a backslash in front; tabulator, line feed and
     carriage return are `\t`, `\n` and `\r`; every other character that is not printable is given
     by its number in two, four or eight hexadecimal digits.

  `quotedPlain` does the same in ASCII: a character beyond it is given by its number as well.
-/

import LinearProgram.Text.Hex
import LinearProgram.Text.Printable

namespace LinearProgram.Text

/-- The quote that a text is shown between. -/
def quoteFor (t : Text) : Char :=
  if t.contains '\'' && !t.contains '"' then '"' else '\''

/-- A character by its number, with as few digits as the number's size allows. -/
def numbered (c : Char) : Text :=
  let n := c.toNat
  if n < 0x100 then '\\' :: 'x' :: hex 2 n
  else if n < 0x10000 then '\\' :: 'u' :: hex 4 n
  else '\\' :: 'U' :: hex 8 n

/-- A character as it stands between quotes. -/
def escaped (quote c : Char) : Text :=
  if c = quote ∨ c = '\\' then ['\\', c]
  else if c = '\t' then ['\\', 't']
  else if c = '\n' then ['\\', 'n']
  else if c = '\r' then ['\\', 'r']
  else if isPrintable c then [c]
  else numbered c

/-- The text between quotes. -/
def quoted (t : Text) : Text :=
  let quote := quoteFor t
  quote :: t.flatMap (escaped quote) ++ [quote]

/-- The text between quotes, in ASCII. -/
def quotedPlain (t : Text) : Text :=
  (quoted t).flatMap fun c => if c.toNat < 0x80 then [c] else numbered c

example : quoted ['a', '\n', '\''] = ['"', 'a', '\\', 'n', '\'', '"'] := by decide

example : quoted ['\'', '"'] = ['\'', '\\', '\'', '"', '\''] := by decide

end LinearProgram.Text

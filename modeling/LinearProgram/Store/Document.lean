/-
  Document — documents that are kept in a store.

  1. **Line ends** — in stored content a carriage return ends a line, alone or with a line feed
     behind it.

  2. **Sources** — stored content is a source. Where its octets stop making sense the source
     breaks, and of the characters before that only whole lines are handed out.

  3. **Readings** — a document that cannot be opened has a reading like any other, unless its path
     holds the character zero.
-/

import LinearProgram.Reading
import LinearProgram.Store.Basic

namespace LinearProgram

/-! ## Line ends -/

namespace Text

/-- The text with a line feed for each line end. -/
def withLineFeeds : Text → Text
  | [] => []
  | '\r' :: '\n' :: rest => '\n' :: withLineFeeds rest
  | c :: rest => (if c = '\r' then '\n' else c) :: withLineFeeds rest

/-- The text without a carriage return at its end: what follows the return may belong to the line
    end. -/
def withoutLastReturn (t : Text) : Text := if t.getLast? = some '\r' then t.dropLast else t

/-- The lines of a text that are known to be complete: those with a line feed behind them. -/
def completeLines (t : Text) : List Text :=
  if t.getLast? = some '\n' then t.lines else t.lines.dropLast

end Text

/-! ## Sources -/

/-- The source that stored content is. -/
def Source.ofOctets (octets : Octets) : Source :=
  match Utf8.read octets with
  | (text, none) => .ofText text.withLineFeeds
  | (text, some fault) =>
    { lines := text.withoutLastReturn.withLineFeeds.completeLines
      ending := .broken fault.message.toList 0 }

/-! ## Readings -/

/-- Reads the document at a path. -/
def Store.reading (store : Store) (channel : String) (path : Text) :
    Except Store.Refusal Reading :=
  match store path with
  | .ok octets => .ok (.ofSource channel path (.ofOctets octets))
  | .error .zeroInPath => .error .zeroInPath
  | .error refusal => .ok (.unopened channel path (refusal.message path).toList)

end LinearProgram

/-
  Defect — why a text is not the text of a configuration.

  A text is read in steps: characters make tokens, tokens make nodes, and nodes have values. A defect
  tells the step that failed, and what is wrong if numbers are concerned.
-/

import LinearProgram.Decimal.Digits

namespace LinearProgram.Markup

/-- Why a text is not the text of a configuration. -/
inductive Defect where
  /-- It holds a character that must not occur. -/
  | character
  /-- Something in it is no token, or must not stand where it does. -/
  | token
  /-- Its tokens do not follow on each other. -/
  | arrangement
  /-- A mark stands for no node or for two, or there is a second document. -/
  | reference
  /-- A node has no value. -/
  | value
  /-- A number has no digit behind the mark of its base. -/
  | digitless (base : Nat)
  /-- An escape gives a number that no character has. -/
  | beyondCharacters
  /-- An escape gives a number of more than 31 binary digits. -/
  | beyondWords
deriving DecidableEq, Repr

/-- The defect in words. -/
def Defect.message : Defect → String
  | character => "The configuration holds a character that must not occur."
  | token => "The configuration holds something that is no token."
  | arrangement => "The configuration's tokens do not follow on each other."
  | reference => "The configuration's nodes are not marked once each."
  | value => "The configuration holds a node without a value."
  | digitless base =>
    s!"invalid literal for int() with base {String.ofList (Decimal.digits base)}: ''"
  | beyondCharacters => "chr() arg not in range(0x110000)"
  | beyondWords => "The configuration holds an escape by a number that is too large."

end LinearProgram.Markup

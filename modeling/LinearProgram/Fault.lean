/-
  Fault — what can be wrong with a document, and where.

  1. **Causes** — one constructor for each thing that can be wrong, with the texts it is about.

  2. **Kinds** — the coarser classes of causes that reports name.

  3. **Faults** — a cause together with its line (0 while unknown) and its section.
-/

import LinearProgram.Section
import LinearProgram.Text.Quoted
import LinearProgram.Decimal.Layout

namespace LinearProgram

/-! ## Kinds -/

/-- The classes of causes that reports tell apart. -/
inductive Fault.Kind where
  | unrecognizedDirection
  | missingSign
  | invalidAddend
  | invalidName
  | invalidNumber
  | malformedConstraint
  | unknownVariable
  | malformedBound
  | unknownBoundFormat
  | sectionOrder
  | incompleteInput
  | unreadable
  | modelInvariant
  | noDocument
  | noWord
  | noDirection
  | noKind
deriving DecidableEq, Repr

/-- The kind's name in reports. -/
def Fault.Kind.label : Fault.Kind → String
  | unrecognizedDirection => "UnrecognizedDirectionError"
  | missingSign => "MissingSignError"
  | invalidAddend => "InvalidAddendError"
  | invalidName => "InvalidNameError"
  | invalidNumber => "InvalidNumberError"
  | malformedConstraint => "MalformedConstraintError"
  | unknownVariable => "UnknownVariableError"
  | malformedBound => "MalformedBoundError"
  | unknownBoundFormat => "UnknownBoundFormatError"
  | sectionOrder => "SectionOrderError"
  | incompleteInput => "IncompleteInputError"
  | unreadable => "IoError"
  | modelInvariant => "ModelInvariantError"
  | noDocument => "NoDocument"
  | noWord => "NoWord"
  | noDirection => "NoDirection"
  | noKind => "NoKind"

/-! ## Causes -/

/-- The named parts of a model. -/
inductive Item where
  | variable
  | objective
  | constraint
deriving DecidableEq, Repr

/-- The item's word in messages. -/
def Item.label : Item → String
  | .variable => "variable"
  | .objective => "objective"
  | .constraint => "constraint"

/-- What is wrong. -/
inductive Cause where
  /-- The document's first content line names no optimisation direction. -/
  | unrecognizedDirection (line : Text)
  /-- Two addends follow each other without a sign in between. -/
  | missingSign (addend : Text)
  /-- An addend is a mere number. -/
  | noVariable (addend : Text)
  | invalidName (name : Text)
  | invalidNumber (number : Text)
  /-- The relational characters form none of the known operators. -/
  | unsupportedOperator (operator line : Text)
  /-- An operator without a right-hand side, or several of them. -/
  | invalidConstraintLine (line : Text)
  /-- A constraint ends, by a keyword or the next name, before its operator came. -/
  | unfinishedConstraint (name : Text)
  /-- An operator and a value where no constraint is open. -/
  | noLeftHandSide (line : Text)
  | unknownVariable (name : Text)
  /-- A bound with both `<=` and `>=`. -/
  | mixedBound (line : Text)
  | boundBetweenVariables (line : Text)
  /-- A bound without an operator that does not say `free`. -/
  | notFree (line : Text)
  /-- A bound with more than two operators. -/
  | unknownBoundFormat (line : Text)
  /-- A section was to be read that the document is not in. -/
  | sectionOrder (expected : List Section) (found : Section)
  /-- The lines ran out before the end marker. -/
  | endOfInput
  /-- The lines could not be read to their end. -/
  | unreadable (reason : Text)
  /-- The document could not be opened. -/
  | unopenable (path reason : Text)
  | blankName (item : Item)
  | invertedBounds (name : Text) (lower upper : Float)
  | lineNotPositive (name : Text) (line : Int)
  | emptyLeftHandSide (name : Text)
  /-- No document was given to read from. -/
  | noDocument
  /-- A line that is to have content has no first word. -/
  | noWord (line : Text)
  /-- Objectives are to be read, and their direction is not known. -/
  | noDirection
  /-- Variables are to be listed in a section that gives them no kind. -/
  | noKind (found : Section)
deriving DecidableEq

namespace Cause

/-- The kind of a cause. -/
def kind : Cause → Fault.Kind
  | unrecognizedDirection _ => .unrecognizedDirection
  | missingSign _ => .missingSign
  | noVariable _ => .invalidAddend
  | invalidName _ => .invalidName
  | invalidNumber _ => .invalidNumber
  | unsupportedOperator .. | invalidConstraintLine _ | unfinishedConstraint _ | noLeftHandSide _ =>
    .malformedConstraint
  | unknownVariable _ => .unknownVariable
  | mixedBound _ | boundBetweenVariables _ | notFree _ => .malformedBound
  | unknownBoundFormat _ => .unknownBoundFormat
  | sectionOrder .. => .sectionOrder
  | endOfInput => .incompleteInput
  | unreadable _ | unopenable .. => .unreadable
  | blankName _ | invertedBounds .. | lineNotPositive .. | emptyLeftHandSide _ => .modelInvariant
  | noDocument => .noDocument
  | noWord _ => .noWord
  | noDirection => .noDirection
  | noKind _ => .noKind

/-- Is this a cause that is reported? The other ones lie in a reader that was called without what
    it takes for granted; they are no faults of a document and keep the reader from reporting. -/
def isReported : Cause → Bool
  | noDocument | noWord _ | noDirection | noKind _ => false
  | _ => true

/-- A text between quotes, as messages show it. -/
def shown (t : Text) : String := String.ofList t.quoted

/-- A text as it is. -/
def verbatim (t : Text) : String := String.ofList t

/-- A number, as messages show it. -/
def number (x : Float) : String := String.ofList (Decimal.plain x)

/-- The words that tell a reader of the document what is wrong. -/
def message : Cause → String
  | unrecognizedDirection line => s!"unrecognised optimisation direction {shown line}."
  | missingSign addend => s!"missing sign before {shown addend}."
  | noVariable addend => s!"{shown addend} is not a valid addend."
  | invalidName name => s!"invalid name {shown name}."
  | invalidNumber number => s!"{shown number} is not a valid number."
  | unsupportedOperator operator line =>
    s!"unsupported relational operator {shown operator} in {shown line}."
  | invalidConstraintLine line => s!"invalid constraint line {shown line}."
  | unfinishedConstraint name => s!"constraint {verbatim name} has no relational operator."
  | noLeftHandSide line => s!"constraint line {shown line} has no left-hand side."
  | unknownVariable name => s!"unknown variable name {shown name}."
  | mixedBound line => s!"bound {shown line} mixes '<=' and '>='."
  | boundBetweenVariables line => s!"bound {shown line} names a variable on both sides of '<='."
  | notFree line => s!"expected free variable expression, found {shown line}."
  | unknownBoundFormat line => s!"unknown bound format {shown line}."
  | sectionOrder expected found =>
    let titles := ", ".intercalate (expected.map Section.title)
    s!"Expected section {titles}, found {found.title}."
  | endOfInput => "Unexpected end of input; missing 'end' marker."
  | unreadable reason => s!"Failed to read input: {verbatim reason}"
  | unopenable path reason => s!"Cannot open input file {verbatim path}: {verbatim reason}"
  | blankName item => s!"Expected non-blank {item.label} name."
  | invertedBounds name lower upper =>
    s!"Variable {verbatim name}: lower bound {number lower} > {number upper} upper bound."
  | lineNotPositive name line =>
    let found := verbatim (Decimal.integer line)
    s!"Constraint {verbatim name}: expected positive line number, found {found}."
  | emptyLeftHandSide name =>
    s!"Constraint {verbatim name}: expected non-empty left-hand side."
  | noDocument => "No document to read from."
  | noWord line => s!"No word in {shown line}."
  | noDirection => "No direction for the objectives."
  | noKind found => s!"No kind for the variables of section {found.title}."

end Cause

/-! ## Faults -/

/-- A cause and where in the document it was met. -/
structure Fault where
  cause : Cause
  /-- The line, counted from one; 0 while it is not known. -/
  line : Nat := 0
  /-- The section, once it is known. -/
  within : Option Section := none
deriving DecidableEq

namespace Fault

/-- The message, with the line in front of it if the line is known. -/
def text (f : Fault) : String :=
  if 0 < f.line then s!"Line {Cause.verbatim (Decimal.digits f.line)}: {f.cause.message}"
  else f.cause.message

/-- Fills in the section and the line where the fault has none of its own. -/
def locatedBy (f : Fault) (place : Section) (line : Nat) : Fault where
  cause := f.cause
  line := if f.line = 0 then line else f.line
  within := some (f.within.getD place)

end Fault

end LinearProgram

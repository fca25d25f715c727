/-
  Failure — what keeps a program from doing its work at all.

  A fault of a document is never a failure: it is reported. A failure lies in what a program was
  called with or set up with, and there is nothing to report then.
-/

import LinearProgram.Fault
import LinearProgram.Markup.Defect
import LinearProgram.Store.Basic

namespace LinearProgram

/-- Why a program could not do its work. -/
inductive Failure where
  /-- The path of a document holds the character zero. -/
  | zeroInPath
  | configurationMissing (path : Text)
  | configurationRefused (path : Text) (refusal : Store.Refusal)
  /-- The configuration's octets encode no text. -/
  | configurationUndecodable
  /-- The configuration is not written as configurations are. -/
  | configurationMalformed (defect : Markup.Defect)
  /-- The switch for the configuration has lost its value. -/
  | configurationNameless
  /-- The configuration is not divided into named parts. -/
  | configurationNotMapping
  | partNotMapping (name : Text)
  /-- The level that is set is no text. -/
  | levelNotText
  | unknownLevel (level : Text)
  /-- The line format that is set is no text. -/
  | formatNotText
  | formatWithoutField (format : Text)
  /-- A path begins in a home directory, and it is not known where that is. -/
  | homeUnknown
  /-- What a tool needs was given as a blank text. -/
  | blankInput (what : String)
  /-- A tool was called with other arguments than the one it has. -/
  | toolArguments
deriving DecidableEq

namespace Failure

/-- The failure in words. -/
def message : Failure → String
  | zeroInPath => Store.Refusal.message [] .zeroInPath
  | configurationMissing path => s!"Config file not found: {Cause.verbatim path}"
  | configurationRefused path refusal => refusal.message path
  | configurationUndecodable => "The configuration is not encoded in UTF-8."
  | configurationMalformed defect => defect.message
  | configurationNameless => "The configuration has no name."
  | configurationNotMapping => "The configuration is not a mapping."
  | partNotMapping name => s!"Config section {Cause.shown name} must be a mapping"
  | levelNotText => "The log level is not a text."
  | unknownLevel level => s!"Unknown level: {Cause.shown level}"
  | formatNotText => "The log format is not a text."
  | formatWithoutField format => s!"Invalid format '{Cause.verbatim format}' for '%' style"
  | homeUnknown => "Could not determine home directory."
  | blankInput what => s!"{what} is required"
  | toolArguments => "The tool was called with wrong arguments."

end Failure

end LinearProgram

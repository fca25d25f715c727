/-
  Store — where documents are kept, as far as reading them goes.

  A store answers a path with the octets kept there, or with the reason why there are none. The
  reasons are those of the operating system, by their numbers and words, and one of its callers: a
  path with the character zero in it never reaches the system.
-/

import LinearProgram.Decimal.Digits
import LinearProgram.Store.Utf8
import LinearProgram.Text.Quoted

namespace LinearProgram

/-- Why a path has no octets. -/
inductive Store.Refusal where
  | missing
  | denied
  | notDirectory
  | isDirectory
  | nameTooLong
  /-- The path holds the character zero. -/
  | zeroInPath
deriving DecidableEq, Repr

/-- What is kept at each path. -/
abbrev Store := Text → Except Store.Refusal Octets

namespace Store.Refusal

/-- The number and the words of the operating system for a refusal; a path with a zero in it is not
    its concern. -/
def system? : Refusal → Option (Nat × String)
  | missing => some (2, "No such file or directory")
  | denied => some (13, "Permission denied")
  | notDirectory => some (20, "Not a directory")
  | isDirectory => some (21, "Is a directory")
  | nameTooLong => some (36, "File name too long")
  | zeroInPath => none

/-- The refusal in words. -/
def message (path : Text) (refusal : Refusal) : String :=
  match refusal.system? with
  | some (number, words) =>
    let shown := String.ofList path.quoted
    s!"[Errno {String.ofList (Decimal.digits number)}] {words}: {shown}"
  | none => "embedded null byte"

end Store.Refusal

namespace Store

/-- Is there anything at the path? `none` where the question itself is refused: the path is too
    long to ask. A directory is something; a path with a zero in it is not asked for and leads to
    nothing. -/
def occupied? (store : Store) (path : Text) : Except Refusal Bool :=
  match store path with
  | .ok _ | .error .isDirectory | .error .denied => .ok true
  | .error .missing | .error .notDirectory | .error .zeroInPath => .ok false
  | .error .nameTooLong => .error .nameTooLong

end Store

end LinearProgram

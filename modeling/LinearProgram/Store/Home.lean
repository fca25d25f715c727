/-
  Home — paths that begin in a home directory.

  1. **Homes** — where the home directories of users are is up to the system. A directory that is
     itself written with a tilde is none.

  2. **Expansion** — a relative path begins in a home directory if its first component begins with
     a tilde: in the one of the user whose name stands behind the tilde, or of the user who runs
     the program. Any other path is only normalised.
-/

import LinearProgram.Failure
import LinearProgram.Store.Path

namespace LinearProgram

/-! ## Homes -/

/-- The home directories that the system knows, by the names of their users. The user who runs the
    program goes without a name. -/
abbrev Homes := Text → Option Text

/-- A directory without strokes at its end; nothing but strokes is the root. -/
def Path.withoutLastStrokes (directory : Text) : Text :=
  match (directory.reverse.dropWhile (· = '/')).reverse with
  | [] => ['/']
  | t => t

/-- The home directory of a user. -/
def Homes.directory (homes : Homes) (user : Text) : Except Failure Text :=
  if user.contains '\x00' then .error .zeroInPath
  else
    match (homes user).map Path.withoutLastStrokes with
    | none | some ('~' :: _) => .error .homeUnknown
    | some directory => .ok directory

/-! ## Expansion -/

namespace Path

/-- The user in whose home directory a path begins, and the components behind it. -/
def user? (path : Text) : Option (Text × List Text) :=
  match isAbsolute path, placeOf path with
  | false, ('~' :: user) :: rest => some (user, rest)
  | _, _ => none

/-- The normal path, with the home directory in which it begins. -/
def expanded (homes : Homes) (path : Text) : Except Failure Text :=
  match user? path with
  | none => .ok (normal path)
  | some (user, rest) =>
    match homes.directory user with
    | .error failure => .error failure
    | .ok directory => .ok (laid (root directory) (placeOf directory ++ rest))

theorem expanded_of_user? {path : Text} (h : user? path = none) (homes : Homes) :
    expanded homes path = .ok (normal path) := by
  unfold expanded
  rw [h]

/-- A path below the home directory of the user who runs the program. -/
example : expanded (fun _ => some "/home/x//".toList) "./~//models/m.lp".toList =
    .ok "/home/x/models/m.lp".toList := rfl

end Path

end LinearProgram

/-
  Path — names of stored documents.

  A path is a chain of components with strokes in between. `normal` gives it without empty
  components and without those that stay where they are; components that lead back are kept,
  because what they lead back from may not be there.
-/

import LinearProgram.Text.Basic

namespace LinearProgram.Path

/-- The components of a path, empty ones included. -/
def components (path : Text) : List Text := Text.splitAt '/' path

/-- Does the path start at the top of all directories? -/
def isAbsolute (path : Text) : Bool := path.head? == some '/'

/-- The strokes that an absolute path keeps in front: two if there are exactly two, else one. -/
def root (path : Text) : Text :=
  match (path.takeWhile (· = '/')).length with
  | 0 => []
  | 2 => ['/', '/']
  | _ => ['/']

/-- A component that stays in its directory. -/
def staysPut (component : Text) : Bool := component.isEmpty || component == ['.']

/-- The place that a path names: its components but for those that stay where they are. -/
def placeOf (path : Text) : List Text := (components path).filter (! staysPut ·)

/-- The path of components behind a root; a path of nothing at all is a point. -/
def laid (root : Text) (components : List Text) : Text :=
  match root ++ Text.join ['/'] components with
  | [] => ['.']
  | t => t

/-- The path without components that stay where they are. -/
def normal (path : Text) : Text := laid (root path) (placeOf path)

example : normal "./a//b/".toList = "a/b".toList := by decide

example : normal "///a/./../b".toList = "/a/../b".toList := by decide

example : normal [] = ['.'] := by decide

end LinearProgram.Path

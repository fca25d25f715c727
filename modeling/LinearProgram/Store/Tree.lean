/-
  Tree — a store that consists of directories and files below one working directory.

  1. **Places** — a place is a chain of names below the working directory, or it lies outside of
     it. Outside there are directories that can be passed through, and nothing else is known.

  2. **Walks** — `walk` follows the components of a path from place to place. A component is only
     looked for in a directory; a name must not be too long for one.

  3. **Stores** — `store` answers with the content of the file that a path leads to.
-/

import LinearProgram.Store.Basic
import LinearProgram.Store.Path

namespace LinearProgram.Store

/-- The files and the directories below the working directory, by their places. A directory is
    there also if a file or a directory is kept below it. -/
structure Tree where
  files : List (List Text × Octets) := []
  directories : List (List Text) := []

namespace Tree

/-- What is at a place. -/
inductive Node where
  | file (content : Octets)
  | directory
deriving DecidableEq

/-- Names below the working directory; `none` is outside. -/
abbrev Place := Option (List Text)

/-- The tree with one more file. -/
def addFile (t : Tree) (path : Text) (content : Octets) : Tree :=
  { t with files := t.files ++ [(Path.placeOf path, content)] }

/-- The tree with one more directory. -/
def addDirectory (t : Tree) (path : Text) : Tree :=
  { t with directories := t.directories ++ [Path.placeOf path] }

/-- What is at a chain of names. -/
def node? (t : Tree) (names : List Text) : Option Node :=
  match t.files.lookup names with
  | some content => some (.file content)
  | none =>
    if names.isEmpty || (t.files.map Prod.fst ++ t.directories).any names.isPrefixOf
    then some .directory else none

/-- How many octets a name may have. -/
def longestName : Nat := 255

/-- How many octets a path must stay below. -/
def pathLimit : Nat := 4096

/-- The number of octets of a text. -/
def octetCount (t : Text) : Nat := (String.ofList t).utf8ByteSize

/-- One component further. -/
def step (t : Tree) (place : Place) (component : Text) : Except Refusal Place :=
  match place with
  | none =>
    if octetCount component > longestName then .error .nameTooLong
    else if Path.staysPut component || component == ['.', '.'] then .ok none
    else .error .missing
  | some names =>
    match t.node? names with
    | none => .error .missing
    | some (.file _) => .error .notDirectory
    | some .directory =>
      if Path.staysPut component then .ok place
      else if component == ['.', '.'] then
        .ok (if names.isEmpty then none else some names.dropLast)
      else if octetCount component > longestName then .error .nameTooLong
      else if (t.node? (names ++ [component])).isSome then .ok (some (names ++ [component]))
      else .error .missing

/-- The place at the end of a walk. -/
def walk (t : Tree) : Place → List Text → Except Refusal Place
  | place, [] => .ok place
  | place, component :: rest =>
    match t.step place component with
    | .error refusal => .error refusal
    | .ok place => walk t place rest

/-- What a path leads to. -/
def store (t : Tree) : Store := fun path =>
  if path.contains '\x00' then .error .zeroInPath
  else if path.isEmpty then .error .missing
  else if pathLimit ≤ octetCount path then .error .nameTooLong
  else
    match t.walk (if Path.isAbsolute path then none else some []) (Path.components path) with
    | .error refusal => .error refusal
    | .ok none => .error .isDirectory
    | .ok (some names) =>
      match t.node? names with
      | some (.file content) => .ok content
      | some .directory => .error .isDirectory
      | none => .error .missing

end Tree

end LinearProgram.Store

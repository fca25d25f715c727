/-
  Value — what the nodes of a configuration stand for.

  1. **Scalars** — a scalar without quotes is a word for nothing, a truth value, a number, or else a
     text; dates are texts. A scalar between quotes is a text.

  2. **Order** — the nodes of one level have their values found before those of the next one. So of
     several defects the one of the highest level counts, and of these the first.

  3. **Mappings** — the keys of a mapping are scalars, and of two that agree the later one counts. The
     key `<<` takes over the entries of a mapping, or of several, unless the mapping has them.

  4. **Reading** — `read` is the value of a text.
-/

import LinearProgram.Markup.Node
import LinearProgram.Markup.Number
import LinearProgram.Settings.Basic

namespace LinearProgram.Markup

/-! ## Scalars -/

/-- The words for nothing. -/
def nullWords : List Text := [[], "~".toList, "null".toList, "Null".toList, "NULL".toList]

/-- The words for truth. -/
def trueWords : List Text :=
  [ "yes".toList, "Yes".toList, "YES".toList, "true".toList, "True".toList, "TRUE".toList,
    "on".toList, "On".toList, "ON".toList ]

/-- The words for falsehood. -/
def falseWords : List Text :=
  [ "no".toList, "No".toList, "NO".toList, "false".toList, "False".toList, "FALSE".toList,
    "off".toList, "Off".toList, "OFF".toList ]

/-- The key that takes over the entries of other mappings. -/
def mergeWord : Text := ['<', '<']

/-- The key of a mapping's own value; elsewhere it stands for nothing. -/
def defaultWord : Text := ['=']

/-- The value of a scalar without quotes. -/
def plainValue (t : Text) : Except Defect Scalar :=
  if nullWords.contains t then .ok .null
  else if trueWords.contains t then .ok (.bool true)
  else if falseWords.contains t then .ok (.bool false)
  else if t = mergeWord ∨ t = defaultWord then .error .value
  else
    match real? t, integer? t with
    | some x, _ => .ok (.real x)
    | none, some found => found.map .integer
    | none, none => .ok (.text t)

/-- A tag of the language itself. -/
def standardTag (name : String) : Text := standardFamily ++ name.toList

/-- The value of a scalar. -/
def scalarValue (tag? : Option Text) (isPlain : Bool) (t : Text) : Except Defect Scalar :=
  match tag? with
  | none => if isPlain then plainValue t else .ok (.text t)
  | some tag => if tag = standardTag "str" then .ok (.text t) else .error .value

/-! ## Order -/

/-- What was found, or the defect that counts, with its level. -/
abbrev Found (α : Type) := Except (Nat × Defect) α

/-- Something of a level. -/
def Found.ofLevel {α : Type} (level : Nat) : Except Defect α → Found α
  | .ok a => .ok a
  | .error defect => .error (level, defect)

/-- Two things that were found, the first one in front of the second. -/
def Found.both {α β γ : Type} (f : α → β → γ) : Found α → Found β → Found γ
  | .ok a, .ok b => .ok (f a b)
  | .error first, .ok _ => .error first
  | .ok _, .error second => .error second
  | .error first, .error second => .error (if second.1 < first.1 then second else first)

/-! ## Mappings -/

/-- The key that a node is. -/
def keyOf (level : Nat) : Node → Found Scalar
  | .scalar none true t =>
    if t = defaultWord then .ok (.text t) else .ofLevel level (plainValue t)
  | .scalar tag? isPlain t => .ofLevel level (scalarValue tag? isPlain t)
  | _ => .error (level, .value)

/-- Does the node take over the entries of other mappings? -/
def isMerge : Node → Bool
  | .scalar none true t => t == mergeWord
  | _ => false

/-- Is the node a mapping? -/
def isMapping : Node → Bool
  | .mapping .. => true
  | _ => false

/-- Is the node a mapping, or a list of mappings? -/
def holdsEntries : Node → Bool
  | .list _ elements => elements.all isMapping
  | node => isMapping node

/-- Do the entries take over others only from mappings? -/
def mergesEntries (entries : List (Node × Node)) : Bool :=
  entries.all fun (k, v) => ! isMerge k || holdsEntries v

/-- The entries of a mapping, or of several, those of later ones first. -/
def allEntries : Setting → Settings
  | .mapping entries => entries
  | .list settings => settings.reverse.flatMap fun
    | .mapping entries => entries
    | _ => []
  | _ => []

/-- The entries of a mapping while it is read. -/
structure Entries where
  /-- Those taken over from other mappings. -/
  merged : Settings := []
  own : Settings := []

/-- The mapping that entries make; its own ones come last and count. -/
def Entries.setting (entries : Entries) : Setting :=
  .mapping ((entries.merged ++ entries.own).foldl (fun s (k, v) => Settings.set s k v) [])

/-- Is a collection's tag the one that it has anyway? -/
def hasKind (name : String) (tag? : Option Text) : Bool :=
  tag?.all (· == standardTag name)

mutual

/-- The value of a node at a level. -/
def Node.value (level : Nat) : Node → Found Setting
  | .scalar tag? isPlain t => .ofLevel level ((scalarValue tag? isPlain t).map .single)
  | .list tag? elements =>
    if hasKind "seq" tag? then (elementValues (level + 1) elements).map .list
    else .error (level, .value)
  | .mapping tag? entries =>
    if ! hasKind "map" tag? then .error (level, .value)
    else if ! mergesEntries entries then .error (level + 1, .value)
    else (entryValues (level + 1) entries).map Entries.setting
  | .cycle => .error (level, .value)

/-- The values of elements. -/
def elementValues (level : Nat) : List Node → Found (List Setting)
  | [] => .ok []
  | e :: es => .both (· :: ·) (e.value level) (elementValues level es)

/-- The entries of a mapping. -/
def entryValues (level : Nat) : List (Node × Node) → Found Entries
  | [] => .ok {}
  | (k, v) :: es =>
    let value := v.value level
    let entries := entryValues level es
    if isMerge k then
      .both (fun taken es => { es with merged := allEntries taken ++ es.merged }) value entries
    else
      .both (fun entry es => { es with own := entry :: es.own })
        (.both (fun key value => (key, value)) (keyOf level k) value) entries

end

/-! ## Reading -/

/-- May the character occur in a configuration? Control characters may not, except a tabulator and
    those that end lines. -/
def mayOccur (c : Char) : Bool :=
  let n := c.toNat
  n == 0x09 || n == 0x0A || n == 0x0D || (0x20 ≤ n && n ≤ 0x7E) || n == 0x85
    || (0xA0 ≤ n && n ≤ 0xFFFD) || 0x10000 ≤ n

/-- A text without the byte order mark at its start. -/
def withoutMark : Text → Text
  | '\uFEFF' :: t => t
  | t => t

/-- The value that a text describes; its lines end with line feeds. A text without a document is
    nothing. -/
def read (t : Text) : Except Defect Setting :=
  if ! t.all mayOccur then .error .character
  else
    match document? (.ofText (withoutMark t)) with
    | .error defect => .error defect
    | .ok none => .ok .null
    | .ok (some root) => (root.value 0).mapError Prod.snd

end LinearProgram.Markup

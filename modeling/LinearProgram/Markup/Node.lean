/-
  Node — the parts of a configuration, and how its tokens make them.

  1. **Nodes** — a node is a scalar, a list or a mapping. It may have a tag; a scalar knows whether
     it was written without quotes.

  2. **Streams** — a stream is what is left of the tokens, and the nodes that were named so far.
     Whoever looks at the next token meets the defect of the text where the tokens run out.

  3. **Reading** — a node is told by its first token. Where a value is missing there is an empty
     scalar. A list in a mapping need not be indented below its key. Between brackets an entry makes
     a mapping of its own.

  4. **Documents** — a text holds one document at most.
-/

import LinearProgram.Markup.Front

namespace LinearProgram.Markup

/-! ## Nodes -/

/-- A part of a configuration. -/
inductive Node where
  | scalar (tag? : Option Text) (isPlain : Bool) (t : Text)
  | list (tag? : Option Text) (elements : List Node)
  | mapping (tag? : Option Text) (entries : List (Node × Node))
  /-- A node inside itself. -/
  | cycle
deriving Inhabited

/-- The scalar that stands where nothing is written. -/
def Node.empty : Node := .scalar none true []

/-! ## Streams -/

/-- What is left of the tokens, and what was named. -/
structure Stream where
  tokens : List Token
  defect : Option Defect := none
  /-- The named nodes; the last one of a name counts. A node that is not complete is none yet. -/
  names : List (Text × Option Node) := []

namespace Stream

/-- The next token. -/
def peek (s : Stream) : Except Defect Token :=
  match s.tokens with
  | token :: _ => .ok token
  | [] => .error (s.defect.getD .token)

/-- The stream behind the next token. -/
def drop (s : Stream) : Stream := { s with tokens := s.tokens.drop 1 }

/-- The node that an alias stands for. -/
def named (name : Text) (s : Stream) : Except Defect Node :=
  match s.names.lookup name with
  | some (some node) => .ok node
  | some none => .ok .cycle
  | none => .error .reference

/-- Names the node that follows, if it has a name, which must be a new one. -/
def opened (name? : Option Text) (s : Stream) : Except Defect Stream :=
  match name? with
  | none => .ok s
  | some name =>
    if (s.names.lookup name).isSome then .error .reference
    else .ok { s with names := (name, none) :: s.names }

/-- Completes a node that may have a name. -/
def complete (name? : Option Text) (node : Node) (s : Stream) : Node × Stream :=
  match name? with
  | none => (node, s)
  | some name => (node, { s with names := (name, some node) :: s.names })

end Stream

/-! ## Reading -/

/-- The anchor and the tag in front of a node. -/
structure Properties where
  name? : Option Text := none
  tag? : Option Token := none

/-- The anchor and the tag at the front of a stream, in either order. -/
def properties (s : Stream) : Except Defect (Properties × Stream) := do
  match ← s.peek with
  | .anchor name =>
    match ← s.drop.peek with
    | .tag family? tag => return (⟨some name, some (.tag family? tag)⟩, s.drop.drop)
    | _ => return (⟨some name, none⟩, s.drop)
  | .tag family? tag =>
    match ← s.drop.peek with
    | .anchor name => return (⟨some name, some (.tag family? tag)⟩, s.drop.drop)
    | _ => return (⟨none, some (.tag family? tag)⟩, s.drop)
  | _ => return ({}, s)

/-- What the tags of the language itself start with. -/
def standardFamily : Text := "tag:yaml.org,2002:".toList

/-- A tag with its family's full name. -/
def fullTag? : Option Token → Except Defect (Option Text)
  | some (.tag none name) => .ok (some name)
  | some (.tag (some ['!']) name) => .ok (some ('!' :: name))
  | some (.tag (some ['!', '!']) name) => .ok (some (standardFamily ++ name))
  | some _ => .error .arrangement
  | none => .ok none

/-- The tag of a node; a mere exclamation mark says nothing. -/
def ownTag? (tag? : Option Text) : Option Text := tag?.filter (· ≠ ['!'])

/-- Does a token end an entry of a block? -/
def endsEntry (token : Token) : Bool := [Token.key, .value, .blockEnd].contains token

/-- Reads what follows, unless the next token passes a test; then there is an empty scalar. -/
def orEmpty (test : Token → Bool) (read : Stream → Except Defect (Node × Stream)) (s : Stream) :
    Except Defect (Node × Stream) := do
  if test (← s.peek) then return (.empty, s) else read s

/-- Reads the value of an entry, if a colon is in front of it. -/
def valueOf (test : Token → Bool) (read : Stream → Except Defect (Node × Stream)) (s : Stream) :
    Except Defect (Node × Stream) := do
  if (← s.peek) = .value then orEmpty test read s.drop else return (.empty, s)

/-- Passes a comma, which must stand in front of all elements but the first one. -/
def passComma (first : Bool) (s : Stream) : Except Defect Stream := do
  if first then return s
  else if (← s.peek) = .comma then return s.drop
  else .error .arrangement

mutual

/-- The node at the front of a stream. It may be a block if `inBlock` holds, and a list that is not
    indented if `isValue` holds. -/
def node (inBlock isValue : Bool) : (fuel : Nat) → Stream → Except Defect (Node × Stream)
  | 0, _ => .error .arrangement
  | fuel + 1, s => do
    if let .sameAs name ← s.peek then
      return (← s.named name, s.drop)
    let (⟨name?, tag?⟩, s) ← properties s
    let tag? ← fullTag? tag?
    match ← s.peek with
    | .scalar t isPlain =>
      let s ← s.drop.opened name?
      let isPlain := if tag?.isSome then tag? == some ['!'] else isPlain
      return s.complete name? (.scalar (ownTag? tag?) isPlain t)
    | .bracketOpen =>
      let (es, s) ← bracketElements true fuel (← s.drop.opened name?)
      return s.complete name? (.list (ownTag? tag?) es)
    | .braceOpen =>
      let (es, s) ← braceEntries true fuel (← s.drop.opened name?)
      return s.complete name? (.mapping (ownTag? tag?) es)
    | token =>
      if token = .dash ∧ isValue then
        let (es, s) ← dashElements false fuel (← s.opened name?)
        return s.complete name? (.list (ownTag? tag?) es)
      else if token = .listStart ∧ inBlock then
        let (es, s) ← dashElements true fuel (← s.drop.opened name?)
        return s.complete name? (.list (ownTag? tag?) es)
      else if token = .mappingStart ∧ inBlock then
        let (es, s) ← blockEntries fuel (← s.drop.opened name?)
        return s.complete name? (.mapping (ownTag? tag?) es)
      else if name?.isSome ∨ tag?.isSome then
        let s ← s.opened name?
        let isPlain := (ownTag? tag?).isNone
        return s.complete name? (.scalar (ownTag? tag?) isPlain [])
      else .error .arrangement

/-- Elements with dashes; if they are `indented`, the end of the block is behind them. -/
def dashElements (indented : Bool) : (fuel : Nat) → Stream → Except Defect (List Node × Stream)
  | 0, _ => .error .arrangement
  | fuel + 1, s => do
    match ← s.peek with
    | .dash =>
      let ends (token : Token) : Bool :=
        token = .dash || (if indented then token = .blockEnd else endsEntry token)
      let (e, s) ← orEmpty ends (node true false fuel) s.drop
      let (es, s) ← dashElements indented fuel s
      return (e :: es, s)
    | .blockEnd => return ([], if indented then s.drop else s)
    | _ => if indented then .error .arrangement else return ([], s)

/-- Entries on lines of their own, and the end of the block behind them. -/
def blockEntries : (fuel : Nat) → Stream → Except Defect (List (Node × Node) × Stream)
  | 0, _ => .error .arrangement
  | fuel + 1, s => do
    match ← s.peek with
    | .key =>
      let (k, s) ← orEmpty endsEntry (node true true fuel) s.drop
      let (v, s) ← valueOf endsEntry (node true true fuel) s
      let (es, s) ← blockEntries fuel s
      return ((k, v) :: es, s)
    | .blockEnd => return ([], s.drop)
    | _ => .error .arrangement

/-- Elements between brackets, and the bracket behind them. -/
def bracketElements (first : Bool) :
    (fuel : Nat) → Stream → Except Defect (List Node × Stream)
  | 0, _ => .error .arrangement
  | fuel + 1, s => do
    if (← s.peek) = .bracketClose then return ([], s.drop)
    let s ← passComma first s
    match ← s.peek with
    | .bracketClose => return ([], s.drop)
    | .key =>
      let ends (token : Token) : Bool := token = .comma || token = .bracketClose
      let (k, s) ← orEmpty (fun token => ends token || token = .value) (node false false fuel) s.drop
      let (v, s) ← valueOf ends (node false false fuel) s
      let (es, s) ← bracketElements false fuel s
      return (.mapping none [(k, v)] :: es, s)
    | _ =>
      let (e, s) ← node false false fuel s
      let (es, s) ← bracketElements false fuel s
      return (e :: es, s)

/-- Entries between braces, and the brace behind them. -/
def braceEntries (first : Bool) :
    (fuel : Nat) → Stream → Except Defect (List (Node × Node) × Stream)
  | 0, _ => .error .arrangement
  | fuel + 1, s => do
    if (← s.peek) = .braceClose then return ([], s.drop)
    let s ← passComma first s
    match ← s.peek with
    | .braceClose => return ([], s.drop)
    | .key =>
      let ends (token : Token) : Bool := token = .comma || token = .braceClose
      let (k, s) ← orEmpty (fun token => ends token || token = .value) (node false false fuel) s.drop
      let (v, s) ← valueOf ends (node false false fuel) s
      let (es, s) ← braceEntries false fuel s
      return ((k, v) :: es, s)
    | _ =>
      let (k, s) ← node false false fuel s
      let (es, s) ← braceEntries false fuel s
      return ((k, .empty) :: es, s)

end

/-! ## Documents -/

/-- The stream behind the directives; only one may tell the version, which must be version one. -/
def passDirectives (told : Bool) : (fuel : Nat) → Stream → Except Defect Stream
  | 0, _ => .error .arrangement
  | fuel + 1, s => do
    match ← s.peek with
    | .directive none => passDirectives told fuel s.drop
    | .directive (some major) =>
      if told ∨ major ≠ 1 then .error .arrangement else passDirectives true fuel s.drop
    | _ => return s

/-- The stream behind the start of a document, with the directives in front of it. -/
def passStart (fuel : Nat) (s : Stream) : Except Defect Stream := do
  let s ← passDirectives false fuel s
  if (← s.peek) = .documentStart then return s.drop else .error .arrangement

/-- Makes sure that no document follows. -/
def passEnd : (fuel : Nat) → Stream → Except Defect Unit
  | 0, _ => .error .arrangement
  | fuel + 1, s => do
    match ← s.peek with
    | .documentEnd => passEnd fuel s.drop
    | .streamEnd => return ()
    | _ =>
      let _ ← passStart fuel s
      .error .reference

/-- Is nothing left of a document in front of a token? -/
def endsDocument : Token → Bool
  | .directive _ | .documentStart | .documentEnd | .streamEnd => true
  | _ => false

/-- The node of the document, unless there is none. Of two steps of the reading in a row one takes a
    token. -/
def document? (tokens : Tokens) : Except Defect (Option Node) := do
  let s : Stream := { tokens := tokens.tokens, defect := tokens.defect }
  let fuel := 2 * (tokens.tokens.length + 1)
  match ← s.peek with
  | .streamEnd => return none
  | .directive _ | .documentStart =>
    let s ← passStart fuel s
    let (root, s) ← orEmpty endsDocument (node true false fuel) s
    passEnd fuel s
    return some root
  | _ =>
    let (root, s) ← node true false fuel s
    passEnd fuel s
    return some root

end LinearProgram.Markup

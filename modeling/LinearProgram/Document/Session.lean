/-
  Session — the reading of a document, section by section.

  1. **State** — a session holds the draft and the cursor. Its readers may be called one by one;
     each insists on its section and leaves the draft as it is otherwise.

  2. **The whole document** — `parse` reads direction, objectives, constraints and declarations in
     this order and assembles the model. A fault that leaves `parse` carries its section and its
     line.
-/

import LinearProgram.Document.Constraints
import LinearProgram.Document.Declarations
import LinearProgram.Document.Objectives

namespace LinearProgram

/-- A document that is being read. -/
structure Session where
  draft : Draft := {}
  cursor : Cursor := .absent

namespace Session

/-- What came of a reader: its answer or its fault, and the session and the events either way. -/
structure Outcome (α : Type) where
  result : Except Fault α
  session : Session
  events : List Event

/-- Goes on with the answer, if there is one. -/
def Outcome.andThen {α β : Type} (o : Outcome α) (next : α → Session → Outcome β) : Outcome β :=
  match o.result with
  | .error fault => ⟨.error fault, o.session, o.events⟩
  | .ok a =>
    let o' := next a o.session
    { o' with events := o.events ++ o'.events }

/-- A session at the start of a source. -/
def ofSource (source : Source) : Session where
  cursor := .ofSource source

/-- The reader, where the session is in one of its sections. -/
def within {α : Type} (sections : List Section) (reader : Session → Outcome α) (s : Session) :
    Outcome α :=
  if s.draft.stage ∈ sections then reader s
  else ⟨.error { cause := .sectionOrder sections s.draft.stage }, s, []⟩

/-! ## The direction -/

/-- Reads the words of the direction line; the answer is what follows the direction. -/
def directionWords (number : Nat) (line : Text) (d : Draft) :
    Except Fault (Option Text) × Draft × List Event :=
  match line.firstWord? with
  | none => (.error { cause := .noWord line }, d, [])
  | some (word, rest) =>
    match Direction.ofWord? word with
    | none => (.error { cause := .unrecognizedDirection line, line := number }, d, [])
    | some direction =>
      (.ok rest, { d with direction := some direction, stage := .objective },
        [.foundDirection direction, .switched .objective])

/-- Reads the optimisation direction; the answer is the text behind it on its line, if any. -/
def readDirection : Session → Outcome (Option Text) :=
  within [.start] fun s =>
    match s.cursor.next true with
    | (.error fault, cursor) => ⟨.error fault, { s with cursor }, []⟩
    | (.ok line, cursor) =>
      match directionWords cursor.number line s.draft with
      | (result, draft, events) =>
        ⟨result, { draft, cursor }, .lineRead cursor.number line :: events⟩

/-! ## Objectives and constraints -/

/-- Reads with a step function from a line that was read before, if there is one, and from the
    cursor's lines on. -/
def run {σ α : Type} (first : Nat → Text → σ → Cursor.Turn σ α)
    (step : Nat → Text → σ → Cursor.Turn σ α) (pending : Option Text) (cursor : Cursor)
    (state : σ) : Cursor.Fed σ α :=
  match pending with
  | none => cursor.feed step state
  | some text =>
    match first cursor.number text state with
    | ⟨.more state, events⟩ =>
      let fed := cursor.feed step state
      { fed with events := events ++ fed.events }
    | ⟨.done state answer, events⟩ => ⟨.ok answer, state, cursor, events⟩
    | ⟨.failed state fault, events⟩ => ⟨.error fault, state, cursor, events⟩

/-- Reads the objectives; the answer is the first line of the constraints section, if it was read
    already. -/
def readObjectives (pending : Option Text) : Session → Outcome (Option Text) :=
  within [.objective] fun s =>
    if s.draft.direction.isNone then ⟨.error { cause := .noDirection }, s, []⟩
    else
      let fed := run Objectives.line Objectives.step pending s.cursor { draft := s.draft }
      match fed.result with
      | .ok answer =>
        ⟨.ok answer, ⟨Objectives.complete fed.state.draft, fed.cursor⟩, fed.events⟩
      | .error fault => ⟨.error fault, ⟨fed.state.draft, fed.cursor⟩, fed.events⟩

/-- Reads the constraints. -/
def readConstraints (pending : Option Text) : Session → Outcome Unit :=
  within [.constraints] fun s =>
    let fed := run Constraints.line Constraints.step pending s.cursor { draft := s.draft }
    ⟨fed.result, ⟨fed.state.draft, fed.cursor⟩, fed.events⟩

/-! ## Declarations -/

/-- Reads declarations with a step function. -/
def declare (step : Nat → Text → Draft → Cursor.Turn Draft Unit) (s : Session) : Outcome Unit :=
  let fed := s.cursor.feed step s.draft
  ⟨fed.result, ⟨fed.state, fed.cursor⟩, fed.events⟩

/-- Reads the lines of a bounds section and the keyword behind it. -/
def readBounds : Session → Outcome Unit := within [.bounds] (declare Declarations.step)

/-- Reads the lines of a binary or general section and the keyword behind it. -/
def readKinds : Session → Outcome Unit :=
  within [.binary, .general] fun s =>
    if (Declarations.kind? s.draft.stage).isNone then
      ⟨.error { cause := .noKind s.draft.stage }, s, []⟩
    else declare Declarations.step s

/-- Reads one declaring section: the bounds section, or else one that gives a kind. -/
def readDeclaring (s : Session) : Outcome Unit :=
  if s.draft.stage = .bounds then readBounds s else readKinds s

theorem within_lines_lt {α : Type} {sections : List Section} {reader : Session → Outcome α}
    {s : Session} {a : α}
    (hreader : (reader s).result = .ok a →
      (reader s).session.cursor.lines.length < s.cursor.lines.length)
    (h : (within sections reader s).result = .ok a) :
    (within sections reader s).session.cursor.lines.length < s.cursor.lines.length := by
  unfold within at h ⊢
  split
  · next hs =>
    rw [if_pos hs] at h
    exact hreader h
  · next hs =>
    rw [if_neg hs] at h
    cases h

/-- A section that was read to its end has taken at least one line. -/
theorem readDeclaring_lines_lt {s : Session} (h : (readDeclaring s).result = .ok ()) :
    (readDeclaring s).session.cursor.lines.length < s.cursor.lines.length := by
  unfold readDeclaring at h ⊢
  split
  · next hs =>
    rw [if_pos hs] at h
    exact within_lines_lt Cursor.feed_lines_lt h
  · next hs =>
    rw [if_neg hs] at h
    refine within_lines_lt (fun h => ?_) h
    split at h
    · cases h
    · next hk =>
      rw [if_neg hk]
      exact Cursor.feed_lines_lt h

/-- Reads all declarations, section by section, up to the end marker. -/
def readDeclarations (s : Session) : Outcome Unit :=
  if s.draft.stage = .finish then ⟨.ok (), s, []⟩
  else
    match _h : readDeclaring s with
    | ⟨.error fault, s, events⟩ => ⟨.error fault, s, events⟩
    | ⟨.ok (), s, events⟩ =>
      let rest := readDeclarations s
      { rest with events := events ++ rest.events }
termination_by s.cursor.lines.length
decreasing_by simpa [_h] using readDeclaring_lines_lt (congrArg Outcome.result _h)

theorem readDeclarations_eq (s : Session) :
    readDeclarations s =
      if s.draft.stage = .finish then ⟨.ok (), s, []⟩
      else (readDeclaring s).andThen fun _ s => readDeclarations s := by
  rw [readDeclarations]
  split
  · rfl
  · split <;> next h => simp [h, Outcome.andThen]

/-! ## The model -/

/-- The answers for all members of a list, or the first cause. -/
def checkAll {α β : Type} (check : α → Except Cause β) : List α → Except Cause (List β)
  | [] => .ok []
  | a :: rest =>
    match check a with
    | .error cause => .error cause
    | .ok b =>
      match checkAll check rest with
      | .error cause => .error cause
      | .ok bs => .ok (b :: bs)

/-- The model that a complete draft describes. -/
def modelOf (d : Draft) : Except Cause Model :=
  match checkAll Objective.check d.objectives with
  | .error cause => .error cause
  | .ok objectives =>
    match checkAll Column.finish d.table with
    | .error cause => .error cause
    | .ok vars => .ok { objectives, constraints := d.constraints, vars }

/-- Assembles the model once the end marker was read. -/
def assemble : Session → Outcome Model :=
  within [.finish] fun s =>
    match modelOf s.draft with
    | .ok model => ⟨.ok model, s, []⟩
    | .error cause => ⟨.error { cause := cause }, s, []⟩

/-! ## Whole documents -/

/-- Reads constraints where the session has come to them. -/
def readConstraintsIfAny (pending : Option Text) (s : Session) : Outcome Unit :=
  if s.draft.stage = .constraints then readConstraints pending s else ⟨.ok (), s, []⟩

/-- Reads the sections in order, from the cursor on. -/
def readAll (s : Session) : Outcome Model :=
  (readDirection s).andThen fun rest s =>
    (readObjectives rest s).andThen fun pending s =>
      (readConstraintsIfAny pending s).andThen fun _ s =>
        (readDeclarations s).andThen fun _ s => assemble s

/-- An outcome whose fault, if there is one, carries the section and the line that were reached. -/
def Outcome.located {α : Type} (o : Outcome α) : Outcome α :=
  { o with result :=
      match o.result with
      | .ok a => .ok a
      | .error fault => .error (fault.locatedBy o.session.draft.stage o.session.cursor.number) }

/-- Reads a whole document in this session. -/
def parse (source : Source) (s : Session) : Outcome Model :=
  (readAll { s with cursor := .ofSource source }).located

end Session

/-- The model that a source describes, or what is wrong with it. -/
def Source.model (source : Source) : Except Fault Model := (Session.parse source {}).result

end LinearProgram

/-
  Progress — the reading of a document as one machine that takes line after line.

  1. **Lines** — a `Line` is the content of a line together with its number.

  2. **Progress** — how far the reading has come: in front of the direction, among the objectives,
     the constraints or the declarations, or at its end, with a model or a fault. A `step` takes one
     line; a line that belongs to two parts of the document, such as a direction with an objective
     behind it or a constraint that follows the objectives directly, is one step all the same.

  3. **Documents** — reading a source section by section gives what the machine gives that takes its
     lines one by one (`Source.model_eq_outcome`), and reads as many lines as the machine takes
     (`Source.linesRead_eq_taken`). What is to be shown of whole documents can thus be shown by
     induction on their lines.
-/

import LinearProgram.Proofs.Document.Course

namespace LinearProgram

open Cursor (Verdict)

/-! ## Lines -/

/-- The content of a line, and its number. -/
structure Line where
  number : Nat
  text : Text
deriving DecidableEq

/-- The contents of raw lines, with `n` lines in front of them. -/
def Line.numbered (n : Nat) : List Text → List Line
  | [] => []
  | raw :: rest => ⟨n + 1, raw.content⟩ :: numbered (n + 1) rest

/-! ## Progress -/

/-- How far the reading of a document has come. -/
inductive Progress where
  | start
  | objectives (s : Objectives.State)
  | constraints (s : Constraints.State)
  | declarations (d : Draft)
  | ended (result : Except Fault Model)

namespace Progress

/-- A fault that is met at the line of a number. -/
def failed (n : Nat) (d : Draft) (fault : Fault) : Progress :=
  .ended (.error (fault.locatedBy d.stage n))

/-- Behind the line of a section keyword: the model is assembled behind the end marker, and
    declarations are read otherwise. -/
def behindKeyword (n : Nat) (d : Draft) : Progress :=
  if d.stage = .finish then
    match Session.modelOf d with
    | .ok model => .ended (.ok model)
    | .error cause => failed n d { cause := cause }
  else .declarations d

/-- Behind a line of the bounds, binary or general section. -/
def ofDeclarations (n : Nat) : Verdict Draft Unit → Progress
  | .more d => .declarations d
  | .done d _ => behindKeyword n d
  | .failed d fault => failed n d fault

/-- Behind a line of the constraints section. -/
def ofConstraints (n : Nat) : Verdict Constraints.State Unit → Progress
  | .more s => .constraints s
  | .done s _ => behindKeyword n s.draft
  | .failed s fault => failed n s.draft fault

/-- Behind the line that has ended the objectives; it is read again if it belongs to the
    constraints. -/
def behindObjectives (n : Nat) (d : Draft) (pending : Option Text) : Progress :=
  if d.stage = .constraints then
    match pending with
    | none => .constraints { draft := d }
    | some text => ofConstraints n (Constraints.line n text { draft := d }).verdict
  else behindKeyword n d

/-- Behind a line of the objective section. -/
def ofObjectives (n : Nat) : Verdict Objectives.State (Option Text) → Progress
  | .more s => .objectives s
  | .done s pending => behindObjectives n (Objectives.complete s.draft) pending
  | .failed s fault => failed n s.draft fault

/-- Behind the line of the direction; what follows the direction is read as an objective. -/
def ofDirection (n : Nat) : Except Fault (Option Text) × Draft × List Event → Progress
  | (.error fault, d, _) => failed n d fault
  | (.ok none, d, _) => .objectives { draft := d }
  | (.ok (some text), d, _) => ofObjectives n (Objectives.line n text { draft := d }).verdict

/-- Takes one line. -/
def step (p : Progress) (l : Line) : Progress :=
  match p with
  | .start =>
    if l.text.isEmpty then .start
    else ofDirection l.number (Session.directionWords l.number l.text {})
  | .objectives s => ofObjectives l.number (Objectives.step l.number l.text s).verdict
  | .constraints s => ofConstraints l.number (Constraints.step l.number l.text s).verdict
  | .declarations d => ofDeclarations l.number (Declarations.step l.number l.text d).verdict
  | .ended result => .ended result

/-- Takes one line after the other. -/
def run (p : Progress) (ls : List Line) : Progress := ls.foldl step p

/-- What has been reached if there are no further lines behind the first `n`. -/
def outcome (ending : Source.Ending) (n : Nat) : Progress → Except Fault Model
  | .start => .error (Fault.locatedBy ⟨ending.cause, n, none⟩ .start n)
  | .objectives s => .error (Fault.locatedBy ⟨ending.cause, n, none⟩ s.draft.stage n)
  | .constraints s => .error (Fault.locatedBy ⟨ending.cause, n, none⟩ s.draft.stage n)
  | .declarations d => .error (Fault.locatedBy ⟨ending.cause, n, none⟩ d.stage n)
  | .ended result => result

/-- Is nothing read any more? -/
def isEnded : Progress → Bool
  | .ended _ => true
  | _ => false

/-- How many of the lines are taken until the reading has ended. -/
def taken : Progress → List Line → Nat
  | _, [] => 0
  | p, l :: ls => if p.isEnded then 0 else taken (p.step l) ls + 1

/-- What comes of the lines behind the first `n`, and the number of the last line that is read. -/
def account (ending : Source.Ending) (n : Nat) (p : Progress) (lines : List Text) :
    Except Fault Model × Nat :=
  ((p.run (Line.numbered n lines)).outcome ending (n + lines.length),
    n + p.taken (Line.numbered n lines))

theorem run_append (p : Progress) (ls ls' : List Line) : p.run (ls ++ ls') = (p.run ls).run ls' :=
  List.foldl_append

theorem run_cons (p : Progress) (l : Line) (ls : List Line) : p.run (l :: ls) = (p.step l).run ls :=
  rfl

/-- **Nothing behind the end is read.** -/
theorem run_ended (result : Except Fault Model) (ls : List Line) :
    run (.ended result) ls = .ended result := by
  induction ls with
  | nil => rfl
  | cons l ls ih => exact ih

/-- A blank line leaves everything as it is. -/
theorem step_blank (p : Progress) (n : Nat) : p.step ⟨n, []⟩ = p := by
  cases p <;> rfl

theorem taken_cons {p : Progress} (h : p.isEnded = false) (l : Line) (ls : List Line) :
    p.taken (l :: ls) = (p.step l).taken ls + 1 := by
  rw [taken, h, if_neg Bool.false_ne_true]

theorem taken_ended (result : Except Fault Model) (ls : List Line) :
    taken (.ended result) ls = 0 := by
  cases ls <;> rfl

theorem account_ended (ending : Source.Ending) (n : Nat) (result : Except Fault Model)
    (lines : List Text) : account ending n (.ended result) lines = (result, n) := by
  rw [account, run_ended, taken_ended]
  rfl

/-- The account from a line on is the account behind it. -/
theorem account_cons (ending : Source.Ending) (n : Nat) {p : Progress} (h : p.isEnded = false)
    (raw : Text) (rest : List Text) :
    account ending n p (raw :: rest) =
      account ending (n + 1) (p.step ⟨n + 1, raw.content⟩) rest := by
  unfold account
  rw [Line.numbered, run_cons, taken_cons h, List.length_cons, Nat.add_right_comm n 1,
    Nat.add_right_comm n 1]
  rfl

end Progress

/-! ## Readers -/

namespace Session

variable {α β σ : Type}

theorem andThen_assoc {γ : Type} (o : Outcome α) (f : α → Session → Outcome β)
    (g : β → Session → Outcome γ) :
    (o.andThen f).andThen g = o.andThen fun a s => (f a s).andThen g := by
  obtain ⟨result, s, events⟩ := o
  cases result with
  | error fault => rfl
  | ok a =>
    show Outcome.andThen ⟨(f a s).result, (f a s).session, events ++ (f a s).events⟩ g =
      ⟨((f a s).andThen g).result, ((f a s).andThen g).session,
        events ++ ((f a s).andThen g).events⟩
    rcases f a s with ⟨result', s', events'⟩
    cases result' with
    | error fault => rfl
    | ok b => simp only [Outcome.andThen, List.append_assoc]

/-- What finally comes of a reader, and the number of the last line that was read. -/
def Outcome.account (o : Outcome α) : Except Fault α × Nat :=
  (o.located.result, o.session.cursor.number)

/-- What finally comes of two readers, one after the other. -/
theorem account_andThen (o : Outcome α) (next : α → Session → Outcome β) :
    (o.andThen next).account =
      match o.result with
      | .error fault =>
        (.error (fault.locatedBy o.session.draft.stage o.session.cursor.number),
          o.session.cursor.number)
      | .ok a => (next a o.session).account := by
  obtain ⟨result, s, events⟩ := o
  cases result <;> rfl

/-- What finally comes of a reader that hands out lines, if `next` is what comes behind it. -/
def finally? (draft : σ → Draft) (next : α → σ → Cursor → Except Fault Model × Nat)
    (fed : Cursor.Fed σ α) : Except Fault Model × Nat :=
  match fed.result with
  | .error fault =>
    (.error (fault.locatedBy (draft fed.state).stage fed.cursor.number), fed.cursor.number)
  | .ok a => next a fed.state fed.cursor

/-- The machine at the place of a reader does what the reader does, up to a number of lines. -/
structure Follows (ending : Source.Ending) (bound : Nat) (step : Nat → Text → σ → Cursor.Turn σ α)
    (draft : σ → Draft) (next : α → σ → Cursor → Except Fault Model × Nat) (Inv : σ → Prop)
    (place : σ → Progress) : Prop where
  reading : ∀ s, (place s).isEnded = false
  more : ∀ {n text s s'}, Inv s → (step n text s).verdict = .more s' →
    (place s).step ⟨n, text⟩ = place s' ∧ Inv s'
  done : ∀ {n text s s' a}, Inv s → (step n text s).verdict = .done s' a →
    ∀ rest : List Text, rest.length < bound →
      next a s' ⟨rest, ending, n⟩ = ((place s).step ⟨n, text⟩).account ending n rest
  failed : ∀ {n text s s' fault}, Inv s → (step n text s).verdict = .failed s' fault →
    (place s).step ⟨n, text⟩ = Progress.failed n (draft s') fault
  ending : ∀ n s, (place s).outcome ending n =
    .error (Fault.locatedBy ⟨ending.cause, n, none⟩ (draft s).stage n)

/-- **The machine follows a reader** line by line. -/
theorem Follows.finally {ending : Source.Ending} {bound : Nat}
    {step : Nat → Text → σ → Cursor.Turn σ α} {draft : σ → Draft}
    {next : α → σ → Cursor → Except Fault Model × Nat} {Inv : σ → Prop} {place : σ → Progress}
    (h : Follows ending bound step draft next Inv place) {lines : List Text} {n : Nat} {s : σ}
    (hs : Inv s) (hlines : lines.length ≤ bound) :
    finally? draft next (Cursor.feedOf ending step lines n s) =
      (place s).account ending n lines := by
  induction lines generalizing n s with
  | nil => exact congrArg (·, n) (h.ending n s).symm
  | cons raw rest ih =>
    rw [List.length_cons] at hlines
    rw [Progress.account_cons ending n (h.reading s), Cursor.feedOf]
    rcases hturn : step (n + 1) raw.content s with ⟨verdict, events⟩
    have hverdict : (step (n + 1) raw.content s).verdict = verdict := by rw [hturn]
    cases verdict with
    | more s' =>
      obtain ⟨hplace, hs'⟩ := h.more hs hverdict
      rw [hplace]
      exact ih hs' (by omega)
    | done s' a => exact h.done hs hverdict rest (by omega)
    | failed s' fault =>
      rw [h.failed hs hverdict, Progress.failed, Progress.account_ended]
      rfl

/-! ### Declarations -/

/-- What comes of the declarations and the end marker. -/
def restOfDeclarations (s : Session) : Except Fault Model × Nat :=
  ((readDeclarations s).andThen fun _ s => assemble s).account

/-- Behind the end marker the model is assembled. -/
theorem restOfDeclarations_finish {d : Draft} (h : d.stage = .finish) (ending : Source.Ending)
    (n : Nat) (rest : List Text) :
    restOfDeclarations ⟨d, ⟨rest, ending, n⟩⟩ =
      (Progress.behindKeyword n d).account ending n rest := by
  unfold restOfDeclarations Progress.behindKeyword
  rw [readDeclarations_eq, if_pos h, if_pos h, account_andThen]
  dsimp only
  unfold assemble
  rw [within_eq (List.mem_singleton.mpr h)]
  dsimp only
  cases modelOf d with
  | ok m =>
    dsimp only
    rw [Progress.account_ended]
    rfl
  | error cause =>
    dsimp only
    rw [Progress.failed, Progress.account_ended]
    rfl

theorem declarations_follows (ending : Source.Ending) {bound : Nat}
    (ih : ∀ (d : Draft) (rest : List Text) (n : Nat), rest.length < bound → d.stage.Declares →
      restOfDeclarations ⟨d, ⟨rest, ending, n⟩⟩ =
        Progress.account ending n (.declarations d) rest) :
    Follows ending bound Declarations.step id (fun _ d c => restOfDeclarations ⟨d, c⟩)
      (fun d => d.stage.Declares) .declarations where
  reading _ := rfl
  more {n text d d'} hd hverdict := by
    have hstays := Declarations.stays_effect hd (Declarations.step_effect n text d)
    rw [hverdict] at hstays
    refine ⟨?_, hstays⟩
    show Progress.ofDeclarations n (Declarations.step n text d).verdict = _
    rw [hverdict]
    rfl
  done {n text d d' a} hd hverdict rest hrest := by
    have hstays := Declarations.stays_effect hd (Declarations.step_effect n text d)
    rw [hverdict] at hstays
    show _ = (Progress.ofDeclarations n (Declarations.step n text d).verdict).account _ _ _
    rw [hverdict]
    by_cases hfinish : d'.stage = .finish
    · exact restOfDeclarations_finish hfinish _ _ _
    · show _ = (Progress.behindKeyword n d').account _ _ _
      rw [Progress.behindKeyword, if_neg hfinish]
      exact ih d' rest n hrest (Or.resolve_right hstays hfinish)
  failed {n text d d' fault} _ hverdict := by
    show Progress.ofDeclarations n (Declarations.step n text d).verdict = _
    rw [hverdict]
    rfl
  ending _ _ := rfl

/-- Declarations, by induction on the lines that are left. -/
theorem restOfDeclarations_eq (ending : Source.Ending) (d : Draft) (lines : List Text) (n : Nat)
    (h : d.stage.Declares) :
    restOfDeclarations ⟨d, ⟨lines, ending, n⟩⟩ =
      Progress.account ending n (.declarations d) lines := by
  induction hk : lines.length using Nat.strongRecOn generalizing d lines n with
  | ind k ih =>
    subst hk
    have hfollows := @declarations_follows ending lines.length
      fun d rest n hrest hd => ih rest.length hrest d rest n hd rfl
    have hne : d.stage ≠ .finish := by
      rintro h'
      rw [h'] at h
      rcases h with h | h | h <;> cases h
    rw [← hfollows.finally h (Nat.le_refl _)]
    unfold restOfDeclarations
    rw [readDeclarations_eq, if_neg hne, readDeclaring_eq h, andThen_assoc, account_andThen]
    rfl

/-! ### Constraints -/

/-- What comes of the constraints, if there are any, and of all that is behind them. -/
def restOfConstraints (pending : Option Text) (s : Session) : Except Fault Model × Nat :=
  ((readConstraintsIfAny pending s).andThen fun _ s =>
    (readDeclarations s).andThen fun _ s => assemble s).account

/-- Behind a section keyword: the end of the document, or declarations. -/
theorem restOfDeclarations_keyword (ending : Source.Ending) {d : Draft}
    (h : d.stage.Declares ∨ d.stage = .finish) (n : Nat) (rest : List Text) :
    restOfDeclarations ⟨d, ⟨rest, ending, n⟩⟩ =
      (Progress.behindKeyword n d).account ending n rest := by
  by_cases hfinish : d.stage = .finish
  · exact restOfDeclarations_finish hfinish _ _ _
  · rw [Progress.behindKeyword, if_neg hfinish]
    exact restOfDeclarations_eq ending d rest n (h.resolve_right hfinish)

theorem constraints_follows (ending : Source.Ending) (bound : Nat) :
    Follows ending bound Constraints.step Constraints.State.draft
      (fun _ s c => restOfDeclarations ⟨s.draft, c⟩) (fun s => s.draft.stage = .constraints)
      .constraints where
  reading _ := rfl
  more {n text s s'} hs hverdict := by
    have hstays := Constraints.stays_effect hs (Constraints.step_effect n text s)
    rw [hverdict] at hstays
    refine ⟨?_, hstays⟩
    show Progress.ofConstraints n (Constraints.step n text s).verdict = _
    rw [hverdict]
    rfl
  done {n text s s' a} hs hverdict rest _ := by
    have hstays := Constraints.stays_effect hs (Constraints.step_effect n text s)
    rw [hverdict] at hstays
    show _ = (Progress.ofConstraints n (Constraints.step n text s).verdict).account _ _ _
    rw [hverdict]
    exact restOfDeclarations_keyword ending hstays n rest
  failed {n text s s' fault} _ hverdict := by
    show Progress.ofConstraints n (Constraints.step n text s).verdict = _
    rw [hverdict]
    rfl
  ending _ _ := rfl

/-- Behind the line that has ended the objectives. -/
theorem restOfConstraints_eq (ending : Source.Ending) {d : Draft}
    (h : d.stage.FollowsObjectives) (pending : Option Text) (n : Nat) (rest : List Text) :
    restOfConstraints pending ⟨d, ⟨rest, ending, n⟩⟩ =
      (Progress.behindObjectives n d pending).account ending n rest := by
  unfold restOfConstraints readConstraintsIfAny Progress.behindObjectives
  by_cases hconstraints : d.stage = .constraints
  · have hfollows := constraints_follows ending rest.length
    have hfeed : ∀ s : Constraints.State, s.draft.stage = .constraints → _ :=
      fun s hs => hfollows.finally (s := s) (n := n) hs (Nat.le_refl _)
    rw [if_pos hconstraints, if_pos hconstraints, account_andThen]
    unfold readConstraints
    rw [within_eq (List.mem_singleton.mpr hconstraints)]
    cases pending with
    | none => exact hfeed { draft := d } hconstraints
    | some text =>
      have heffect := Constraints.line_effect n text { draft := d }
      have hstays := Constraints.stays_effect hconstraints heffect
      dsimp only [run]
      rcases hturn : Constraints.line n text { draft := d } with ⟨verdict, events⟩
      rw [hturn] at hstays
      cases verdict with
      | more s => exact hfeed s hstays
      | done s a => exact restOfDeclarations_keyword ending hstays n rest
      | failed s fault =>
        dsimp only [Progress.ofConstraints]
        rw [Progress.failed, Progress.account_ended]
  · rw [if_neg hconstraints, if_neg hconstraints]
    exact restOfDeclarations_keyword ending (h.resolve_left hconstraints) n rest

/-! ### Objectives -/

/-- What comes of the objectives and of all that is behind them. -/
def restOfObjectives (rest : Option Text) (s : Session) : Except Fault Model × Nat :=
  ((readObjectives rest s).andThen fun pending s =>
    (readConstraintsIfAny pending s).andThen fun _ s =>
      (readDeclarations s).andThen fun _ s => assemble s).account

theorem objectives_follows (ending : Source.Ending) (bound : Nat) :
    Follows ending bound Objectives.step Objectives.State.draft
      (fun pending s c => restOfConstraints pending ⟨Objectives.complete s.draft, c⟩)
      Objectives.State.Stays .objectives where
  reading _ := rfl
  more {n text s s'} hs hverdict := by
    have hstays := Objectives.stays_effect hs (Objectives.step_effect n text s)
    rw [hverdict] at hstays
    refine ⟨?_, hstays⟩
    show Progress.ofObjectives n (Objectives.step n text s).verdict = _
    rw [hverdict]
    rfl
  done {n text s s' pending} hs hverdict rest _ := by
    have hstays := Objectives.stays_effect hs (Objectives.step_effect n text s)
    rw [hverdict] at hstays
    show _ = (Progress.ofObjectives n (Objectives.step n text s).verdict).account _ _ _
    rw [hverdict]
    refine restOfConstraints_eq ending ?_ pending n rest
    rw [Objectives.complete_stage]
    exact hstays
  failed {n text s s' fault} _ hverdict := by
    show Progress.ofObjectives n (Objectives.step n text s).verdict = _
    rw [hverdict]
    rfl
  ending _ _ := rfl

/-- The state in which the objectives begin. -/
def directed (direction : Direction) : Draft :=
  { direction := some direction, stage := .objective }

/-- What comes of the lines of the objectives comes of all that is behind them. -/
theorem restOfObjectives_of_fed (direction : Direction) (text? : Option Text) (c : Cursor) :
    restOfObjectives text? ⟨directed direction, c⟩ =
      finally? Objectives.State.draft
        (fun pending s c => restOfConstraints pending ⟨Objectives.complete s.draft, c⟩)
        (run Objectives.line Objectives.step text? c { draft := directed direction }) := by
  have hstage : (directed direction).stage ∈ [Section.objective] := List.mem_singleton.mpr rfl
  have hknown : (directed direction).direction.isNone = false := rfl
  unfold restOfObjectives
  rw [account_andThen]
  unfold readObjectives
  rw [within_eq hstage, if_neg (by rw [hknown]; decide)]
  dsimp only
  rcases run Objectives.line Objectives.step text? c { draft := directed direction } with
    ⟨result, s, c', events⟩
  cases result <;> rfl

/-- Behind the direction. -/
theorem restOfObjectives_eq (ending : Source.Ending) (direction : Direction)
    (text? : Option Text) (n : Nat) (rest : List Text) (events : List Event) :
    restOfObjectives text? ⟨directed direction, ⟨rest, ending, n⟩⟩ =
      (Progress.ofDirection n (.ok text?, directed direction, events)).account ending n rest := by
  have hfollows := objectives_follows ending rest.length
  have hfeed : ∀ s : Objectives.State, s.Stays → _ :=
    fun s hs => hfollows.finally (s := s) (n := n) hs (Nat.le_refl _)
  have hstays : Objectives.State.Stays { draft := directed direction } :=
    ⟨rfl, Option.some_ne_none direction⟩
  rw [restOfObjectives_of_fed]
  cases text? with
  | none => exact hfeed _ hstays
  | some text =>
    have heffect := Objectives.line_effect n text { draft := directed direction }
    have hleads := Objectives.stays_effect hstays heffect
    show _ = (Progress.ofObjectives n (Objectives.line n text _).verdict).account _ _ _
    dsimp only [run]
    rcases hturn : Objectives.line n text { draft := directed direction } with ⟨verdict, told⟩
    rw [hturn] at hleads
    cases verdict with
    | more s => exact hfeed s hleads
    | done s pending =>
      refine restOfConstraints_eq ending ?_ pending n rest
      rw [Objectives.complete_stage]
      exact hleads
    | failed s fault =>
      dsimp only [Progress.ofObjectives]
      rw [Progress.failed, Progress.account_ended]
      rfl

/-! ### The direction -/

/-- The words of the direction line lead to the objectives, or to a fault. -/
theorem directionWords_cases (n : Nat) (line : Text) :
    (∃ rest direction events, directionWords n line {} = (.ok rest, directed direction, events)) ∨
      ∃ fault, directionWords n line {} = (.error fault, {}, []) := by
  unfold directionWords
  split
  · exact Or.inr ⟨_, rfl⟩
  · split
    · exact Or.inr ⟨_, rfl⟩
    · exact Or.inl ⟨_, _, _, rfl⟩

/-- A document, from one of the lines in front of its direction on. -/
theorem readAll_eq (ending : Source.Ending) (lines : List Text) (n : Nat) :
    (readAll { cursor := ⟨lines, ending, n⟩ }).account =
      Progress.account ending n .start lines := by
  have hstage : Section.start ∈ [Section.start] := List.mem_singleton.mpr rfl
  unfold readAll
  rw [account_andThen]
  unfold readDirection
  rw [within_eq hstage]
  dsimp only [Cursor.next]
  induction lines generalizing n with
  | nil => rfl
  | cons raw rest ih =>
    rw [Cursor.nextOf, Progress.account_cons ending n rfl, Progress.step]
    by_cases hraw : raw.content.isEmpty = true
    · -- lines without content in front of the direction are passed over
      rw [if_pos (by simp [hraw]), if_pos hraw]
      exact ih (n + 1)
    · rw [if_neg (by simp [hraw]), if_neg hraw]
      dsimp only
      rcases directionWords_cases (n + 1) raw.content with ⟨text?, direction, events, h⟩ | ⟨f, h⟩
      · rw [h]
        exact restOfObjectives_eq ending direction text? (n + 1) rest events
      · rw [h]
        dsimp only [Progress.ofDirection]
        rw [Progress.failed, Progress.account_ended]

end Session

/-! ## Documents -/

/-- The lines of a source that were read. -/
def Source.numbered (source : Source) : List Line := Line.numbered 0 source.lines

/-- How many lines of a source are read. -/
def Source.linesRead (source : Source) : Nat := (Session.parse source {}).session.cursor.number

/-- **Reading section by section is taking line after line.** -/
theorem Source.model_eq_outcome (source : Source) :
    source.model =
      (Progress.run .start source.numbered).outcome source.ending source.lines.length := by
  have h := congrArg Prod.fst (Session.readAll_eq source.ending source.lines 0)
  unfold Progress.account at h
  rw [Nat.zero_add] at h
  exact h

/-- **As many lines are read as are taken.** -/
theorem Source.linesRead_eq_taken (source : Source) :
    source.linesRead = Progress.taken .start source.numbered := by
  have h := congrArg Prod.snd (Session.readAll_eq source.ending source.lines 0)
  exact h.trans (Nat.zero_add _)

end LinearProgram

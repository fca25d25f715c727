/-
  Renumbering — reading does not depend on the numbers of lines.

  1. **Renumberings** — the lines of a document get other numbers. Zero stands for a line that is
     not known, so that it is kept, and no other number becomes zero.

  2. **Steps** — numbers are only handed on: to constraints, which say where they begin, and to
     faults. Taking a line and then renumbering is the same as renumbering and then taking the line
     under its new number (`Progress.step_renumbered`), part by part.

  3. **Runs** — so texts that are read alike under one numbering are read alike under all
     (`Progress.run_renumbered`).
-/

import LinearProgram.Proofs.Document.Progress
import LinearProgram.Proofs.Document.Step

namespace LinearProgram

open Cursor (Verdict)

/-! ## Renumberings -/

/-- A change of line numbers. -/
structure Renumbering where
  apply : Nat → Nat
  apply_eq_zero_iff : ∀ n, apply n = 0 ↔ n = 0

namespace Renumbering

variable (f : Renumbering)

/-- The change of a number that may be negative, though no line has such a number. -/
def int (n : Int) : Int := if n ≤ 0 then n else f.apply n.toNat

theorem apply_zero : f.apply 0 = 0 := (f.apply_eq_zero_iff 0).mpr rfl

theorem int_ofNat (n : Nat) : f.int n = f.apply n := by
  unfold int
  split
  · next h =>
    have hn : n = 0 := by omega
    rw [hn, f.apply_zero]
  · rw [Int.toNat_natCast]

/-- Numbers that no line has are kept. -/
theorem int_of_nonpos {n : Int} (h : n ≤ 0) : f.int n = n := if_pos h

/-- So a number that is asked to be positive may be renumbered first. -/
theorem int_nonpos_iff (n : Int) : f.int n ≤ 0 ↔ n ≤ 0 := by
  by_cases h : n ≤ 0
  · rw [f.int_of_nonpos h]
  · have happly : f.apply n.toNat ≠ 0 := by
      rw [Ne, f.apply_eq_zero_iff]
      omega
    unfold int
    rw [if_neg h]
    omega

/-- The number of a line may be renumbered before or behind the conversion. -/
theorem toNat_int (n : Int) : (f.int n).toNat = f.apply n.toNat := by
  by_cases h : n ≤ 0
  · rw [f.int_of_nonpos h, Int.toNat_of_nonpos h, f.apply_zero]
  · unfold int
    rw [if_neg h, Int.toNat_natCast]

end Renumbering

/-! ## What carries numbers -/

section

variable (f : Renumbering)

/-- The constraint on its new line. -/
def Constraint.renumbered (c : Constraint) : Constraint := { c with line := f.apply c.line }

/-- The open constraint on its new line. -/
def Constraint.Open.renumbered (c : Constraint.Open) : Constraint.Open :=
  { c with line := f.int c.line }

/-- The fault on its new line. -/
def Fault.renumbered (fault : Fault) : Fault := { fault with line := f.apply fault.line }

/-- The draft with its constraints on their new lines. -/
def Draft.renumbered (d : Draft) : Draft :=
  { d with constraints := d.constraints.map (·.renumbered f) }

/-- The model with its constraints on their new lines. -/
def Model.renumbered (m : Model) : Model :=
  { m with constraints := m.constraints.map (·.renumbered f) }

/-- The line under its new number. -/
def Line.renumbered (l : Line) : Line := { l with number := f.apply l.number }

/-- The result on its new lines. -/
def Progress.renumberedResult : Except Fault Model → Except Fault Model
  | .ok m => .ok (m.renumbered f)
  | .error fault => .error (fault.renumbered f)

/-- The state of the objectives. -/
def Objectives.State.renumbered (s : Objectives.State) : Objectives.State :=
  { s with draft := s.draft.renumbered f }

/-- The state of the constraints. -/
def Constraints.State.renumbered (s : Constraints.State) : Constraints.State where
  draft := s.draft.renumbered f
  current := s.current.map (·.renumbered f)

/-- The verdict, if `g` renumbers the states. -/
def Cursor.Verdict.renumbered {σ α : Type} (g : σ → σ) : Verdict σ α → Verdict σ α
  | .more s => .more (g s)
  | .done s a => .done (g s) a
  | .failed s fault => .failed (g s) (fault.renumbered f)

/-- The progress on its new lines. -/
def Progress.renumbered : Progress → Progress
  | .start => .start
  | .objectives s => .objectives (s.renumbered f)
  | .constraints s => .constraints (s.renumbered f)
  | .declarations d => .declarations (d.renumbered f)
  | .ended result => .ended (renumberedResult f result)

end

variable {f : Renumbering}

/-! ## Drafts -/

namespace Draft

/-- Objectives have no lines. -/
theorem mergeLast_renumbered (d : Draft) (cs : Coefficients) :
    (d.mergeLast cs).renumbered f = (d.renumbered f).mergeLast cs := by
  have hobjectives : (d.renumbered f).objectives = d.objectives := rfl
  unfold mergeLast
  rw [hobjectives]
  cases d.objectives.getLast? with
  | none => rfl
  | some o => rfl

/-- A constraint may be renumbered before it is added. -/
theorem addConstraint_renumbered (d : Draft) (c : Constraint) :
    (d.addConstraint c).renumbered f = (d.renumbered f).addConstraint (c.renumbered f) := by
  unfold addConstraint renumbered
  dsimp only
  rw [List.map_append]
  rfl

/-- Names do not depend on lines, and so default names do not either. -/
theorem nextConstraintName_renumbered (d : Draft) :
    (d.renumbered f).nextConstraintName = d.nextConstraintName := by
  unfold nextConstraintName renumbered
  dsimp only
  rw [List.map_map]
  rfl

/-- Whether an objective is missing does not depend on lines. -/
theorem complete_renumbered (d : Draft) :
    (Objectives.complete d).renumbered f = Objectives.complete (d.renumbered f) := by
  show _ = if d.objectives.isEmpty then _ else _
  unfold Objectives.complete
  split
  · rfl
  · rfl

end Draft

/-- **A fault is located by its new line.** Whether it has one of its own is kept, since only zero
    becomes zero. -/
theorem Fault.locatedBy_renumbered (fault : Fault) (s : Section) (n : Nat) :
    (fault.locatedBy s n).renumbered f = (fault.renumbered f).locatedBy s (f.apply n) := by
  unfold locatedBy renumbered
  dsimp only
  by_cases h : fault.line = 0
  · rw [if_pos h, if_pos ((f.apply_eq_zero_iff _).mpr h)]
  · rw [if_neg h, if_neg fun h' => h ((f.apply_eq_zero_iff _).mp h')]

/-- A fault of the line that is being read. -/
theorem Fault.mk_renumbered (cause : Cause) (n : Nat) (within : Option Section) :
    Fault.renumbered f ⟨cause, n, within⟩ = ⟨cause, f.apply n, within⟩ := rfl

/-! ## Objectives -/

namespace Objectives

theorem State.named_renumbered (s : State) (name? : Option Text) :
    (s.named name?).renumbered f = (s.renumbered f).named name? := by
  cases name? with
  | none => rfl
  | some name => rfl

theorem State.opened_renumbered (s : State) :
    s.opened.renumbered f = (s.renumbered f).opened := by
  unfold opened
  show _ = if s.isOpen = true then _ else _
  cases s.isOpen with
  | true => rfl
  | false => rfl

/-- The number is handed on to a fault only; the terms do not have it. -/
theorem addBody_renumbered (n : Nat) (body : Text) (s : State) (events events' : List Event) :
    (addBody n body s events).verdict.renumbered f (·.renumbered f) =
      (addBody (f.apply n) body (s.renumbered f) events').verdict := by
  unfold addBody
  rcases Expression.terms body with ⟨terms, cause?⟩
  cases cause? with
  | none =>
    show Verdict.more _ = Verdict.more _
    unfold State.renumbered
    dsimp only
    rw [Draft.mergeLast_renumbered]
    rfl
  | some cause => rfl

/-- A line is told from others by its text. -/
theorem line_renumbered (n : Nat) (text : Text) (s : State) :
    (line n text s).verdict.renumbered f (·.renumbered f) =
      (line (f.apply n) text (s.renumbered f)).verdict := by
  unfold line
  by_cases hopens : Keyword.opensConstraints text = true
  · rw [if_pos hopens, if_pos hopens]
    rfl
  · rw [if_neg hopens, if_neg hopens]
    cases Keyword.section? text with
    | some target => rfl
    | none =>
      dsimp only
      by_cases hoccurs : Relation.occursIn text = true
      · rw [if_pos hoccurs, if_pos hoccurs]
        rfl
      · rw [if_neg hoccurs, if_neg hoccurs]
        cases ConstraintLine.splitName text with
        | error cause => rfl
        | ok split =>
          obtain ⟨name?, body⟩ := split
          dsimp only
          by_cases hbody : body.isEmpty = true
          · rw [if_pos hbody, if_pos hbody]
            exact congrArg Verdict.more (s.named_renumbered name?)
          · rw [if_neg hbody, if_neg hbody, ← State.named_renumbered, ← State.opened_renumbered]
            exact addBody_renumbered ..

theorem step_renumbered (n : Nat) (text : Text) (s : State) :
    (step n text s).verdict.renumbered f (·.renumbered f) =
      (step (f.apply n) text (s.renumbered f)).verdict := by
  by_cases h : text = []
  · subst h
    rfl
  · rw [verdict_step h, verdict_step h, line_renumbered]

end Objectives

/-! ## Constraints -/

namespace Constraints

/-- **A constraint is closed on its new line**, or refused under it. That a line is not positive is
    said with the number of the line, which is then kept. -/
theorem close_open_renumbered (c : Constraint.Open) (relation : Relation) (rhs : Float) :
    (c.renumbered f).close relation rhs =
      match c.close relation rhs with
      | .ok finished => .ok (finished.renumbered f)
      | .error fault => .error (fault.renumbered f) := by
  unfold Constraint.Open.close
  show (if c.name.isBlankOnly = true then _ else if f.int c.line ≤ 0 then _ else
    if c.coefficients.isEmpty = true then _ else _) = _
  by_cases hname : c.name.isBlankOnly = true
  · rw [if_pos hname, if_pos hname]
    dsimp only
    rw [Fault.mk_renumbered, f.apply_zero]
  · rw [if_neg hname, if_neg hname]
    by_cases hline : c.line ≤ 0
    · rw [if_pos ((f.int_nonpos_iff _).mpr hline), if_pos hline]
      dsimp only
      rw [Fault.mk_renumbered, f.apply_zero]
      show Except.error (Fault.mk (.lineNotPositive c.name (f.int c.line)) 0 none) = _
      rw [f.int_of_nonpos hline]
    · rw [if_neg fun h => hline ((f.int_nonpos_iff _).mp h), if_neg hline]
      by_cases hcoefficients : c.coefficients.isEmpty = true
      · rw [if_pos hcoefficients, if_pos hcoefficients]
        dsimp only
        rw [Fault.mk_renumbered]
        show Except.error (Fault.mk _ (f.int c.line).toNat none) = _
        rw [f.toNat_int]
        rfl
      · rw [if_neg hcoefficients, if_neg hcoefficients]
        show Except.ok (Constraint.mk _ (f.int c.line).toNat _ _ _) = _
        rw [f.toNat_int]
        rfl

theorem close_renumbered (d : Draft) (c : Constraint.Open) (relation : Relation) (rhs : Float)
    (events events' : List Event) :
    (close d c relation rhs events).verdict.renumbered f (·.renumbered f) =
      (close (d.renumbered f) (c.renumbered f) relation rhs events').verdict := by
  unfold close
  rw [close_open_renumbered]
  cases c.close relation rhs with
  | error fault => rfl
  | ok finished =>
    show Verdict.more _ = Verdict.more _
    rw [← Draft.addConstraint_renumbered]
    rfl

/-- A constraint that is left open is refused on the line that it began on. -/
theorem unfinished_renumbered (c : Constraint.Open) :
    (unfinished c).renumbered f = unfinished (c.renumbered f) := by
  unfold unfinished Constraint.Open.renumbered
  dsimp only
  rw [Fault.mk_renumbered, f.toNat_int]

/-- What goes on behind the expression may be renumbered likewise. -/
theorem addExpression_renumbered (n : Nat) (d : Draft) (c : Constraint.Open) (lhs : Text)
    (events events' : List Event)
    {goOn goOn' : Draft → Constraint.Open → List Event → Cursor.Turn State Unit}
    (h : ∀ d c events events', (goOn d c events).verdict.renumbered f (·.renumbered f) =
      (goOn' (d.renumbered f) (c.renumbered f) events').verdict) :
    (addExpression n d c lhs events goOn).verdict.renumbered f (·.renumbered f) =
      (addExpression (f.apply n) (d.renumbered f) (c.renumbered f) lhs events' goOn').verdict := by
  unfold addExpression
  rcases Expression.terms lhs with ⟨terms, cause?⟩
  cases cause? with
  | none => exact h ..
  | some cause => rfl

/-- What a line adds to a constraint does not depend on the number; what it closes does. -/
theorem contribute_renumbered (n : Nat) (d : Draft) (c : Constraint.Open)
    (events events' : List Event) (said : ConstraintLine) :
    (contribute n d c events said).verdict.renumbered f (·.renumbered f) =
      (contribute (f.apply n) (d.renumbered f) (c.renumbered f) events' said).verdict := by
  cases said with
  | expression lhs => exact addExpression_renumbered _ _ _ _ _ _ fun _ _ _ _ => rfl
  | comparison relation rhs => exact close_renumbered ..
  | both lhs relation rhs =>
    exact addExpression_renumbered _ _ _ _ _ _ fun _ _ _ _ => close_renumbered ..

/-- The constraint that a line without a name begins is on that line. -/
theorem target_renumbered (n : Nat) (s : State) :
    (s.current.getD { name := s.draft.nextConstraintName, line := n }).renumbered f =
      (s.renumbered f).current.getD
        { name := (s.renumbered f).draft.nextConstraintName, line := (f.apply n : Nat) } := by
  unfold State.renumbered
  rw [Draft.nextConstraintName_renumbered]
  cases s.current with
  | some c => rfl
  | none =>
    show Constraint.Open.mk _ (f.int n) _ = _
    rw [f.int_ofNat]
    rfl

theorem target?_renumbered (n : Nat) (s : State) (said : ConstraintLine) :
    target? (f.apply n) (s.renumbered f) said = (target? n s said).map (·.renumbered f) := by
  cases said with
  | comparison relation rhs => rfl
  | expression lhs => exact congrArg some (target_renumbered n s).symm
  | both lhs relation rhs => exact congrArg some (target_renumbered n s).symm

theorem addBody_renumbered (n : Nat) (text body : Text) (s : State) (events events' : List Event) :
    (addBody n text body s events).verdict.renumbered f (·.renumbered f) =
      (addBody (f.apply n) text body (s.renumbered f) events').verdict := by
  unfold addBody
  cases ConstraintLine.read body with
  | error cause => rfl
  | ok said =>
    dsimp only
    rw [target?_renumbered]
    cases target? n s said with
    | none => rfl
    | some c => exact contribute_renumbered ..

/-- A name opens a constraint on the line; this is where the number is kept. -/
theorem line_renumbered (n : Nat) (text : Text) (s : State) :
    (line n text s).verdict.renumbered f (·.renumbered f) =
      (line (f.apply n) text (s.renumbered f)).verdict := by
  have hcurrent : (s.renumbered f).current = s.current.map (·.renumbered f) := rfl
  unfold line
  rw [hcurrent]
  cases Keyword.section? text with
  | some target =>
    cases s.current with
    | some c => exact congrArg (Verdict.failed _) (unfinished_renumbered c)
    | none => rfl
  | none =>
    cases ConstraintLine.splitName text with
    | error cause => rfl
    | ok split =>
      obtain ⟨name?, body⟩ := split
      cases name? with
      | none =>
        dsimp only
        by_cases hbody : body.isEmpty = true
        · rw [if_pos hbody, if_pos hbody]
          rfl
        · rw [if_neg hbody, if_neg hbody]
          exact addBody_renumbered ..
      | some name =>
        cases s.current with
        | some c => exact congrArg (Verdict.failed _) (unfinished_renumbered c)
        | none =>
          have hopen : State.renumbered f { s with current := some { name, line := n } } =
              { s.renumbered f with current := some { name, line := (f.apply n : Nat) } } := by
            unfold State.renumbered
            show State.mk _ (some (Constraint.Open.mk _ (f.int n) _)) = _
            rw [f.int_ofNat]
          dsimp only [Option.map_none]
          by_cases hbody : body.isEmpty = true
          · rw [if_pos hbody, if_pos hbody]
            exact congrArg Verdict.more hopen
          · rw [if_neg hbody, if_neg hbody, ← hopen]
            exact addBody_renumbered ..

theorem step_renumbered (n : Nat) (text : Text) (s : State) :
    (step n text s).verdict.renumbered f (·.renumbered f) =
      (step (f.apply n) text (s.renumbered f)).verdict := by
  by_cases h : text = []
  · subst h
    rfl
  · rw [verdict_step h, verdict_step h, line_renumbered]

end Constraints

/-! ## Declarations -/

namespace Declarations

theorem step_renumbered (n : Nat) (text : Text) (d : Draft) :
    (step n text d).verdict.renumbered f (·.renumbered f) =
      (step (f.apply n) text (d.renumbered f)).verdict := by
  have hstage : (d.renumbered f).stage = d.stage := rfl
  have htable : (d.renumbered f).table = d.table := rfl
  by_cases h : text = []
  · subst h
    rfl
  · rw [verdict_step h, verdict_step h]
    unfold line
    rw [hstage]
    cases Keyword.section? text with
    | some target => rfl
    | none =>
      dsimp only
      cases kind? d.stage with
      | some kind =>
        dsimp only
        unfold listed
        rw [htable]
        rcases assign kind text.words d.table with ⟨table, cause?⟩
        cases cause? with
        | none => rfl
        | some cause => rfl
      | none =>
        dsimp only
        unfold bound
        rw [htable]
        cases Bound.read d.table text with
        | ok b => rfl
        | error cause => rfl

end Declarations

/-! ## Progress -/

/-- The checks in the end look at objectives and columns, which have no lines. -/
theorem Session.modelOf_renumbered (d : Draft) :
    modelOf (d.renumbered f) = (modelOf d).map (·.renumbered f) := by
  have hobjectives : (d.renumbered f).objectives = d.objectives := rfl
  have htable : (d.renumbered f).table = d.table := rfl
  unfold modelOf
  rw [hobjectives, htable]
  cases checkAll Objective.check d.objectives with
  | error cause => rfl
  | ok objectives =>
    dsimp only
    cases checkAll Column.finish d.table with
    | error cause => rfl
    | ok vars => rfl

namespace Progress

/-- A fault that ends the reading is located by the line at hand. -/
theorem failed_renumbered (n : Nat) (d : Draft) (fault : Fault) :
    (failed n d fault).renumbered f =
      failed (f.apply n) (d.renumbered f) (fault.renumbered f) := by
  show Progress.ended (.error _) = _
  rw [Fault.locatedBy_renumbered]
  rfl

/-- Behind a keyword the section is what counts. Behind the end marker a fault has no line of its
    own. -/
theorem behindKeyword_renumbered (n : Nat) (d : Draft) :
    (behindKeyword n d).renumbered f = behindKeyword (f.apply n) (d.renumbered f) := by
  unfold behindKeyword
  show _ = if d.stage = .finish then _ else _
  by_cases hstage : d.stage = .finish
  · rw [if_pos hstage, if_pos hstage, Session.modelOf_renumbered]
    cases Session.modelOf d with
    | ok m => rfl
    | error cause =>
      show (failed n d ⟨cause, 0, none⟩).renumbered f =
        failed (f.apply n) (d.renumbered f) ⟨cause, 0, none⟩
      rw [failed_renumbered, Fault.mk_renumbered, f.apply_zero]
  · rw [if_neg hstage, if_neg hstage]
    rfl

theorem ofDeclarations_renumbered (n : Nat) (v : Verdict Draft Unit) :
    (ofDeclarations n v).renumbered f =
      ofDeclarations (f.apply n) (v.renumbered f (·.renumbered f)) := by
  cases v with
  | more d => rfl
  | done d a => exact behindKeyword_renumbered n d
  | failed d fault => exact failed_renumbered n d fault

theorem ofConstraints_renumbered (n : Nat) (v : Verdict Constraints.State Unit) :
    (ofConstraints n v).renumbered f =
      ofConstraints (f.apply n) (v.renumbered f (·.renumbered f)) := by
  cases v with
  | more s => rfl
  | done s a => exact behindKeyword_renumbered n s.draft
  | failed s fault => exact failed_renumbered n s.draft fault

/-- The line that begins the constraints without a keyword is read once more, under the same
    number. -/
theorem behindObjectives_renumbered (n : Nat) (d : Draft) (pending : Option Text) :
    (behindObjectives n d pending).renumbered f =
      behindObjectives (f.apply n) (d.renumbered f) pending := by
  unfold behindObjectives
  show _ = if d.stage = .constraints then _ else _
  by_cases hstage : d.stage = .constraints
  · rw [if_pos hstage, if_pos hstage]
    cases pending with
    | none => rfl
    | some text =>
      dsimp only
      rw [ofConstraints_renumbered, Constraints.line_renumbered]
      rfl
  · rw [if_neg hstage, if_neg hstage]
    exact behindKeyword_renumbered n d

theorem ofObjectives_renumbered (n : Nat) (v : Verdict Objectives.State (Option Text)) :
    (ofObjectives n v).renumbered f =
      ofObjectives (f.apply n) (v.renumbered f (·.renumbered f)) := by
  cases v with
  | more s => rfl
  | done s pending =>
    show (behindObjectives _ _ _).renumbered f = behindObjectives _ (Objectives.complete _) _
    rw [behindObjectives_renumbered, Draft.complete_renumbered]
    rfl
  | failed s fault => exact failed_renumbered n s.draft fault

/-- The line of the direction. -/
theorem ofDirection_renumbered (n : Nat) (text : Text) :
    (ofDirection n (Session.directionWords n text {})).renumbered f =
      ofDirection (f.apply n) (Session.directionWords (f.apply n) text {}) := by
  unfold Session.directionWords
  cases text.firstWord? with
  | none =>
    dsimp only [ofDirection]
    rw [failed_renumbered, Fault.mk_renumbered, f.apply_zero]
    rfl
  | some split =>
    obtain ⟨word, rest?⟩ := split
    dsimp only
    cases Direction.ofWord? word with
    | none =>
      dsimp only [ofDirection]
      rw [failed_renumbered, Fault.mk_renumbered]
      rfl
    | some direction =>
      cases rest? with
      | none => rfl
      | some rest =>
        dsimp only [ofDirection]
        rw [ofObjectives_renumbered, Objectives.line_renumbered]
        rfl

/-- **Taking a line and renumbering may be exchanged.** -/
theorem step_renumbered (p : Progress) (l : Line) :
    (p.step l).renumbered f = (p.renumbered f).step (l.renumbered f) := by
  cases p with
  | start =>
    show (if l.text.isEmpty = true then _ else _ : Progress).renumbered f =
      if l.text.isEmpty = true then _ else _
    by_cases h : l.text.isEmpty = true
    · rw [if_pos h, if_pos h]
      rfl
    · rw [if_neg h, if_neg h]
      exact ofDirection_renumbered l.number l.text
  | objectives s =>
    show (ofObjectives _ _).renumbered f = ofObjectives _ _
    rw [ofObjectives_renumbered, Objectives.step_renumbered]
    rfl
  | constraints s =>
    show (ofConstraints _ _).renumbered f = ofConstraints _ _
    rw [ofConstraints_renumbered, Constraints.step_renumbered]
    rfl
  | declarations d =>
    show (ofDeclarations _ _).renumbered f = ofDeclarations _ _
    rw [ofDeclarations_renumbered, Declarations.step_renumbered]
    rfl
  | ended result => rfl

/-- **Runs do not depend on the numbers of the lines.** -/
theorem run_renumbered (p : Progress) (ls : List Line) :
    (p.run ls).renumbered f = (p.renumbered f).run (ls.map (·.renumbered f)) := by
  induction ls generalizing p with
  | nil => rfl
  | cons l ls ih => rw [List.map_cons, run_cons, run_cons, ih, step_renumbered]

end Progress

end LinearProgram

/-
  Step — what one line can do in each part of a document.

  For each part, `Effect number text s v` lists the verdicts `v` that a line can meet with, together
  with what must hold of the line and what becomes of the state. `step_effect` says that the list is
  complete. What a whole part keeps is then a matter of looking through the list once.

  1. **Objectives** — a line leaves the section, or opens an objective, or adds terms to one.

  2. **Constraints** — a line leaves the section, names a constraint, adds terms to the left-hand
     side of one, or closes one. Before its body is looked at, a line that has a name `enters` the
     constraint of that name.

  3. **Declarations** — a line leaves the section, lists variables, or bounds one.
-/

import LinearProgram.Document.Session

namespace LinearProgram

open Cursor (Turn Verdict)

/-! ## Objectives -/

namespace Objectives

/-- The state with the terms of a line added to the last objective. -/
def State.extended (s : State) (terms : List Term) : State :=
  { s with draft := (s.draft.mention terms).mergeLast (.ofTerms terms) }

/-- What a line of the objective section can do. -/
inductive Effect (number : Nat) (text : Text) (s : State) :
    Verdict State (Option Text) → Prop where
  | blank (h : text = []) : Effect number text s (.more s)
  | keyword (target : Section)
      (h : (Keyword.opensConstraints text = true ∧ target = .constraints) ∨
        Keyword.section? text = some target) :
      Effect number text s (.done { s with draft := s.draft.switch target } none)
  | implicit (h : Relation.occursIn text = true) :
      Effect number text s (.done { s with draft := s.draft.switch .constraints } (some text))
  | misnamed (cause : Cause) (h : ConstraintLine.splitName text = .error cause) :
      Effect number text s (.failed s { cause, line := number })
  | named (name? : Option Text) (h : ConstraintLine.splitName text = .ok (name?, [])) :
      Effect number text s (.more (s.named name?))
  | adds (name? : Option Text) (body : Text) (terms : List Term)
      (h : ConstraintLine.splitName text = .ok (name?, body))
      (hterms : Expression.terms body = (terms, none)) :
      Effect number text s (.more ((s.named name?).opened.extended terms))
  | breaksOff (name? : Option Text) (body : Text) (terms : List Term) (cause : Cause)
      (h : ConstraintLine.splitName text = .ok (name?, body))
      (hterms : Expression.terms body = (terms, some cause)) :
      Effect number text s
        (.failed { (s.named name?).opened with draft := (s.named name?).opened.draft.mention terms }
          { cause, line := number })

theorem line_effect (number : Nat) (text : Text) (s : State) :
    Effect number text s (line number text s).verdict := by
  unfold line
  split
  · next h => exact .keyword _ (Or.inl ⟨h, rfl⟩)
  · split
    · next target h => exact .keyword target (Or.inr h)
    · split
      · next h => exact .implicit h
      · split
        · next cause h => exact .misnamed cause h
        · next name? body h =>
          split
          · next hbody =>
            rw [List.isEmpty_iff] at hbody
            subst hbody
            exact .named name? h
          · unfold addBody
            rcases hterms : Expression.terms body with ⟨terms, cause?⟩
            cases cause? with
            | none => exact .adds name? body terms h hterms
            | some cause => exact .breaksOff name? body terms cause h hterms

/-- A line with content is read as it is. -/
theorem verdict_step {text : Text} (h : text ≠ []) (number : Nat) (s : State) :
    (step number text s).verdict = (line number text s).verdict := by
  unfold step
  rw [List.isEmpty_eq_false_iff.mpr h, if_neg Bool.false_ne_true]

/-- **A line of the objective section has an effect of one of these sorts.** An empty line has
    none. -/
theorem step_effect (number : Nat) (text : Text) (s : State) :
    Effect number text s (step number text s).verdict := by
  by_cases h : text = []
  · subst h
    exact .blank rfl
  · rw [verdict_step h]
    exact line_effect number text s

end Objectives

/-! ## Constraints -/

namespace Constraints

/-- The state in which the body of a line is read: the line's name, if it has one, opens a
    constraint, and then none may be open. -/
inductive Enters (number : Nat) (text : Text) (s : State) : Text → State → Prop where
  | unnamed (body : Text) (h : ConstraintLine.splitName text = .ok (none, body)) :
      Enters number text s body s
  | named (name body : Text) (h : ConstraintLine.splitName text = .ok (some name, body))
      (hcurrent : s.current = none) :
      Enters number text s body { s with current := some { name, line := number } }

/-- The constraint that an expression is added to. -/
def State.target (s : State) (number : Nat) : Constraint.Open :=
  s.current.getD { name := s.draft.nextConstraintName, line := number }

/-- What the body of a line can do. -/
inductive Contributes (number : Nat) (text body : Text) (s : State) :
    Verdict State Unit → Prop where
  | unread (cause : Cause) (h : ConstraintLine.read body = .error cause) :
      Contributes number text body s (.failed s { cause, line := number })
  | withoutLeft (relation : Relation) (rhs : Float)
      (h : ConstraintLine.read body = .ok (.comparison relation rhs)) (hcurrent : s.current = none) :
      Contributes number text body s
        (.failed s { cause := .noLeftHandSide text, line := number })
  | adds (lhs : Text) (terms : List Term) (h : ConstraintLine.read body = .ok (.expression lhs))
      (hterms : Expression.terms lhs = (terms, none)) :
      Contributes number text body s
        (.more
          { draft := s.draft.mention terms
            current := some ((s.target number).merge (.ofTerms terms)) })
  | breaksOff (said : ConstraintLine) (lhs : Text) (terms : List Term) (cause : Cause)
      (h : ConstraintLine.read body = .ok said)
      (hlhs : said = .expression lhs ∨ ∃ relation rhs, said = .both lhs relation rhs)
      (hterms : Expression.terms lhs = (terms, some cause)) :
      Contributes number text body s
        (.failed { draft := s.draft.mention terms, current := some (s.target number) }
          { cause, line := number })
  | closes (c : Constraint.Open) (d : Draft) (relation : Relation) (rhs : Float)
      (said : ConstraintLine) (h : ConstraintLine.read body = .ok said)
      (hc : (said = .comparison relation rhs ∧ s.current = some c ∧ d = s.draft) ∨
        ∃ lhs terms, said = .both lhs relation rhs ∧ Expression.terms lhs = (terms, none) ∧
          c = (s.target number).merge (.ofTerms terms) ∧ d = s.draft.mention terms)
      (finished : Constraint) (hclose : c.close relation rhs = .ok finished) :
      Contributes number text body s (.more { draft := d.addConstraint finished })
  | unclosed (c : Constraint.Open) (d : Draft) (relation : Relation) (rhs : Float)
      (said : ConstraintLine) (h : ConstraintLine.read body = .ok said)
      (hc : (said = .comparison relation rhs ∧ s.current = some c ∧ d = s.draft) ∨
        ∃ lhs terms, said = .both lhs relation rhs ∧ Expression.terms lhs = (terms, none) ∧
          c = (s.target number).merge (.ofTerms terms) ∧ d = s.draft.mention terms)
      (fault : Fault) (hclose : c.close relation rhs = .error fault) :
      Contributes number text body s (.failed { draft := d, current := some c } fault)

/-- What a line of the constraints section can do. -/
inductive Effect (number : Nat) (text : Text) (s : State) : Verdict State Unit → Prop where
  | blank (h : text = []) : Effect number text s (.more s)
  | keyword (target : Section) (h : Keyword.section? text = some target)
      (hcurrent : s.current = none) :
      Effect number text s (.done { draft := s.draft.switch target } ())
  | unfinished (c : Constraint.Open) (hcurrent : s.current = some c) :
      Effect number text s (.failed s (unfinished c))
  | misnamed (cause : Cause) (h : ConstraintLine.splitName text = .error cause) :
      Effect number text s (.failed s { cause, line := number })
  | enters (s' : State) (h : Enters number text s [] s') : Effect number text s (.more s')
  | contributes (body : Text) (s' : State) (v : Verdict State Unit)
      (h : Enters number text s body s') (hv : Contributes number text body s' v) :
      Effect number text s v

/-- Closing a constraint is the last that a line does, be it with an expression of its own or
    without. -/
theorem close_contributes {number : Nat} {text body : Text} {s : State} {c : Constraint.Open}
    {d : Draft} {relation : Relation} {rhs : Float} {said : ConstraintLine} (events : List Event)
    (h : ConstraintLine.read body = .ok said)
    (hc : (said = .comparison relation rhs ∧ s.current = some c ∧ d = s.draft) ∨
      ∃ lhs terms, said = .both lhs relation rhs ∧ Expression.terms lhs = (terms, none) ∧
        c = (s.target number).merge (.ofTerms terms) ∧ d = s.draft.mention terms) :
    Contributes number text body s (close d c relation rhs events).verdict := by
  unfold close
  cases hclose : c.close relation rhs with
  | ok finished => exact .closes c d relation rhs said h hc finished hclose
  | error fault => exact .unclosed c d relation rhs said h hc fault hclose

/-- What stands behind the name of a constraint contributes to it. -/
theorem addBody_contributes (number : Nat) (text body : Text) (s : State) (events : List Event) :
    Contributes number text body s (addBody number text body s events).verdict := by
  unfold addBody
  cases h : ConstraintLine.read body with
  | error cause => exact .unread cause h
  | ok said =>
    cases said with
    | comparison relation rhs =>
      cases hcurrent : s.current with
      | none =>
        simp only [target?, hcurrent]
        exact .withoutLeft relation rhs h hcurrent
      | some c =>
        simp only [target?, hcurrent, contribute]
        exact close_contributes _ h (Or.inl ⟨rfl, hcurrent, rfl⟩)
    | expression lhs =>
      simp only [target?, contribute, addExpression]
      rcases hterms : Expression.terms lhs with ⟨terms, cause?⟩
      cases cause? with
      | none => exact .adds lhs terms h hterms
      | some cause => exact .breaksOff _ lhs terms cause h (Or.inl rfl) hterms
    | both lhs relation rhs =>
      simp only [target?, contribute, addExpression]
      rcases hterms : Expression.terms lhs with ⟨terms, cause?⟩
      cases cause? with
      | none => exact close_contributes _ h (Or.inr ⟨lhs, terms, rfl, hterms, rfl, rfl⟩)
      | some cause => exact .breaksOff _ lhs terms cause h (Or.inr ⟨relation, rhs, rfl⟩) hterms

theorem line_effect (number : Nat) (text : Text) (s : State) :
    Effect number text s (line number text s).verdict := by
  unfold line
  split
  · next target h =>
    cases hcurrent : s.current with
    | none => exact .keyword target h hcurrent
    | some c => exact .unfinished c hcurrent
  · split
    · next cause h => exact .misnamed cause h
    · next body h =>
      split
      · next hbody =>
        rw [List.isEmpty_iff] at hbody
        subst hbody
        exact .enters s (.unnamed [] h)
      · exact .contributes body s _ (.unnamed body h) (addBody_contributes ..)
    · next name body h =>
      cases hcurrent : s.current with
      | some c => exact .unfinished c hcurrent
      | none =>
        dsimp only
        split
        · next hbody =>
          rw [List.isEmpty_iff] at hbody
          subst hbody
          exact .enters _ (.named name [] h hcurrent)
        · exact .contributes body _ _ (.named name body h hcurrent) (addBody_contributes ..)

/-- A line with content is read as it is. -/
theorem verdict_step {text : Text} (h : text ≠ []) (number : Nat) (s : State) :
    (step number text s).verdict = (line number text s).verdict := by
  unfold step
  rw [List.isEmpty_eq_false_iff.mpr h, if_neg Bool.false_ne_true]

theorem step_effect (number : Nat) (text : Text) (s : State) :
    Effect number text s (step number text s).verdict := by
  by_cases h : text = []
  · subst h
    exact .blank rfl
  · rw [verdict_step h]
    exact line_effect number text s

end Constraints

/-! ## Declarations -/

namespace Declarations

/-- What a line of a declaring section can do. -/
inductive Effect (number : Nat) (text : Text) (d : Draft) : Verdict Draft Unit → Prop where
  | blank (h : text = []) : Effect number text d (.more d)
  | keyword (target : Section) (h : Keyword.section? text = some target) :
      Effect number text d (.done (d.switch target) ())
  | lists (kind : Variable.Kind) (table : Table) (hkind : kind? d.stage = some kind)
      (h : assign kind text.words d.table = (table, none)) :
      Effect number text d (.more { d with table })
  | unlisted (kind : Variable.Kind) (table : Table) (cause : Cause)
      (hkind : kind? d.stage = some kind)
      (h : assign kind text.words d.table = (table, some cause)) :
      Effect number text d (.failed { d with table } { cause, line := number })
  | bounds (b : Bound) (hkind : kind? d.stage = none) (h : Bound.read d.table text = .ok b) :
      Effect number text d (.more { d with table := b.apply d.table })
  | refused (cause : Cause) (hkind : kind? d.stage = none)
      (h : Bound.read d.table text = .error cause) :
      Effect number text d (.failed d { cause, line := number })

/-- A line with content is read as it is. -/
theorem verdict_step {text : Text} (h : text ≠ []) (number : Nat) (d : Draft) :
    (step number text d).verdict = (line number text d).verdict := by
  unfold step
  rw [List.isEmpty_eq_false_iff.mpr h, if_neg Bool.false_ne_true]

theorem step_effect (number : Nat) (text : Text) (d : Draft) :
    Effect number text d (step number text d).verdict := by
  by_cases h : text = []
  · subst h
    exact .blank rfl
  · rw [verdict_step h]
    unfold line
    split
    · next target h => exact .keyword target h
    · split
      · next kind hkind =>
        unfold listed
        rcases h : assign kind text.words d.table with ⟨table, cause?⟩
        cases cause? with
        | none => exact .lists kind table hkind h
        | some cause => exact .unlisted kind table cause hkind h
      · next hkind =>
        unfold bound
        cases h : Bound.read d.table text with
        | ok b => exact .bounds b hkind h
        | error cause => exact .refused cause hkind h

end Declarations

end LinearProgram

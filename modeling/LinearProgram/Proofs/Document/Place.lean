/-
  Place — where the reading stands, and what is wrong where.

  1. **Sections** — which section a line leads to is told by the line alone: by its direction, by
     its keyword, and among the objectives by a relational character (`Section.behind`).

  2. **Steps** — the machine follows that (`Progress.arrives_step`). The same look at one line
     settles what a fault that is met there says: the section that is reached, and the line at hand,
     except that a constraint which is wrong as a whole is reported on the line on which it was
     begun.

  3. **First lines** — so the section behind the first lines of a document is known as long as the
     reading has not ended (`Progress.section_behind`).
-/

import LinearProgram.Proofs.Document.Body
import LinearProgram.Proofs.Document.Consumed
import LinearProgram.Proofs.Reading
import Mathlib.Data.List.Induction

namespace LinearProgram

open Cursor (Verdict)

/-! ## Sections -/

namespace Section

/-- The section behind a line of the objective section. -/
def behindObjective (text : Text) : Section :=
  if Keyword.opensConstraints text then .constraints
  else match Keyword.section? text with
  | some target => target
  | none => if Relation.occursIn text then .constraints else .objective

/-- The section behind a line. What follows the direction on its line is a line of the objective
    section. -/
def behind (s : Section) (text : Text) : Section :=
  match s with
  | .start =>
    match text.firstWord? with
    | none => .start
    | some (word, rest?) =>
      if (Direction.ofWord? word).isNone then .start
      else match rest? with
      | none => .objective
      | some rest => behindObjective rest
  | .objective => behindObjective text
  | .finish => .finish
  | s => (Keyword.section? text).getD s

/-- The section behind the first lines of a document. -/
def behindAll (raws : List Text) : Section := (raws.map Text.content).foldl behind .start

theorem behindAll_concat (raws : List Text) (raw : Text) :
    behindAll (raws ++ [raw]) = (behindAll raws).behind raw.content := by
  unfold behindAll
  rw [List.map_append, List.foldl_append]
  rfl

/-- A blank line does not leave a section. -/
theorem behind_nil (s : Section) : s.behind [] = s := by
  cases s <;> rfl

theorem behind_declares {s : Section} (h : s.Declares) (text : Text) :
    s.behind text = (Keyword.section? text).getD s := by
  rcases h with rfl | rfl | rfl <;> rfl

end Section

/-! ## Faults -/

namespace Cause

/-- The constraint that is wrong as a whole, and not in what the line at hand says of it. -/
def constraint? : Cause → Option Text
  | unfinishedConstraint name | emptyLeftHandSide name => some name
  | _ => none

/-- The section in which a cause is reported, if the line at hand leads to the section `s`: that a
    constraint is unfinished is noticed in front of the keyword. -/
def place (s : Section) : Cause → Section
  | unfinishedConstraint _ => .constraints
  | _ => s

end Cause

/-- A constraint that is in hand at line `n` was begun on a line: an earlier one, if a constraint
    was open in front of line `n`, or else on line `n`. -/
def Constraint.Begun (open? : Option Constraint.Open) (n : Nat) (name : Text) (line : Nat) : Prop :=
  (∃ c, open? = some c ∧ c.name = name ∧ c.line.toNat = line) ∨ (open? = none ∧ line = n)

/-- What a fault says that is met at the line `l`, in front of which `s` was reached and which leads
    to the section `place`. -/
structure Fault.MetAt (s : Constraints.State) (l : Line) (place : Section) (fault : Fault) :
    Prop where
  within : fault.within = some (fault.cause.place place)
  line : fault.cause.constraint? = none → fault.line = l.number
  begun : ∀ name, fault.cause.constraint? = some name →
    Constraint.Begun s.current l.number name fault.line
  cause : fault.cause ≠ .endOfInput
  inverted : ∀ name lower upper, fault.cause = .invertedBounds name lower upper →
    place = .finish ∧ Keyword.section? l.text = some .finish ∧ s.draft.table ≠ []

/-- A model can fail to be assembled for a blank name, or for a variable. -/
theorem Session.cause_of_modelOf {d : Draft} {cause : Cause} (h : modelOf d = .error cause) :
    (∃ item, cause = .blankName item) ∨
      (d.table ≠ [] ∧ ∃ name lower upper, cause = .invertedBounds name lower upper) := by
  unfold modelOf at h
  split at h
  · next hcheck =>
    cases h
    obtain ⟨o, -, ho⟩ := mem_of_checkAll_error hcheck
    unfold Objective.check at ho
    split at ho
    · cases ho
      exact Or.inl ⟨_, rfl⟩
    · cases ho
  · split at h
    · next hcheck =>
      cases h
      obtain ⟨c, hmem, hc⟩ := mem_of_checkAll_error hcheck
      unfold Column.finish at hc
      split at hc
      · cases hc
        exact Or.inl ⟨_, rfl⟩
      · split at hc
        · cases hc
          exact Or.inr ⟨List.ne_nil_of_mem hmem, _, _, _, rfl⟩
        · cases hc
    · cases h

/-! ## Steps -/

namespace Progress

/-- What has been read, and the constraint that is open. -/
def state : Progress → Constraints.State
  | start | ended _ => { draft := {} }
  | objectives s => { draft := s.draft }
  | constraints s => s
  | declarations d => { draft := d }

/-- Where the lines run out, that is reported in the section that was reached. -/
theorem outcome_eq {p : Progress} (h : p.isEnded = false) (ending : Source.Ending) (n : Nat) :
    p.outcome ending n = .error ⟨ending.cause, n, some p.state.draft.stage⟩ := by
  have hlocated : ∀ s, Fault.locatedBy ⟨ending.cause, n, none⟩ s n = ⟨ending.cause, n, some s⟩ :=
    fun s => congrArg (Fault.mk _ · _) (ite_self n)
  cases p with
  | ended result => cases h
  | _ => exact congrArg Except.error (hlocated _)

/-- Each part of a document is read in its sections, and an open constraint was begun on a line. -/
def Stands : Progress → Prop
  | start | ended _ => True
  | objectives s => s.Stays
  | constraints s => s.draft.stage = .constraints ∧ ∀ c, s.current = some c → 0 < c.line
  | declarations d => d.stage.Declares

/-- Taking the line `l` leads from `s` to the section `place`, or to a fault. -/
def Arrives (s : Constraints.State) (l : Line) (place : Section) : Progress → Prop
  | ended (.ok _) => place = .finish
  | ended (.error fault) => fault.MetAt s l place
  | p => p.Stands ∧ p.state.draft.stage = place ∧ ∀ c, p.state.current = some c →
      Constraint.Begun s.current l.number c.name c.line.toNat

variable {s : Constraints.State} {l : Line} {place : Section}

/-! ### Faults -/

/-- What is wrong with the line at hand is reported there. -/
theorem arrives_failed {d : Draft} {cause : Cause} (hcause : cause.isOfLine = true)
    (hplace : d.stage = place) :
    (failed l.number d { cause, line := l.number }).Arrives s l place := by
  have hline : (if l.number = 0 then l.number else l.number) = l.number := ite_self _
  cases cause with
  | unfinishedConstraint | emptyLeftHandSide | endOfInput | invertedBounds => cases hcause
  | _ => exact ⟨congrArg some hplace, fun _ => hline, nofun, nofun, nofun⟩

/-- A fault that does not know its line is reported at the line at hand. -/
theorem arrives_failed_unknown {d : Draft} {cause : Cause}
    (hcause : cause.constraint? = none) (hplace : d.stage = place) (hend : cause ≠ .endOfInput)
    (hinverted : ∀ name lower upper, cause = .invertedBounds name lower upper →
      place = .finish ∧ Keyword.section? l.text = some .finish ∧ s.draft.table ≠ []) :
    (failed l.number d { cause := cause }).Arrives s l place := by
  refine ⟨?_, fun _ => rfl, ?_, hend, hinverted⟩
  · cases cause with
    | unfinishedConstraint => cases hcause
    | _ => exact congrArg some hplace
  · intro name hname
    rw [show cause.constraint? = some name from hname] at hcause
    cases hcause

/-- A constraint that is wrong as a whole is reported where it was begun. -/
theorem arrives_failed_constraint {d : Draft} {cause : Cause} {name : Text} {line : Int}
    (hcause : cause.constraint? = some name) (hplace : d.stage = cause.place place)
    (hpos : 0 < line) (hbegun : Constraint.Begun s.current l.number name line.toNat) :
    (failed l.number d { cause, line := line.toNat }).Arrives s l place := by
  have hline : (Fault.locatedBy ⟨cause, line.toNat, none⟩ d.stage l.number).line = line.toNat :=
    if_neg (by show line.toNat ≠ 0; omega)
  refine ⟨congrArg some hplace, ?_, ?_, ?_, ?_⟩
  · intro h
    rw [show cause.constraint? = none from h] at hcause
    cases hcause
  · intro name' h
    rw [show cause.constraint? = some name' from h] at hcause
    cases hcause
    rw [hline]
    exact hbegun
  · rintro rfl
    cases hcause
  · rintro name lower upper rfl
    cases hcause

/-! ### Keywords -/

theorem arrives_behindKeyword {d : Draft} (hkeyword : Keyword.section? l.text = some d.stage)
    (htable : d.table = s.draft.table) : (behindKeyword l.number d).Arrives s l d.stage := by
  unfold behindKeyword
  by_cases hfinish : d.stage = .finish
  · rw [if_pos hfinish]
    cases hmodel : Session.modelOf d with
    | ok model => exact hfinish
    | error cause =>
      dsimp only
      rcases Session.cause_of_modelOf hmodel with ⟨item, rfl⟩ | ⟨hne, name, lower, upper, rfl⟩
      · exact arrives_failed_unknown rfl rfl nofun nofun
      · refine arrives_failed_unknown rfl rfl nofun fun _ _ _ _ => ⟨hfinish, ?_, ?_⟩
        · rw [hkeyword, hfinish]
        · rw [← htable]
          exact hne
  · rw [if_neg hfinish]
    exact ⟨(Section.declares_of_keyword hkeyword).resolve_right hfinish, rfl, nofun⟩

/-! ### Declarations -/

/-- Behind a section keyword in a declaring section. -/
theorem step_declarations_section {target : Section}
    (h : Keyword.section? l.text = some target) (d : Draft) :
    (declarations d).step l = behindKeyword l.number (d.switch target) := by
  show ofDeclarations l.number (Declarations.step l.number l.text d).verdict = _
  rw [Declarations.verdict_step (Line.text_ne_nil_of_section h)]
  unfold Declarations.line
  rw [h]
  rfl

theorem arrives_declarations {d : Draft} (h : d.stage.Declares) :
    ((declarations d).step l).Arrives { draft := d } l
      ((Keyword.section? l.text).getD d.stage) := by
  cases hkeyword : Keyword.section? l.text with
  | some target =>
    rw [step_declarations_section hkeyword]
    exact arrives_behindKeyword (d := d.switch target) hkeyword rfl
  | none =>
    have heffect := Declarations.step_effect l.number l.text d
    show (ofDeclarations l.number (Declarations.step l.number l.text d).verdict).Arrives _ _ _
    generalize (Declarations.step l.number l.text d).verdict = v at heffect
    cases heffect with
    | keyword target ht =>
      rw [hkeyword] at ht
      cases ht
    | unlisted kind table cause _ hassign =>
      exact arrives_failed (Declarations.isOfLine_of_assign hassign) rfl
    | refused cause _ hread => exact arrives_failed (Bound.isOfLine_of_read hread) rfl
    | _ => exact ⟨h, rfl, nofun⟩

/-! ### Constraints -/

/-- A constraint that is in hand: where it was begun, and that this is known. -/
def InHand (s : Constraints.State) (n : Nat) (c : Constraint.Open) : Prop :=
  0 < c.line ∧ Constraint.Begun s.current n c.name c.line.toNat

theorem inHand_of_open (hcurrent : ∀ c, s.current = some c → 0 < c.line) {n : Nat}
    {c : Constraint.Open} (hc : s.current = some c) : InHand s n c :=
  ⟨hcurrent c hc, Or.inl ⟨c, hc, rfl, rfl⟩⟩

theorem inHand_of_new {n : Nat} (hn : 0 < n) (hnone : s.current = none) (name : Text) :
    InHand s n { name, line := n } :=
  ⟨by simpa using hn, Or.inr ⟨hnone, Int.toNat_natCast n⟩⟩

/-- Every constraint in the state behind the name of a line is in hand. -/
theorem inHand_of_enters {n : Nat} (hn : 0 < n) {text body : Text} {s' : Constraints.State}
    (hcurrent : ∀ c, s.current = some c → 0 < c.line) (h : Constraints.Enters n text s body s') :
    s'.draft = s.draft ∧ ∀ c, s'.current = some c → InHand s n c := by
  cases h with
  | unnamed _ _ => exact ⟨rfl, fun c hc => inHand_of_open hcurrent hc⟩
  | named name _ _ hnone =>
    refine ⟨rfl, ?_⟩
    rintro c ⟨⟩
    exact inHand_of_new hn hnone name

/-- So is the constraint that the body of the line is added to. -/
theorem inHand_target {n : Nat} (hn : 0 < n) {text body : Text} {s' : Constraints.State}
    (hcurrent : ∀ c, s.current = some c → 0 < c.line) (h : Constraints.Enters n text s body s') :
    InHand s n (s'.target n) := by
  have hopen := (inHand_of_enters hn hcurrent h).2
  unfold Constraints.State.target
  cases hc : s'.current with
  | some c => exact hopen c hc
  | none =>
    cases h with
    | unnamed _ _ => exact inHand_of_new hn hc _
    | named _ _ _ _ => cases hc

theorem arrives_constraints {s' : Constraints.State} (hstage : s'.draft.stage = .constraints)
    (h : ∀ c, s'.current = some c → InHand s l.number c) :
    (constraints s').Arrives s l .constraints :=
  ⟨⟨hstage, fun c hc => (h c hc).1⟩, hstage, fun c hc => (h c hc).2⟩

theorem arrives_unclosed {c : Constraint.Open} (hc : InHand s l.number c) {d : Draft}
    (hplace : d.stage = place) {relation : Relation} {rhs : Float} {fault : Fault}
    (h : c.close relation rhs = .error fault) : (failed l.number d fault).Arrives s l place := by
  unfold Constraint.Open.close at h
  rw [if_neg (show ¬ c.line ≤ 0 from Int.not_le.mpr hc.1)] at h
  split at h
  · cases h
    exact arrives_failed_unknown rfl hplace nofun nofun
  · split at h
    · cases h
      exact arrives_failed_constraint rfl hplace hc.1 hc.2
    · cases h

/-- The body of a line, where `s'` was reached in front of it. -/
theorem arrives_contributes {s' : Constraints.State} {text body : Text}
    {v : Verdict Constraints.State Unit} (hstage : s'.draft.stage = .constraints)
    (hopen : ∀ c, s'.current = some c → InHand s l.number c)
    (htarget : InHand s l.number (s'.target l.number))
    (hv : Constraints.Contributes l.number text body s' v) :
    (ofConstraints l.number v).Arrives s l .constraints := by
  -- a constraint that is closed is the open one, or the target with terms added to it
  have hclosing : ∀ {c : Constraint.Open} {d : Draft} {relation : Relation} {rhs : Float}
      {said : ConstraintLine}, ((said = .comparison relation rhs ∧ s'.current = some c ∧
        d = s'.draft) ∨ ∃ lhs terms, said = .both lhs relation rhs ∧
          Expression.terms lhs = (terms, none) ∧
          c = (s'.target l.number).merge (.ofTerms terms) ∧ d = s'.draft.mention terms) →
      d.stage = .constraints ∧ InHand s l.number c := by
    rintro c d relation rhs said (⟨-, hcurrent, rfl⟩ | ⟨lhs, terms, -, -, rfl, rfl⟩)
    · exact ⟨hstage, hopen c hcurrent⟩
    · exact ⟨hstage, htarget⟩
  cases hv with
  | unread cause h => exact arrives_failed (ConstraintLine.isOfLine_of_read h) hstage
  | withoutLeft relation rhs h hcurrent => exact arrives_failed rfl hstage
  | adds lhs terms h hterms =>
    refine arrives_constraints hstage ?_
    rintro c ⟨⟩
    exact htarget
  | breaksOff said lhs terms cause h hlhs hterms =>
    exact arrives_failed (Expression.isOfLine_of_terms hterms) hstage
  | closes c d relation rhs said h hc finished hclose =>
    exact arrives_constraints (hclosing hc).1 nofun
  | unclosed c d relation rhs said h hc fault hclose =>
    exact arrives_unclosed (hclosing hc).2 (hclosing hc).1 hclose

theorem arrives_constraints_step (hl : 0 < l.number) (hs : (constraints s).Stands) :
    ((constraints s).step l).Arrives s l ((Keyword.section? l.text).getD .constraints) := by
  obtain ⟨hstage, hcurrent⟩ := hs
  cases hkeyword : Keyword.section? l.text with
  | some target =>
    rw [step_constraints_section hkeyword]
    cases hc : s.current with
    | some c =>
      obtain ⟨hpos, hbegun⟩ := inHand_of_open hcurrent (n := l.number) hc
      exact arrives_failed_constraint rfl hstage hpos hbegun
    | none => exact arrives_behindKeyword (d := s.draft.switch target) hkeyword rfl
  | none =>
    have heffect := Constraints.step_effect l.number l.text s
    show (ofConstraints l.number (Constraints.step l.number l.text s).verdict).Arrives _ _ _
    generalize (Constraints.step l.number l.text s).verdict = v at heffect
    cases heffect with
    | blank _ => exact arrives_constraints hstage fun c hc => inHand_of_open hcurrent hc
    | keyword target ht _ =>
      rw [hkeyword] at ht
      cases ht
    | unfinished c hc =>
      obtain ⟨hpos, hbegun⟩ := inHand_of_open hcurrent (n := l.number) hc
      exact arrives_failed_constraint rfl hstage hpos hbegun
    | misnamed cause h => exact arrives_failed (ConstraintLine.isOfLine_of_splitName h) hstage
    | enters s' he =>
      obtain ⟨hdraft, hopen⟩ := inHand_of_enters hl hcurrent he
      exact arrives_constraints (by rw [hdraft, hstage]) hopen
    | contributes body s' _ he hv =>
      obtain ⟨hdraft, hopen⟩ := inHand_of_enters hl hcurrent he
      exact arrives_contributes (by rw [hdraft, hstage]) hopen (inHand_target hl hcurrent he) hv

/-! ### Objectives -/

/-- Of the line and what was reached in front of it only the open constraint, the number and the
    table behind an end marker matter. -/
theorem Arrives.congr {s' : Constraints.State} {l' : Line} {p : Progress}
    (h : p.Arrives s' l' place) (hcurrent : s'.current = s.current) (hnumber : l'.number = l.number)
    (htable : Keyword.section? l'.text = some .finish ∧ s'.draft.table ≠ [] →
      Keyword.section? l.text = some .finish ∧ s.draft.table ≠ []) : p.Arrives s l place := by
  cases p with
  | ended result =>
    cases result with
    | ok model => exact h
    | error fault =>
      refine ⟨h.within, ?_, ?_, h.cause, ?_⟩
      · rw [← hnumber]
        exact h.line
      · rw [← hnumber, ← hcurrent]
        exact h.begun
      · intro name lower upper hcause
        obtain ⟨hplace, hfinish⟩ := h.inverted name lower upper hcause
        exact ⟨hplace, htable hfinish⟩
  | _ =>
    refine ⟨h.1, h.2.1, ?_⟩
    rw [← hnumber, ← hcurrent]
    exact h.2.2

theorem complete_table (d : Draft) : (Objectives.complete d).table = d.table := by
  unfold Objectives.complete
  split <;> rfl

theorem arrives_objectives_step (hl : 0 < l.number) {s : Objectives.State} (hs : s.Stays) :
    ((objectives s).step l).Arrives { draft := s.draft } l (Section.behindObjective l.text) := by
  have hbefore : (constraints { draft := beforeConstraints s }).Stands :=
    ⟨beforeConstraints_stage s, nofun⟩
  unfold Section.behindObjective
  by_cases hopens : Keyword.opensConstraints l.text = true
  · rw [if_pos hopens, step_opensConstraints hopens]
    exact arrives_constraints hbefore.1 nofun
  · rw [if_neg hopens]
    cases hkeyword : Keyword.section? l.text with
    | some target =>
      have hstage : (Objectives.complete (s.draft.switch target)).stage = target :=
        Objectives.complete_stage _
      have harrives := arrives_behindKeyword (s := { draft := s.draft }) (l := l)
        (d := Objectives.complete (s.draft.switch target)) (by rw [hstage, hkeyword])
        (complete_table _)
      rw [hstage] at harrives
      rw [step_objectives_section hkeyword]
      exact harrives
    | none =>
      dsimp only
      by_cases hoccurs : Relation.occursIn l.text = true
      · have harrives := arrives_constraints_step hl hbefore
        rw [hkeyword] at harrives
        rw [if_pos hoccurs, step_implicit (Bool.not_eq_true _ ▸ hopens) hkeyword hoccurs]
        refine harrives.congr rfl rfl fun h => ⟨h.1, ?_⟩
        have htable : (beforeConstraints s).table = s.draft.table := complete_table _
        rw [htable] at h
        exact h.2
      · have heffect := Objectives.step_effect l.number l.text s
        have hstays := Objectives.stays_effect hs heffect
        rw [if_neg hoccurs]
        show (ofObjectives l.number (Objectives.step l.number l.text s).verdict).Arrives _ _ _
        generalize (Objectives.step l.number l.text s).verdict = v at heffect hstays
        cases heffect with
        | keyword target ht =>
          rcases ht with ⟨ht, -⟩ | ht
          · exact absurd ht hopens
          · rw [hkeyword] at ht
            cases ht
        | implicit ht => exact absurd ht hoccurs
        | misnamed cause h => exact arrives_failed (ConstraintLine.isOfLine_of_splitName h) hs.1
        | breaksOff name? body terms cause h hterms =>
          exact arrives_failed (Expression.isOfLine_of_terms hterms) (hs.opened name?).1
        | _ => exact ⟨hstays, hstays.1, nofun⟩

/-! ### The direction -/

theorem arrives_start_step (hl : 0 < l.number) (hne : l.text ≠ []) :
    (start.step l).Arrives { draft := {} } l (Section.behind .start l.text) := by
  have hstep : start.step l = ofDirection l.number (Session.directionWords l.number l.text {}) :=
    if_neg (by rw [List.isEmpty_iff]; exact hne)
  unfold Session.directionWords at hstep
  unfold Section.behind
  cases hword : l.text.firstWord? with
  | none =>
    rw [hword] at hstep
    rw [hstep]
    exact arrives_failed_unknown rfl rfl nofun nofun
  | some split =>
    obtain ⟨word, rest?⟩ := split
    dsimp only
    cases hdirection : Direction.ofWord? word with
    | none =>
      rw [hword] at hstep
      dsimp only at hstep
      rw [hdirection] at hstep
      rw [hstep]
      exact arrives_failed rfl rfl
    | some direction =>
      have hstays : Objectives.State.Stays { draft := Session.directed direction } :=
        ⟨rfl, Option.some_ne_none direction⟩
      rw [step_start hne hword hdirection]
      cases rest? with
      | none => exact ⟨hstays, rfl, nofun⟩
      | some rest =>
        -- nothing is registered yet, so that the rest of the line cannot lead to inverted bounds
        have harrives := arrives_objectives_step (l := ⟨l.number, rest⟩) hl hstays
        exact harrives.congr rfl rfl fun h => absurd rfl h.2

/-! ### Lines -/

theorem arrives_blank {p : Progress} (hp : p.Stands) (hended : p.isEnded = false) (n : Nat) :
    p.Arrives p.state ⟨n, []⟩ p.state.draft.stage := by
  cases p with
  | ended result => cases hended
  | constraints s => exact ⟨hp, rfl, fun c hc => (inHand_of_open hp.2 hc).2⟩
  | _ => exact ⟨hp, rfl, nofun⟩

/-- **Where a line leads to**: to the section that the line tells, or to a fault that is met at the
    line. -/
theorem arrives_step {p : Progress} (hp : p.Stands) (hended : p.isEnded = false)
    (hl : 0 < l.number) : (p.step l).Arrives p.state l (p.state.draft.stage.behind l.text) := by
  by_cases htext : l.text = []
  · obtain ⟨n, text⟩ := l
    subst htext
    rw [step_blank, Section.behind_nil]
    exact arrives_blank hp hended n
  · cases p with
    | start => exact arrives_start_step hl htext
    | objectives s =>
      show Arrives _ _ (s.draft.stage.behind l.text) _
      rw [hp.1]
      exact arrives_objectives_step hl hp
    | constraints s =>
      show Arrives _ _ (s.draft.stage.behind l.text) _
      rw [hp.1]
      exact arrives_constraints_step hl hp
    | declarations d =>
      show Arrives _ _ (d.stage.behind l.text) _
      rw [Section.behind_declares hp]
      exact arrives_declarations hp
    | ended result => cases hended

/-! ## First lines -/

theorem Arrives.stands {p : Progress} (h : p.Arrives s l place) (hended : p.isEnded = false) :
    p.Stands ∧ p.state.draft.stage = place := by
  cases p with
  | ended result => cases hended
  | _ => exact ⟨h.1, h.2.1⟩

theorem Arrives.begun {p : Progress} (h : p.Arrives s l place) {c : Constraint.Open}
    (hc : p.state.current = some c) :
    Constraint.Begun s.current l.number c.name c.line.toNat := by
  cases p with
  | ended result => cases hc
  | _ => exact h.2.2 c hc

/-- **The section behind the first lines of a document**, as long as the reading has not ended. -/
theorem section_behind {raws : List Text} (h : (behind raws).isEnded = false) :
    (behind raws).Stands ∧ (behind raws).state.draft.stage = Section.behindAll raws := by
  induction raws using List.reverseRecOn with
  | nil => exact ⟨trivial, rfl⟩
  | append_singleton raws raw ih =>
    have hraws := not_isEnded_of_append h
    obtain ⟨hstands, hstage⟩ := ih hraws
    have harrives := arrives_step hstands hraws (l := ⟨raws.length + 1, raw.content⟩)
      (Nat.succ_pos _)
    rw [behind_concat] at h ⊢
    rw [Section.behindAll_concat, ← hstage]
    exact harrives.stands h

/-- What a line behind the first lines leads to. -/
theorem arrives_behind {raws : List Text} (h : (behind raws).isEnded = false) (raw : Text) :
    (behind (raws ++ [raw])).Arrives (behind raws).state ⟨raws.length + 1, raw.content⟩
      (Section.behindAll (raws ++ [raw])) := by
  obtain ⟨hstands, hstage⟩ := section_behind h
  rw [behind_concat, Section.behindAll_concat, ← hstage]
  exact arrives_step hstands h (Nat.succ_pos _)

end Progress

/-- **What the last line that was read leads to**, if the reading ends: the outcome is reached in
    one step from where the reading stood in front of that line. -/
theorem Source.exists_last_arrives {source : Source}
    (h : (Progress.behind source.lines).isEnded = true) :
    ∃ raws raw rest, source.lines = raws ++ raw :: rest ∧ source.linesRead = raws.length + 1 ∧
      (Progress.behind raws).isEnded = false ∧
      (Progress.ended source.model).Arrives (Progress.behind raws).state
        ⟨raws.length + 1, raw.content⟩
        (Section.behindAll (source.lines.take source.linesRead)) := by
  obtain ⟨raws, raw, rest, hlines, hread, htaken, hraws⟩ := exists_last h
  have harrives := Progress.arrives_behind hraws raw
  rw [← htaken, behind_linesRead, behind_eq_ended h] at harrives
  exact ⟨raws, raw, rest, hlines, hread, hraws, harrives⟩

end LinearProgram

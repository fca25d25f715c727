/-
  Body — the lines of a document behind its direction, and which part each of them belongs to.

  1. **Bodies** — of the lines with content the first one gives the direction; what stands behind
     the direction counts as a line of its own. The other lines are the body (`Source.body`).

  2. **Parts** — the objectives end at a keyword or a relational character, the constraints at a
     section keyword. So the texts of the lines alone decide which of them are lines of objectives
     (`Source.objectiveLines`) and which are lines of constraints (`Source.constraintLines`).

  3. **Courses** — in a document that has a model, every line of a part is taken by that part, and
     wants another one (`Source.course_of_model`).
-/

import LinearProgram.Proofs.Document.Progress
import LinearProgram.Proofs.Document.WellFormed

namespace LinearProgram

open Cursor (Turn Verdict)

/-! ## Bodies -/

/-- The lines with content. -/
def Source.content (source : Source) : List Line :=
  source.numbered.filter fun l => ! l.text.isEmpty

/-- The lines with content behind the direction. What follows the direction on its line is a line
    too. -/
def Source.body (source : Source) : List Line :=
  match source.content with
  | [] => []
  | first :: rest =>
    match first.text.firstWord? with
    | some (_, some text) => ⟨first.number, text⟩ :: rest
    | _ => rest

theorem Text.firstWord?_rest_ne_nil {t word rest : Text}
    (h : t.firstWord? = some (word, some rest)) : rest ≠ [] := by
  unfold firstWord? at h
  dsimp only at h
  split at h
  · cases h
  · cases h
  · next hne =>
    cases h
    exact fun h0 => hne h0

/-- What stands behind the first word of a trimmed text is trimmed. -/
theorem Text.firstWord?_rest_isTrimmed {t word rest : Text} (ht : t.IsTrimmed)
    (h : t.firstWord? = some (word, some rest)) : rest.IsTrimmed := by
  have hrest : rest = trimStart ((trimStart t).dropWhile (! isBlank ·)) := by
    unfold firstWord? at h
    dsimp only at h
    split at h
    · cases h
    · cases h
    · next hne =>
      cases h
      rfl
  rw [trimStart_of_head ht.head] at hrest
  have hsuffix : rest <:+ t := by
    rw [hrest]
    exact (List.dropWhile_suffix _).trans (List.dropWhile_suffix _)
  obtain ⟨front, hfront⟩ := hsuffix
  constructor
  · intro c hc
    rw [hrest] at hc
    exact head_trimStart _ c hc
  · intro c hc
    apply ht.last
    rw [← hfront, List.getLast?_append, hc]
    rfl

theorem Line.of_mem_numbered {n : Nat} {ls : List Text} {l : Line} (h : l ∈ numbered n ls) :
    n < l.number ∧ ∃ raw ∈ ls, l.text = raw.content := by
  induction ls generalizing n with
  | nil => exact absurd h List.not_mem_nil
  | cons raw ls ih =>
    rcases List.mem_cons.mp h with rfl | h
    · exact ⟨Nat.lt_succ_self n, raw, List.mem_cons_self, rfl⟩
    · obtain ⟨hn, raw', hraw', htext⟩ := ih h
      exact ⟨Nat.lt_of_succ_lt hn, raw', List.mem_cons_of_mem raw hraw', htext⟩

theorem Source.text_ne_nil_of_mem_content {source : Source} {l : Line} (h : l ∈ source.content) :
    l.text ≠ [] := by
  have hl := (List.mem_filter.mp h).2
  intro h0
  rw [h0] at hl
  cases hl

/-- A line of the body is a line with content, or what stands behind the first word of one. -/
theorem Source.exists_content_of_mem_body {source : Source} {l : Line} (h : l ∈ source.body) :
    ∃ l' ∈ source.content, l.number = l'.number ∧
      (l.text = l'.text ∨ ∃ word, l'.text.firstWord? = some (word, some l.text)) := by
  unfold body at h
  cases hcontent : source.content with
  | nil =>
    rw [hcontent] at h
    exact absurd h List.not_mem_nil
  | cons first rest =>
    have hrest : l ∈ rest → ∃ l' ∈ first :: rest, l.number = l'.number ∧
        (l.text = l'.text ∨ ∃ word, l'.text.firstWord? = some (word, some l.text)) :=
      fun hl => ⟨l, List.mem_cons_of_mem first hl, rfl, Or.inl rfl⟩
    rw [hcontent] at h
    dsimp only at h
    split at h
    · next word text hword =>
      rcases List.mem_cons.mp h with rfl | h
      · exact ⟨first, List.mem_cons_self, rfl, Or.inr ⟨word, hword⟩⟩
      · exact hrest h
    · exact hrest h

theorem Source.text_ne_nil_of_mem_body {source : Source} {l : Line} (h : l ∈ source.body) :
    l.text ≠ [] := by
  obtain ⟨l', hl', -, htext | ⟨word, hword⟩⟩ := exists_content_of_mem_body h
  · rw [htext]
    exact text_ne_nil_of_mem_content hl'
  · exact Text.firstWord?_rest_ne_nil hword

theorem Source.isTrimmed_of_mem_body {source : Source} {l : Line} (h : l ∈ source.body) :
    l.text.IsTrimmed := by
  have hcontent : ∀ l' ∈ source.content, l'.text.IsTrimmed := by
    intro l' hl'
    obtain ⟨-, raw, -, htext⟩ := Line.of_mem_numbered (List.mem_filter.mp hl').1
    rw [htext]
    exact Text.isTrimmed_trim _
  obtain ⟨l', hl', -, htext | ⟨word, hword⟩⟩ := exists_content_of_mem_body h
  · rw [htext]
    exact hcontent l' hl'
  · exact Text.firstWord?_rest_isTrimmed (hcontent l' hl') hword

theorem Source.number_pos_of_mem_body {source : Source} {l : Line} (h : l ∈ source.body) :
    0 < l.number := by
  obtain ⟨l', hl', hnumber, -⟩ := exists_content_of_mem_body h
  rw [hnumber]
  exact (Line.of_mem_numbered (List.mem_filter.mp hl').1).1

theorem Line.pairwise_numbered (n : Nat) (ls : List Text) :
    (numbered n ls).Pairwise fun l l' => l.number < l'.number := by
  induction ls generalizing n with
  | nil => exact .nil
  | cons raw ls ih => exact .cons (fun l hl => (of_mem_numbered hl).1) (ih (n + 1))

/-- The numbers of the lines go up. -/
theorem Source.pairwise_body (source : Source) :
    source.body.Pairwise fun l l' => l.number < l'.number := by
  have hcontent : source.content.Pairwise fun l l' => l.number < l'.number :=
    (Line.pairwise_numbered 0 source.lines).sublist List.filter_sublist
  unfold body
  cases hlines : source.content with
  | nil => exact .nil
  | cons first rest =>
    rw [hlines] at hcontent
    obtain ⟨hfirst, hrest⟩ := List.pairwise_cons.mp hcontent
    dsimp only
    split
    · exact .cons hfirst hrest
    · exact hrest

/-- Lines without content may be left out. -/
theorem Progress.run_filter (p : Progress) (ls : List Line) :
    p.run (ls.filter fun l => ! l.text.isEmpty) = p.run ls := by
  induction ls generalizing p with
  | nil => rfl
  | cons l ls ih =>
    obtain ⟨n, text⟩ := l
    cases text with
    | nil =>
      rw [List.filter_cons_of_neg (by simp), run_cons, step_blank]
      exact ih p
    | cons c text =>
      rw [List.filter_cons_of_pos (by simp), run_cons, run_cons]
      exact ih _

/-- The first line with content, if it begins with a direction, leads to the objectives. -/
theorem Progress.step_start {l : Line} (hl : l.text ≠ []) {word : Text} {rest? : Option Text}
    {direction : Direction} (hword : l.text.firstWord? = some (word, rest?))
    (hdirection : Direction.ofWord? word = some direction) :
    Progress.start.step l =
      rest?.elim (.objectives { draft := Session.directed direction }) fun text =>
        (Progress.objectives { draft := Session.directed direction }).step ⟨l.number, text⟩ := by
  have hempty : l.text.isEmpty = false := List.isEmpty_eq_false_iff.mpr hl
  have hwords : Session.directionWords l.number l.text {} =
      (.ok rest?, Session.directed direction,
        [.foundDirection direction, .switched .objective]) := by
    unfold Session.directionWords
    rw [hword]
    dsimp only
    rw [hdirection]
    rfl
  unfold step
  dsimp only
  rw [hempty, if_neg Bool.false_ne_true, hwords]
  cases rest? with
  | none => rfl
  | some text =>
    have hverdict := Objectives.verdict_step (Text.firstWord?_rest_ne_nil hword) l.number
      { draft := Session.directed direction }
    dsimp only [ofDirection, Option.elim]
    rw [← hverdict]

theorem Source.map_text_numbered (source : Source) :
    source.numbered.map Line.text = source.lines.map Text.content := by
  have hfrom : ∀ (ls : List Text) (n : Nat),
      (Line.numbered n ls).map Line.text = ls.map Text.content := by
    intro ls
    induction ls with
    | nil => exact fun n => rfl
    | cons raw ls ih =>
      intro n
      rw [Line.numbered, List.map_cons, List.map_cons, ih]
  exact hfrom source.lines 0

theorem Source.direction?_eq (source : Source) :
    source.direction? = source.content.head?.bind fun l =>
      l.text.firstWord?.bind fun (word, _) => Direction.ofWord? word := by
  unfold direction? content
  rw [← map_text_numbered, List.head?_filter, List.find?_map, Option.bind_map]
  rfl

/-- **Behind its direction a document is its body.** -/
theorem Source.run_numbered {source : Source} {direction : Direction}
    (h : source.direction? = some direction) :
    Progress.run .start source.numbered =
      Progress.run (.objectives { draft := Session.directed direction }) source.body := by
  rw [← Progress.run_filter]
  show Progress.run .start source.content = _
  rw [direction?_eq] at h
  unfold body
  cases hcontent : source.content with
  | nil =>
    rw [hcontent] at h
    cases h
  | cons first rest =>
    have hfirst : first.text ≠ [] :=
      text_ne_nil_of_mem_content (hcontent ▸ List.mem_cons_self)
    rw [hcontent] at h
    have hbind : (first.text.firstWord?.bind fun (word, _) => Direction.ofWord? word) =
      some direction := h
    obtain ⟨⟨word, rest?⟩, hword, hdirection⟩ := Option.bind_eq_some_iff.mp hbind
    rw [Progress.run_cons, Progress.step_start hfirst hword hdirection]
    dsimp only
    rw [hword]
    cases rest? with
    | none => rfl
    | some text => rfl

/-- A document that has a model has a direction. -/
theorem Source.exists_direction {source : Source} {m : Model} (h : source.model = .ok m) :
    ∃ direction, source.direction? = some direction := by
  rw [model_eq_outcome, ← Progress.run_filter] at h
  rw [direction?_eq]
  show ∃ direction, source.content.head?.bind _ = _
  have hrun : (Progress.run .start source.content).outcome source.ending source.lines.length =
    .ok m := h
  cases hcontent : source.content with
  | nil =>
    rw [hcontent] at hrun
    cases hrun
  | cons first rest =>
    have hempty : first.text.isEmpty = false :=
      List.isEmpty_eq_false_iff.mpr (text_ne_nil_of_mem_content (hcontent ▸ List.mem_cons_self))
    have hfault : ∀ fault d events, Session.directionWords first.number first.text {} ≠
        (.error fault, d, events) := by
      intro fault d events hwords
      rw [hcontent, Progress.run_cons, Progress.step, hempty, if_neg Bool.false_ne_true, hwords,
        Progress.ofDirection, Progress.failed, Progress.run_ended] at hrun
      cases hrun
    unfold Session.directionWords at hfault
    cases hword : first.text.firstWord? with
    | none =>
      rw [hword] at hfault
      exact absurd rfl (hfault _ _ _)
    | some split =>
      obtain ⟨word, rest?⟩ := split
      rw [hword] at hfault
      dsimp only at hfault
      cases hdirection : Direction.ofWord? word with
      | none =>
        rw [hdirection] at hfault
        exact absurd rfl (hfault _ _ _)
      | some direction =>
        refine ⟨direction, ?_⟩
        show first.text.firstWord?.bind _ = _
        rw [hword]
        exact hdirection

/-- **A model is reached through the body.** -/
theorem Source.run_body_of_model {source : Source} {m : Model} (h : source.model = .ok m) :
    ∃ direction, source.direction? = some direction ∧
      Progress.run (.objectives { draft := Session.directed direction }) source.body =
        .ended (.ok m) := by
  obtain ⟨direction, hdirection⟩ := exists_direction h
  refine ⟨direction, hdirection, ?_⟩
  rw [model_eq_outcome, run_numbered hdirection] at h
  revert h
  cases Progress.run (.objectives { draft := Session.directed direction }) source.body with
  | ended result => exact fun h => congrArg Progress.ended h
  | _ => exact fun h => nomatch h

/-! ## Parts -/

namespace Line

/-- Does the line begin a section of declarations, or end the document? -/
def isSection (l : Line) : Bool := (Keyword.section? l.text).isSome

/-- Is the line one of the objective section? -/
def isObjective (l : Line) : Bool :=
  ! Keyword.opensConstraints l.text && ! l.isSection && ! Relation.occursIn l.text

theorem text_ne_nil_of_section {l : Line} {target : Section}
    (h : Keyword.section? l.text = some target) : l.text ≠ [] := by
  intro h0
  rw [h0] at h
  cases h

theorem text_ne_nil_of_opensConstraints {l : Line} (h : Keyword.opensConstraints l.text = true) :
    l.text ≠ [] := by
  intro h0
  rw [h0] at h
  cases h

theorem text_ne_nil_of_occursIn {l : Line} (h : Relation.occursIn l.text = true) :
    l.text ≠ [] := by
  intro h0
  rw [h0] at h
  cases h

end Line

/-- No section keyword opens the constraints. -/
theorem Keyword.opensConstraints_of_section {text : Text} {target : Section}
    (h : section? text = some target) : opensConstraints text = false := by
  have hnone : ∀ t ∈ constraintsSpellings, sectionSpellings.lookup t = none := by
    decide
  unfold section? at h
  unfold opensConstraints
  rw [← Bool.not_eq_true, List.contains_eq_mem, decide_eq_true_eq]
  intro hmem
  rw [hnone _ hmem] at h
  cases h

/-- The lines of the objectives. -/
def Source.objectiveLines (source : Source) : List Line := source.body.takeWhile Line.isObjective

/-- The lines of the constraints: behind a keyword that opens them, or from the first line with a
    relational character on. -/
def Source.constraintLines (source : Source) : List Line :=
  match source.body.dropWhile Line.isObjective with
  | [] => []
  | l :: rest =>
    (if Keyword.opensConstraints l.text then rest else l :: rest).takeWhile (! ·.isSection)

theorem Source.constraintLines_sublist (source : Source) :
    source.constraintLines.Sublist source.body := by
  unfold constraintLines
  cases hdrop : source.body.dropWhile Line.isObjective with
  | nil => exact List.nil_sublist _
  | cons l rest =>
    have hsuffix : (l :: rest).Sublist source.body := by
      rw [← hdrop]
      exact List.dropWhile_sublist _
    refine (List.takeWhile_sublist _).trans ?_
    split
    · exact (List.sublist_cons_self l rest).trans hsuffix
    · exact hsuffix

/-! ## Lines that are taken -/

/-- A step function takes line after line, and wants another one each time. -/
inductive Takes {σ α : Type} (step : Nat → Text → σ → Turn σ α) : List Line → σ → σ → Prop where
  | nil {s : σ} : Takes step [] s s
  | snoc {ls : List Line} {l : Line} {s s' s'' : σ} (h : Takes step ls s s')
      (hl : (step l.number l.text s').verdict = .more s'') : Takes step (ls ++ [l]) s s''

theorem Takes.cons {σ α : Type} {step : Nat → Text → σ → Turn σ α} {l : Line} {ls : List Line}
    {s s' s'' : σ} (hl : (step l.number l.text s).verdict = .more s') (h : Takes step ls s' s'') :
    Takes step (l :: ls) s s'' := by
  induction h with
  | nil => exact .snoc .nil hl
  | snoc _ hlast ih => exact .snoc (ih hl) hlast

namespace Progress

theorem run_failed_ne {n : Nat} {d : Draft} {fault : Fault} {ls : List Line} {m : Model} :
    (failed n d fault).run ls ≠ .ended (.ok m) := by
  rw [failed, run_ended]
  intro h
  cases h

/-! ### Objectives -/

/-- A line that is taken leads on to the next line. -/
theorem run_objectives_cons {l : Line} {s s' : Objectives.State}
    (h : (Objectives.step l.number l.text s).verdict = .more s') (ls : List Line) :
    run (.objectives s) (l :: ls) = run (.objectives s') ls := by
  have hstep : (Progress.objectives s).step l = .objectives s' := by
    show ofObjectives l.number (Objectives.step l.number l.text s).verdict = _
    rw [h]
    rfl
  rw [run_cons, hstep]

/-- A line of the objective section is taken in a document that has a model. -/
theorem exists_more_of_objective {l : Line} (hl : l.isObjective = true) {s : Objectives.State}
    {ls : List Line} {m : Model} (h : run (.objectives s) (l :: ls) = .ended (.ok m)) :
    ∃ s', (Objectives.step l.number l.text s).verdict = .more s' ∧
      run (.objectives s') ls = .ended (.ok m) := by
  unfold Line.isObjective Line.isSection at hl
  simp only [Bool.and_eq_true, Bool.not_eq_true'] at hl
  obtain ⟨⟨hopens, hsection⟩, hoccurs⟩ := hl
  have heffect := Objectives.step_effect l.number l.text s
  cases hverdict : (Objectives.step l.number l.text s).verdict with
  | more s' => exact ⟨s', rfl, run_objectives_cons hverdict ls ▸ h⟩
  | failed s' fault =>
    have hstep : (Progress.objectives s).step l = failed l.number s'.draft fault := by
      show ofObjectives l.number (Objectives.step l.number l.text s).verdict = _
      rw [hverdict]
      rfl
    rw [run_cons, hstep] at h
    exact absurd h run_failed_ne
  | done s' pending =>
    rw [hverdict] at heffect
    cases heffect with
    | keyword target ht =>
      rcases ht with ⟨ht, -⟩ | ht
      · rw [hopens] at ht
        cases ht
      · rw [ht] at hsection
        cases hsection
    | implicit ht =>
      rw [hoccurs] at ht
      cases ht

/-- **The lines of the objectives are taken one by one** in a document that has a model, and another
    line follows. -/
theorem objectives_course {s : Objectives.State} {ls : List Line} {m : Model}
    (h : run (.objectives s) ls = .ended (.ok m)) :
    ∃ s' stop rest, Takes Objectives.step (ls.takeWhile Line.isObjective) s s' ∧
      ls.dropWhile Line.isObjective = stop :: rest ∧
      run (.objectives s') (stop :: rest) = .ended (.ok m) := by
  induction ls generalizing s with
  | nil => cases h
  | cons l ls ih =>
    by_cases hl : l.isObjective = true
    · rw [List.takeWhile_cons_of_pos hl, List.dropWhile_cons_of_pos hl]
      obtain ⟨s', hmore, h⟩ := exists_more_of_objective hl h
      obtain ⟨s'', stop, rest, htakes, hrest, hrun⟩ := ih h
      exact ⟨s'', stop, rest, .cons hmore htakes, hrest, hrun⟩
    · rw [List.takeWhile_cons_of_neg hl, List.dropWhile_cons_of_neg hl]
      exact ⟨s, l, ls, .nil, rfl, h⟩

/-- The draft in which the constraints begin. -/
def beforeConstraints (s : Objectives.State) : Draft :=
  Objectives.complete (s.draft.switch .constraints)

theorem beforeConstraints_stage (s : Objectives.State) :
    (beforeConstraints s).stage = .constraints := Objectives.complete_stage _

/-- Behind a section keyword directly behind the objectives. -/
theorem step_objectives_section {l : Line} {target : Section}
    (h : Keyword.section? l.text = some target) (s : Objectives.State) :
    (Progress.objectives s).step l =
      behindKeyword l.number (Objectives.complete (s.draft.switch target)) := by
  have htarget : target ≠ .constraints := by
    rintro rfl
    rcases Section.declares_of_keyword h with (h | h | h) | h <;> cases h
  show ofObjectives l.number (Objectives.step l.number l.text s).verdict = _
  rw [Objectives.verdict_step (Line.text_ne_nil_of_section h)]
  unfold Objectives.line
  rw [Keyword.opensConstraints_of_section h, if_neg Bool.false_ne_true, h]
  show behindObjectives l.number (Objectives.complete (s.draft.switch target)) none = _
  unfold behindObjectives
  rw [if_neg]
  rw [Objectives.complete_stage]
  exact htarget

/-- Behind a keyword that opens the constraints. -/
theorem step_opensConstraints {l : Line} (h : Keyword.opensConstraints l.text = true)
    (s : Objectives.State) :
    (Progress.objectives s).step l = .constraints { draft := beforeConstraints s } := by
  show ofObjectives l.number (Objectives.step l.number l.text s).verdict = _
  rw [Objectives.verdict_step (Line.text_ne_nil_of_opensConstraints h)]
  unfold Objectives.line
  rw [if_pos h]
  show behindObjectives l.number (beforeConstraints s) none = _
  unfold behindObjectives
  rw [if_pos (beforeConstraints_stage s)]

/-- A line with a relational character is read as the first line of the constraints. -/
theorem step_implicit {l : Line} (hopens : Keyword.opensConstraints l.text = false)
    (hsection : Keyword.section? l.text = none) (h : Relation.occursIn l.text = true)
    (s : Objectives.State) :
    (Progress.objectives s).step l =
      (Progress.constraints { draft := beforeConstraints s }).step l := by
  show ofObjectives l.number (Objectives.step l.number l.text s).verdict =
    ofConstraints l.number (Constraints.step l.number l.text _).verdict
  have hne := Line.text_ne_nil_of_occursIn h
  rw [Objectives.verdict_step hne, Constraints.verdict_step hne]
  unfold Objectives.line
  rw [hopens, if_neg Bool.false_ne_true, hsection]
  dsimp only
  rw [if_pos h]
  show behindObjectives l.number (beforeConstraints s) (some l.text) = _
  unfold behindObjectives
  rw [if_pos (beforeConstraints_stage s)]

/-! ### Constraints -/

/-- A line that is taken leads on to the next line. -/
theorem run_constraints_cons {l : Line} {s s' : Constraints.State}
    (h : (Constraints.step l.number l.text s).verdict = .more s') (ls : List Line) :
    run (.constraints s) (l :: ls) = run (.constraints s') ls := by
  have hstep : (Progress.constraints s).step l = .constraints s' := by
    show ofConstraints l.number (Constraints.step l.number l.text s).verdict = _
    rw [h]
    rfl
  rw [run_cons, hstep]

/-- A line of the constraints section is taken in a document that has a model. -/
theorem exists_more_of_constraint {l : Line} (hl : l.isSection = false) {s : Constraints.State}
    {ls : List Line} {m : Model} (h : run (.constraints s) (l :: ls) = .ended (.ok m)) :
    ∃ s', (Constraints.step l.number l.text s).verdict = .more s' ∧
      run (.constraints s') ls = .ended (.ok m) := by
  have heffect := Constraints.step_effect l.number l.text s
  cases hverdict : (Constraints.step l.number l.text s).verdict with
  | more s' => exact ⟨s', rfl, run_constraints_cons hverdict ls ▸ h⟩
  | failed s' fault =>
    have hstep : (Progress.constraints s).step l = failed l.number s'.draft fault := by
      show ofConstraints l.number (Constraints.step l.number l.text s).verdict = _
      rw [hverdict]
      rfl
    rw [run_cons, hstep] at h
    exact absurd h run_failed_ne
  | done s' a =>
    rw [hverdict] at heffect
    cases heffect with
    | keyword target ht _ =>
      unfold Line.isSection at hl
      rw [ht] at hl
      cases hl
    | contributes body s'' v he hv =>
      cases hv

/-- Behind a section keyword in the constraints, where no constraint may be left open. -/
theorem step_constraints_section {l : Line} {target : Section}
    (h : Keyword.section? l.text = some target) (s : Constraints.State) :
    (Progress.constraints s).step l =
      match s.current with
      | some c => failed l.number s.draft (Constraints.unfinished c)
      | none => behindKeyword l.number (s.draft.switch target) := by
  show ofConstraints l.number (Constraints.step l.number l.text s).verdict = _
  rw [Constraints.verdict_step (Line.text_ne_nil_of_section h)]
  unfold Constraints.line
  rw [h]
  cases s.current <;> rfl

/-- **The lines of the constraints are taken one by one** in a document that has a model; then a
    section keyword follows, and no constraint is left open. -/
theorem constraints_course {s : Constraints.State} {ls : List Line} {m : Model}
    (h : run (.constraints s) ls = .ended (.ok m)) :
    ∃ s' stop rest target, Takes Constraints.step (ls.takeWhile (! ·.isSection)) s s' ∧
      ls.dropWhile (! ·.isSection) = stop :: rest ∧ Keyword.section? stop.text = some target ∧
      s'.current = none ∧
      run (behindKeyword stop.number (s'.draft.switch target)) rest = .ended (.ok m) := by
  induction ls generalizing s with
  | nil => cases h
  | cons l ls ih =>
    by_cases hl : l.isSection = true
    · rw [List.takeWhile_cons_of_neg (by simp [hl]), List.dropWhile_cons_of_neg (by simp [hl])]
      obtain ⟨target, htarget⟩ := Option.isSome_iff_exists.mp hl
      cases hcurrent : s.current with
      | none =>
        rw [run_cons, step_constraints_section htarget, hcurrent] at h
        exact ⟨s, l, ls, target, .nil, rfl, htarget, hcurrent, h⟩
      | some c =>
        rw [run_cons, step_constraints_section htarget, hcurrent] at h
        exact absurd h run_failed_ne
    · rw [Bool.not_eq_true] at hl
      rw [List.takeWhile_cons_of_pos (by simp [hl]), List.dropWhile_cons_of_pos (by simp [hl])]
      obtain ⟨s', hmore, h⟩ := exists_more_of_constraint hl h
      obtain ⟨s'', stop, rest, target, htakes, hrest, hstop, hnone, hrun⟩ := ih h
      exact ⟨s'', stop, rest, target, .cons hmore htakes, hrest, hstop, hnone, hrun⟩

/-! ### Declarations -/

/-- The model is made of the objectives and constraints that are there at the end marker. -/
theorem ended_course {n : Nat} {d : Draft} {ls : List Line} {m : Model} (hd : d.stage = .finish)
    (h : run (behindKeyword n d) ls = .ended (.ok m)) :
    m.objectives = d.objectives ∧ m.constraints = d.constraints := by
  unfold behindKeyword at h
  rw [if_pos hd] at h
  cases hmodel : Session.modelOf d with
  | error cause =>
    rw [hmodel] at h
    exact absurd h run_failed_ne
  | ok m' =>
    rw [hmodel] at h
    dsimp only at h
    rw [run_ended] at h
    cases h
    obtain ⟨hobjectives, hconstraints, -⟩ := Session.modelOf_eq_ok hmodel
    exact ⟨hobjectives, hconstraints⟩

/-- Declarations change neither objectives nor constraints. -/
theorem declarations_course {d : Draft} {ls : List Line} {m : Model}
    (h : run (.declarations d) ls = .ended (.ok m)) :
    m.objectives = d.objectives ∧ m.constraints = d.constraints := by
  induction ls generalizing d with
  | nil => cases h
  | cons l ls ih =>
    rw [run_cons] at h
    have heffect := Declarations.step_effect l.number l.text d
    change run (ofDeclarations l.number (Declarations.step l.number l.text d).verdict) ls = _ at h
    generalize (Declarations.step l.number l.text d).verdict = v at h heffect
    cases heffect with
    | blank _ => exact ih h
    | keyword target _ =>
      change run (behindKeyword l.number (d.switch target)) ls = _ at h
      by_cases hfinish : (d.switch target).stage = .finish
      · exact ended_course (d := d.switch target) hfinish h
      · unfold behindKeyword at h
        rw [if_neg hfinish] at h
        exact ih (d := d.switch target) h
    | lists kind table _ _ => exact ih (d := { d with table }) h
    | bounds b _ _ => exact ih (d := { d with table := b.apply d.table }) h
    | unlisted _ _ _ _ _ => exact absurd h run_failed_ne
    | refused _ _ _ => exact absurd h run_failed_ne

/-- Behind a section keyword no objective and no constraint is added. -/
theorem behindKeyword_course {n : Nat} {d : Draft} {ls : List Line} {m : Model}
    (h : run (behindKeyword n d) ls = .ended (.ok m)) :
    m.objectives = d.objectives ∧ m.constraints = d.constraints := by
  by_cases hfinish : d.stage = .finish
  · exact ended_course hfinish h
  · unfold behindKeyword at h
    rw [if_neg hfinish] at h
    exact declarations_course h

end Progress

/-! ## Courses -/

/-- Constraints are read without a change to the objectives. -/
theorem Constraints.objectives_of_takes {ls : List Line} {s s' : State}
    (h : Takes Constraints.step ls s s') : s'.draft.objectives = s.draft.objectives := by
  induction h with
  | nil => rfl
  | @snoc ls l s s' s'' _ hl ih =>
    have heffect := step_effect l.number l.text s'
    rw [hl] at heffect
    rw [← ih]
    cases heffect with
    | blank _ => rfl
    | enters s'' he =>
      cases he <;> rfl
    | contributes body s₁ v he hv =>
      have hs₁ : s₁.draft = s'.draft := by
        cases he <;> rfl
      rw [← hs₁]
      cases hv with
      | adds _ _ _ _ => rfl
      | closes c d relation rhs said _ hc finished _ =>
        rcases hc with ⟨-, -, rfl⟩ | ⟨_, _, -, -, -, rfl⟩ <;> rfl

/-- Objectives are read without a change to the constraints. -/
theorem Objectives.constraints_of_takes {ls : List Line} {s s' : State}
    (h : Takes Objectives.step ls s s') : s'.draft.constraints = s.draft.constraints := by
  have hnamed : ∀ (s : State) (name? : Option Text),
      (s.named name?).draft.constraints = s.draft.constraints := by
    intro s name?
    cases name? <;> rfl
  have hopened : ∀ s : State, s.opened.draft.constraints = s.draft.constraints := by
    intro s
    unfold State.opened
    split <;> rfl
  induction h with
  | nil => rfl
  | @snoc ls l s s' s'' _ hl ih =>
    have heffect := step_effect l.number l.text s'
    rw [hl] at heffect
    rw [← ih]
    cases heffect with
    | blank _ => rfl
    | named name? _ => exact hnamed s' name?
    | adds name? body terms _ _ =>
      unfold State.extended
      dsimp only
      rw [Draft.mergeLast_constraints]
      exact (hopened _).trans (hnamed s' name?)

/-- Completing the objectives and going on to another section may change places. -/
theorem Objectives.complete_switch (d : Draft) (target : Section) :
    complete (d.switch target) = (complete d).switch target := by
  unfold complete Draft.switch
  dsimp only
  split <;> rfl

/-- What is read on the way from the direction of a document to its model. -/
structure Source.Course (source : Source) (m : Model) where
  direction : Direction
  /-- Behind the objectives. -/
  afterObjectives : Objectives.State
  /-- Behind the constraints. -/
  afterConstraints : Constraints.State
  /-- The keyword in front of the constraints, if there is one. -/
  opening : List Line
  /-- The first section keyword. -/
  stop : Line
  target : Section
  /-- The lines behind the first section keyword. -/
  rest : List Line
  hdirection : source.direction? = some direction
  hbody : source.body =
    source.objectiveLines ++ opening ++ source.constraintLines ++ stop :: rest
  hopening : ∀ l ∈ opening, Keyword.opensConstraints l.text = true
  hopening_length : opening.length ≤ 1
  hstop : Keyword.section? stop.text = some target
  hobjectives : Takes Objectives.step source.objectiveLines
    { draft := Session.directed direction } afterObjectives
  hconstraints : Takes Constraints.step source.constraintLines
    { draft := Progress.beforeConstraints afterObjectives } afterConstraints
  hclosed : afterConstraints.current = none
  hrest : Progress.run
    (Progress.behindKeyword stop.number (afterConstraints.draft.switch target)) rest =
      .ended (.ok m)

/-- The lines of the constraints and what is behind them, for lines that begin with the first one
    that is not a line of the objectives. -/
theorem Source.constraintLines_eq {source : Source} {stop : Line} {rest : List Line}
    (h : source.body.dropWhile Line.isObjective = stop :: rest) :
    source.constraintLines =
      (if Keyword.opensConstraints stop.text then rest else stop :: rest).takeWhile
        (! ·.isSection) := by
  unfold constraintLines
  rw [h]

/-- **A document that has a model takes its course.** -/
theorem Source.course_of_model {source : Source} {m : Model} (h : source.model = .ok m) :
    Nonempty (source.Course m) := by
  obtain ⟨direction, hdirection, hrun⟩ := run_body_of_model h
  obtain ⟨s, stop, rest, hobjectives, hdrop, hrun⟩ := Progress.objectives_course hrun
  have hbody : source.body = source.objectiveLines ++ stop :: rest := by
    rw [objectiveLines, ← hdrop, List.takeWhile_append_dropWhile]
  have hconstraintLines := constraintLines_eq hdrop
  by_cases hopens : Keyword.opensConstraints stop.text = true
  · -- behind a keyword that opens the constraints
    rw [if_pos hopens] at hconstraintLines
    rw [Progress.run_cons, Progress.step_opensConstraints hopens] at hrun
    obtain ⟨s', stop', rest', target, hconstraints, hdrop', hstop', hnone, hrun⟩ :=
      Progress.constraints_course hrun
    rw [← hconstraintLines] at hconstraints
    refine ⟨⟨direction, s, s', [stop], stop', target, rest', hdirection, ?_, ?_, Nat.le_refl 1,
      hstop', hobjectives, hconstraints, hnone, hrun⟩⟩
    · rw [hbody, hconstraintLines, ← hdrop', List.append_assoc, List.append_assoc,
        List.takeWhile_append_dropWhile]
      rfl
    · rintro l hl
      rw [List.mem_singleton.mp hl]
      exact hopens
  · rw [if_neg hopens] at hconstraintLines
    rw [Bool.not_eq_true] at hopens
    cases hsection : Keyword.section? stop.text with
    | some target =>
      -- a section keyword directly behind the objectives
      have hstop : stop.isSection = true := by
        unfold Line.isSection
        rw [hsection]
        rfl
      rw [List.takeWhile_cons_of_neg (by simp [hstop])] at hconstraintLines
      rw [Progress.run_cons, Progress.step_objectives_section hsection,
        Objectives.complete_switch] at hrun
      refine ⟨⟨direction, s, { draft := Progress.beforeConstraints s }, [], stop, target, rest,
        hdirection, ?_, (fun l hl => nomatch hl), Nat.zero_le 1, hsection, hobjectives, ?_, rfl, ?_⟩⟩
      · rw [hbody, hconstraintLines, List.append_nil, List.append_nil]
      · rw [hconstraintLines]
        exact .nil
      · show Progress.run (Progress.behindKeyword stop.number
          ((Objectives.complete (s.draft.switch .constraints)).switch target)) rest = _
        rw [Objectives.complete_switch]
        exact hrun
    | none =>
      -- a line with a relational character
      have hstopped : stop.isObjective = false := by
        have hhead := List.head?_dropWhile_not Line.isObjective source.body
        rw [hdrop] at hhead
        exact hhead
      have hoccurs : Relation.occursIn stop.text = true := by
        unfold Line.isObjective Line.isSection at hstopped
        rw [hopens, hsection] at hstopped
        simpa using hstopped
      rw [Progress.run_cons, Progress.step_implicit hopens hsection hoccurs,
        ← Progress.run_cons] at hrun
      obtain ⟨s', stop', rest', target, hconstraints, hdrop', hstop', hnone, hrun⟩ :=
        Progress.constraints_course hrun
      rw [← hconstraintLines] at hconstraints
      refine ⟨⟨direction, s, s', [], stop', target, rest', hdirection, ?_,
        (fun l hl => nomatch hl), Nat.zero_le 1, hstop', hobjectives, hconstraints, hnone, hrun⟩⟩
      rw [hbody, hconstraintLines, ← hdrop', List.append_nil, List.append_assoc,
        List.takeWhile_append_dropWhile]

namespace Source.Course

variable {source : Source} {m : Model} (c : source.Course m)
include c

/-- The objectives of the model are those behind the objective section. -/
theorem model_objectives :
    m.objectives = (Objectives.complete c.afterObjectives.draft).objectives := by
  rw [(Progress.behindKeyword_course c.hrest).1]
  show c.afterConstraints.draft.objectives = _
  rw [Constraints.objectives_of_takes c.hconstraints]
  show (Objectives.complete (c.afterObjectives.draft.switch .constraints)).objectives = _
  rw [Objectives.complete_switch]
  rfl

/-- The constraints of the model are those behind the constraints section. -/
theorem model_constraints : m.constraints = c.afterConstraints.draft.constraints :=
  (Progress.behindKeyword_course c.hrest).2

/-- In front of the constraints section there is no constraint. -/
theorem beforeConstraints_constraints :
    (Progress.beforeConstraints c.afterObjectives).constraints = [] := by
  show (Objectives.complete _).constraints = []
  rw [Objectives.complete_constraints]
  exact Objectives.constraints_of_takes c.hobjectives

end Source.Course

end LinearProgram

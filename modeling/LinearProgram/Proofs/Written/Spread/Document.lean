/-
  Document — documents that differ in the line breaks of one body.

  1. **Breaks** — the body of an objective or of a constraint, on one line and spread over several
     lines; in front of it and behind it the documents agree.

  2. **Runs** — what stands in front of the body leads both readings to the same state. From there
     several lines that are all taken come to the same as the one line (`Break.run_whole`), and the
     one line comes to the same as several lines that can be read alone (`Break.run_broken`), so
     that the readings go on alike.

  3. **Documents** — the lines behind the body have different numbers in the two documents. They are
     compared with all numbers collapsed to one, which reading does not notice.

  A relational character begins the constraints where no keyword has done so. In that case the rows
  in front of the operator would still be lines of objectives: the body of such a constraint changes
  its meaning when it is broken. So does a body that is broken behind a minus, which is lost at the
  end of its row (`changed_of_break_minus`).
-/

import LinearProgram.Proofs.Document.Assembly
import LinearProgram.Proofs.Document.Renumbering
import LinearProgram.Proofs.Reading
import LinearProgram.Proofs.Written.Spread.Constraint
import LinearProgram.Proofs.Written.Spread.Objective

namespace LinearProgram

open Written

/-! ## Breaks -/

namespace Written

/-- Where a body may stand: an objective behind lines of objectives, a constraint, which has an
    operator and a value, in front of the sections of declarations. -/
inductive Place (before : List Text) : Option Closing → Prop where
  | objective (h : ∀ t ∈ before, Keyword.opensConstraints t = false ∧ Keyword.section? t = none ∧
      Relation.occursIn t = false) : Place before none
  | constraint (e : Closing) (h : ∀ t ∈ before, Keyword.section? t = none) : Place before (some e)

/-- The body of an objective or of a constraint, as a list of signed terms of different variables,
    on one line and in rows that are spread over lines. A constraint ends with its operator and its
    value. -/
structure Break where
  /-- The lines in front of the body. -/
  before : List Text
  /-- The lines behind the body. -/
  after : List Text
  head : Text
  closing? : Option Closing
  rows : List (List Piece)
  /-- The lines that the rows are laid out on. -/
  broken : List Text
  /-- The one line that all the rows are laid out on. -/
  whole : Text
  isHead : IsHead head
  isPlaced : Place before closing?
  isOrderly : Orderly rows.flatten
  isDistinct : (mentions rows.flatten).Nodup
  spreadBroken : Spread (closing?.elim [] Closing.text) head rows broken
  spreadWhole : Spread (closing?.elim [] Closing.text) head [rows.flatten] [whole]

namespace Break

/-- The documents have the direction and all lines in common but those of the body, which the first
    one breaks. -/
def Between (b : Break) (t t' : Text) : Prop :=
  (Source.ofText t).direction? = (Source.ofText t').direction? ∧
    (Source.ofText t).body.map Line.text = b.before ++ (b.broken ++ b.after) ∧
    (Source.ofText t').body.map Line.text = b.before ++ b.whole :: b.after

/-- The section of the body has begun in front of it. Constraints begin with a keyword or a
    relational character. -/
def Begun (b : Break) : Prop :=
  b.closing? = none ∨
    ∃ t ∈ b.before, Keyword.opensConstraints t = true ∨ Relation.occursIn t = true

end Break

/-! ### A sum, broken in front of its plus, and a difference, broken behind its minus -/

def Numeral.two : Numeral where
  whole := "2".toList
  fraction? := none
  exponent? := none
  isDigits_whole c hc := by
    rw [List.mem_singleton.mp hc]
    rfl
  isDigits_fraction c hc := absurd hc List.not_mem_nil
  ne_nil := List.cons_ne_nil _ _

theorem opensNothing_letters : ∀ t ∈ ["x".toList, "y".toList],
    Keyword.opensConstraints t = false ∧ Keyword.section? t = none := by decide +kernel

def OrdinaryName.x : OrdinaryName where
  text := "x".toList
  isName := rfl
  opensNothing := opensNothing_letters _ List.mem_cons_self

def OrdinaryName.y : OrdinaryName where
  text := "y".toList
  isName := rfl
  opensNothing := opensNothing_letters _ (List.mem_cons_of_mem _ List.mem_cons_self)

theorem read_four : Quantity.read "4".toList = .ok 4.0 := by decide +kernel

def Closing.atMostFour : Closing where
  operator := { text := "<=".toList, relation := .le, known := rfl }
  gap := " ".toList
  rhs :=
    { text := "4".toList
      number := 4.0
      isTrimmed := Text.isTrimmed_singleton rfl
      read := read_four }
  isBlankOnly := rfl

theorem lays_product {ps : List Piece} {gap t : Text} (hgap : gap.isBlankOnly = true)
    (h : Lays ps t) :
    Lays (.literal .two :: .name .x :: ps) (gap ++ ("2 x".toList ++ t)) := by
  refine @Lays.cons _ _ gap (" x".toList ++ t) hgap ?_ (@Lays.cons _ _ [' '] t rfl trivial h)
  intro c hc
  cases hc
  rfl

/-- `2 x + y <= 4` behind other lines, broken in front of its plus. -/
def Break.sum (before : List Text) (hbefore : ∀ t ∈ before, Keyword.section? t = none) :
    Break where
  before := before
  after := ["end".toList]
  head := []
  closing? := some .atMostFour
  rows := [[.literal .two, .name .x], [.sign .plus, .name .y]]
  broken := ["2 x".toList, "+ y <= 4".toList]
  whole := "2 x + y <= 4".toList
  isHead := Or.inl rfl
  isPlaced := .constraint _ hbefore
  isOrderly := by
    unfold Orderly
    decide
  isDistinct := by decide
  spreadBroken := by
    have hsum : Lays [.sign .plus, .name .y] "+ y ".toList :=
      @Lays.cons _ _ [] " y ".toList rfl trivial
        (@Lays.cons _ _ [' '] [' '] rfl trivial (.nil rfl))
    exact .cons (@lays_product _ [] _ rfl (.nil rfl)) (.last hsum)
  spreadWhole := by
    have hsum : Lays [.sign .plus, .name .y] " + y ".toList :=
      @Lays.cons _ _ [' '] " y ".toList rfl trivial
        (@Lays.cons _ _ [' '] [' '] rfl trivial (.nil rfl))
    exact .last (@lays_product _ [] _ rfl hsum)

theorem Break.detached_sum (before : List Text)
    (hbefore : ∀ t ∈ before, Keyword.section? t = none) :
    Detached (Break.sum before hbefore).rows := by
  intro row hrow
  rcases List.mem_cons.mp hrow with rfl | hrow
  · constructor
    · exact fun h => nomatch h
    · exact fun n h => nomatch h
  · rw [List.mem_singleton.mp hrow]
    constructor
    · exact fun h => nomatch h
    · exact fun n h => nomatch h

/-- `c: 2 x - y <= 4` behind the keyword of the constraints, broken behind its minus. -/
def Break.difference : Break where
  before := ["z".toList, "st".toList]
  after := ["end".toList]
  head := "c:".toList
  closing? := some .atMostFour
  rows := [[.literal .two, .name .x, .sign .minus], [.name .y]]
  broken := ["c: 2 x -".toList, "y <= 4".toList]
  whole := "c: 2 x - y <= 4".toList
  isHead := by
    refine Or.inr ⟨"c".toList, rfl, fun c hc => ?_⟩
    rw [List.mem_singleton.mp hc]
    rfl
  isPlaced := .constraint _ (by decide +kernel)
  isOrderly := by
    unfold Orderly
    decide
  isDistinct := by decide
  spreadBroken := by
    have hminus : Lays [.sign .minus] " -".toList :=
      @Lays.cons _ _ [' '] [] rfl trivial (.nil rfl)
    have hname : Lays [.name .y] "y ".toList := @Lays.cons _ _ [] [' '] rfl trivial (.nil rfl)
    exact .cons (@lays_product _ [' '] _ rfl hminus) (.last hname)
  spreadWhole := by
    have hdifference : Lays [.sign .minus, .name .y] " - y ".toList :=
      @Lays.cons _ _ [' '] " y ".toList rfl trivial
        (@Lays.cons _ _ [' '] [' '] rfl trivial (.nil rfl))
    exact .last (@lays_product _ [' '] _ rfl hdifference)

end Written

/-! ## Runs -/

namespace Progress

variable {ls rest : List Line} {m : Model}

/-- Behind lines of objectives the objectives go on. -/
theorem run_objectiveLines {s : Objectives.State} (h : ∀ l ∈ ls, l.isObjective = true)
    (hrun : run (.objectives s) (ls ++ rest) = .ended (.ok m)) :
    ∃ s', run (.objectives s) ls = .objectives s' := by
  induction ls generalizing s with
  | nil => exact ⟨s, rfl⟩
  | cons l ls ih =>
    obtain ⟨s', hmore, hrun⟩ := exists_more_of_objective (h l List.mem_cons_self) hrun
    rw [run_objectives_cons hmore]
    exact ih (fun l hl => h l (List.mem_cons_of_mem _ hl)) hrun

/-- In front of a section keyword the constraints go on. -/
theorem run_constraintLines {s : Constraints.State} (h : ∀ l ∈ ls, l.isSection = false)
    (hrun : run (.constraints s) (ls ++ rest) = .ended (.ok m)) :
    ∃ s', run (.constraints s) ls = .constraints s' := by
  induction ls generalizing s with
  | nil => exact ⟨s, rfl⟩
  | cons l ls ih =>
    obtain ⟨s', hmore, hrun⟩ := exists_more_of_constraint (h l List.mem_cons_self) hrun
    rw [run_constraints_cons hmore]
    exact ih (fun l hl => h l (List.mem_cons_of_mem _ hl)) hrun

/-- A keyword or a relational character leads to the constraints. -/
theorem run_begun {s : Objectives.State} (h : ∀ l ∈ ls, l.isSection = false)
    (hbegun : ∃ l ∈ ls, Keyword.opensConstraints l.text = true ∨ Relation.occursIn l.text = true)
    (hrun : run (.objectives s) (ls ++ rest) = .ended (.ok m)) :
    ∃ s', run (.objectives s) ls = .constraints s' := by
  induction ls generalizing s with
  | nil =>
    obtain ⟨l, hl, -⟩ := hbegun
    exact absurd hl List.not_mem_nil
  | cons l ls ih =>
    have htail : ∀ l ∈ ls, l.isSection = false := fun l hl => h l (List.mem_cons_of_mem _ hl)
    have hsection := h l List.mem_cons_self
    rw [List.cons_append] at hrun
    by_cases hopens : Keyword.opensConstraints l.text = true
    · rw [run_cons, step_opensConstraints hopens] at hrun ⊢
      exact run_constraintLines htail hrun
    · rw [Bool.not_eq_true] at hopens
      by_cases hoccurs : Relation.occursIn l.text = true
      · -- the line is the first one of the constraints itself
        have hnone : Keyword.section? l.text = none := by
          unfold Line.isSection at hsection
          exact Option.not_isSome_iff_eq_none.mp (Bool.not_eq_true _ ▸ hsection)
        rw [run_cons, step_implicit hopens hnone hoccurs, ← run_cons] at hrun ⊢
        exact run_constraintLines h hrun
      · -- a line of objectives
        rw [Bool.not_eq_true] at hoccurs
        have hobjective : l.isObjective = true := by
          unfold Line.isObjective
          rw [hopens, hsection, hoccurs]
          rfl
        have hothers : ∃ l ∈ ls, Keyword.opensConstraints l.text = true ∨
            Relation.occursIn l.text = true := by
          obtain ⟨l', hl', hbegins⟩ := hbegun
          rcases List.mem_cons.mp hl' with rfl | hl'
          · rw [hopens, hoccurs] at hbegins
            rcases hbegins with hbegins | hbegins <;> cases hbegins
          · exact ⟨l', hl', hbegins⟩
        obtain ⟨s', hmore, hrun⟩ := exists_more_of_objective hobjective hrun
        rw [run_objectives_cons hmore]
        exact ih htail hothers hrun

end Progress

namespace Written

/-- Only one line stands for one row. -/
theorem Spread.exists_lays {head tail whole : Text} {ps : List Piece}
    (h : Spread tail head [ps] [whole]) : ∃ t, Lays ps t ∧ whole = head ++ (t ++ tail) := by
  cases h with
  | last h => exact ⟨_, h, rfl⟩
  | cons h hrows => cases hrows

section

variable {head tail whole : Text} {rows : List (List Piece)} {broken : List Text}
  (hbroken : Spread tail head rows broken) (hwhole : Spread tail head [rows.flatten] [whole])
  (hhead : IsHead head) (ho : Orderly rows.flatten) (hd : (mentions rows.flatten).Nodup)
  (hlines : ∀ t ∈ broken, t ≠ [] ∧ t.IsTrimmed) (hline : whole ≠ [] ∧ whole.IsTrimmed)
  {rest : List Line} {n : Nat} {m : Model}
include hbroken hwhole hhead ho hd hlines hline

/-- The lines of an objective may be put on one line, if none of them ends with a minus. -/
theorem run_wholeObjective (htail : tail = [])
    (hminus : ∀ row ∈ rows, row.getLast? ≠ some (.sign .minus)) {s : Objectives.State}
    (hrun : Progress.run (.objectives s) (broken.map (Line.mk n) ++ rest) = .ended (.ok m)) :
    Progress.run (.objectives s) (⟨n, whole⟩ :: rest) = .ended (.ok m) := by
  subst htail
  obtain ⟨t, hlays, rfl⟩ := hwhole.exists_lays
  rw [List.append_nil] at hline ⊢
  obtain ⟨s', ts, henters, hts, hrun⟩ := run_objectives hbroken hhead hlines ho hd hrun
  rw [heardRows_eq_flatten hminus] at hts hrun
  rw [run_objectives_lays hlays ho hhead hline.1 hline.2 henters hts]
  exact hrun

/-- The line of an objective may be broken into lines that can be read alone. -/
theorem run_brokenObjective (htail : tail = []) (hrows : Detached rows) {s : Objectives.State}
    (hrun : Progress.run (.objectives s) (⟨n, whole⟩ :: rest) = .ended (.ok m)) :
    Progress.run (.objectives s) (broken.map (Line.mk n) ++ rest) = .ended (.ok m) := by
  subst htail
  obtain ⟨t, hlays, rfl⟩ := hwhole.exists_lays
  rw [List.append_nil] at hline hrun
  obtain ⟨s', ts, henters, hts, hrun⟩ :=
    reads_of_run_objectives hlays ho hhead hline.1 hline.2 hrun
  exact run_objectives_of_reads hbroken hhead hlines ho hd hrows henters hts hrun

/-- The lines of a constraint may be put on one line, if none of them ends with a minus. -/
theorem run_wholeConstraint {e : Closing} (htail : tail = e.text)
    (hminus : ∀ row ∈ rows, row.getLast? ≠ some (.sign .minus)) {s : Constraints.State}
    (hrun : Progress.run (.constraints s) (broken.map (Line.mk n) ++ rest) = .ended (.ok m)) :
    Progress.run (.constraints s) (⟨n, whole⟩ :: rest) = .ended (.ok m) := by
  subst htail
  obtain ⟨t, hlays, rfl⟩ := hwhole.exists_lays
  obtain ⟨s', ts, henters, hts, hcloses⟩ := run_constraints hbroken hhead hlines ho hd hrun
  rw [heardRows_eq_flatten hminus] at hts hcloses
  exact run_constraints_closes hlays ho hhead e hline.2 henters hts hcloses

/-- The line of a constraint may be broken into lines that can be read alone. -/
theorem run_brokenConstraint {e : Closing} (htail : tail = e.text) (hrows : Detached rows)
    {s : Constraints.State}
    (hrun : Progress.run (.constraints s) (⟨n, whole⟩ :: rest) = .ended (.ok m)) :
    Progress.run (.constraints s) (broken.map (Line.mk n) ++ rest) = .ended (.ok m) := by
  subst htail
  obtain ⟨t, hlays, rfl⟩ := hwhole.exists_lays
  obtain ⟨s', ts, henters, hts, hcloses⟩ :=
    closes_of_run_constraints hlays ho hhead e hline.2 hrun
  exact run_constraints_of_reads hbroken hhead hlines ho hd hrows henters hts hcloses

end

namespace Break

variable (b : Break) {s : Objectives.State} {n : Nat} {rest : List Line} {m : Model}

/-- In front of a body whose section has begun the reading has come to that section. -/
theorem exists_state (hbegun : b.Begun)
    (hrun : Progress.run (.objectives s) (b.before.map (Line.mk n) ++ rest) = .ended (.ok m)) :
    (b.closing? = none ∧
        ∃ s', Progress.run (.objectives s) (b.before.map (Line.mk n)) = .objectives s') ∨
      ∃ e, b.closing? = some e ∧
        ∃ s', Progress.run (.objectives s) (b.before.map (Line.mk n)) = .constraints s' := by
  have hplaced := b.isPlaced
  cases hclosing : b.closing? with
  | none =>
    rw [hclosing] at hplaced
    cases hplaced with
    | objective hbefore =>
      refine Or.inl ⟨rfl, Progress.run_objectiveLines ?_ hrun⟩
      intro l hl
      obtain ⟨t, ht, rfl⟩ := List.mem_map.mp hl
      obtain ⟨hopens, hsection, hoccurs⟩ := hbefore t ht
      unfold Line.isObjective Line.isSection
      rw [hopens, hsection, hoccurs]
      rfl
  | some e =>
    rw [hclosing] at hplaced
    cases hplaced with
    | constraint _ hbefore =>
      refine Or.inr ⟨e, rfl, Progress.run_begun ?_ ?_ hrun⟩
      · intro l hl
        obtain ⟨t, ht, rfl⟩ := List.mem_map.mp hl
        unfold Line.isSection
        rw [hbefore t ht]
        rfl
      · rcases hbegun with hnone | ⟨t, ht, hbegins⟩
        · rw [hclosing] at hnone
          cases hnone
        · exact ⟨⟨n, t⟩, List.mem_map_of_mem ht, hbegins⟩

section

variable (hbegun : b.Begun)
  (hbroken : ∀ t ∈ b.before ++ (b.broken ++ b.after), t ≠ [] ∧ t.IsTrimmed)
  (hwhole : b.whole ≠ [] ∧ b.whole.IsTrimmed)
include hbegun hbroken hwhole

/-- **A body that is broken into lines which are all taken is read as on one line**, if no row ends
    with a minus. -/
theorem run_whole (hminus : ∀ row ∈ b.rows, row.getLast? ≠ some (.sign .minus))
    (hrun : Progress.run (.objectives s) ((b.before ++ (b.broken ++ b.after)).map (Line.mk n)) =
      .ended (.ok m)) :
    Progress.run (.objectives s) ((b.before ++ b.whole :: b.after).map (Line.mk n)) =
      .ended (.ok m) := by
  have hlines : ∀ t ∈ b.broken, t ≠ [] ∧ t.IsTrimmed := fun t ht =>
    hbroken t (List.mem_append_right _ (List.mem_append_left _ ht))
  rw [List.map_append, List.map_append] at hrun
  rw [List.map_append, List.map_cons]
  rcases b.exists_state hbegun hrun with ⟨hclosing, s', hs'⟩ | ⟨e, hclosing, s', hs'⟩
  · rw [Progress.run_append, hs'] at hrun ⊢
    exact run_wholeObjective b.spreadBroken b.spreadWhole b.isHead b.isOrderly b.isDistinct hlines
      hwhole (by rw [hclosing]; rfl) hminus hrun
  · rw [Progress.run_append, hs'] at hrun ⊢
    exact run_wholeConstraint b.spreadBroken b.spreadWhole b.isHead b.isOrderly b.isDistinct hlines
      hwhole (by rw [hclosing]; rfl) hminus hrun

/-- **A body may be broken into lines that can be read alone.** -/
theorem run_broken (hrows : Detached b.rows)
    (hrun : Progress.run (.objectives s) ((b.before ++ b.whole :: b.after).map (Line.mk n)) =
      .ended (.ok m)) :
    Progress.run (.objectives s) ((b.before ++ (b.broken ++ b.after)).map (Line.mk n)) =
      .ended (.ok m) := by
  have hlines : ∀ t ∈ b.broken, t ≠ [] ∧ t.IsTrimmed := fun t ht =>
    hbroken t (List.mem_append_right _ (List.mem_append_left _ ht))
  rw [List.map_append, List.map_cons] at hrun
  rw [List.map_append, List.map_append]
  rcases b.exists_state hbegun hrun with ⟨hclosing, s', hs'⟩ | ⟨e, hclosing, s', hs'⟩
  · rw [Progress.run_append, hs'] at hrun ⊢
    exact run_brokenObjective b.spreadBroken b.spreadWhole b.isHead b.isOrderly b.isDistinct hlines
      hwhole (by rw [hclosing]; rfl) hrows hrun
  · rw [Progress.run_append, hs'] at hrun ⊢
    exact run_brokenConstraint b.spreadBroken b.spreadWhole b.isHead b.isOrderly b.isDistinct
      hlines hwhole (by rw [hclosing]; rfl) hrows hrun

end

end Break

end Written

/-! ## Documents -/

/-- All lines get the number one. -/
def Renumbering.collapse : Renumbering where
  apply n := min n 1
  apply_eq_zero_iff n := by omega

theorem Line.renumbered_collapse {l : Line} (h : 0 < l.number) :
    l.renumbered .collapse = ⟨1, l.text⟩ := by
  have hone : min l.number 1 = 1 := by omega
  unfold renumbered
  show Line.mk (min l.number 1) l.text = _
  rw [hone]

/-- The body of a document, all its lines with the number one. -/
theorem Source.body_renumbered_collapse (source : Source) :
    source.body.map (·.renumbered .collapse) = (source.body.map Line.text).map (Line.mk 1) := by
  rw [List.map_map]
  exact List.map_congr_left fun l hl => Line.renumbered_collapse (number_pos_of_mem_body hl)

/-- What a constraint says, wherever it stands. -/
def Constraint.said (c : Constraint) : Text × Coefficients × Relation × Float :=
  (c.name, c.coefficients, c.relation, c.rhs)

/-- The models have the same objectives, constraints and variables. Only the lines that the
    constraints begin on may be different ones. -/
structure Model.Agrees (m m' : Model) : Prop where
  objectives : m.objectives = m'.objectives
  constraints : m.constraints.map Constraint.said = m'.constraints.map Constraint.said
  vars : m.vars = m'.vars

theorem Model.agrees_of_renumbered {f : Renumbering} {m m' : Model}
    (h : m.renumbered f = m'.renumbered f) : m.Agrees m' := by
  have hsaid : ∀ m : Model, (m.renumbered f).constraints.map Constraint.said =
      m.constraints.map Constraint.said := by
    intro m
    show (m.constraints.map (·.renumbered f)).map Constraint.said = _
    rw [List.map_map]
    rfl
  have hobjectives : (m.renumbered f).objectives = (m'.renumbered f).objectives := by rw [h]
  have hvars : (m.renumbered f).vars = (m'.renumbered f).vars := by rw [h]
  refine ⟨hobjectives, ?_, hvars⟩
  rw [← hsaid m, ← hsaid m', h]

/-- The first text is refused for something in it, or has the model that the second one has. -/
def Source.RefusedOrAgrees (t t' : Text) : Prop :=
  (∃ fault, (ofText t).model = .error fault ∧ fault.cause.IsOfDocument) ∨
    ∃ m m', (ofText t).model = .ok m ∧ (ofText t').model = .ok m' ∧ m.Agrees m'

namespace Source

/-- A model is reached through the body, all its lines with the number one. -/
theorem run_collapsed_of_model {source : Source} {m : Model} (h : source.model = .ok m) :
    ∃ direction, source.direction? = some direction ∧
      Progress.run (.objectives { draft := Session.directed direction })
        ((source.body.map Line.text).map (Line.mk 1)) =
          .ended (.ok (m.renumbered .collapse)) := by
  obtain ⟨direction, hdirection, hrun⟩ := run_body_of_model h
  refine ⟨direction, hdirection, ?_⟩
  have hcollapsed := Progress.run_renumbered (f := .collapse)
    (.objectives { draft := Session.directed direction }) source.body
  rw [hrun, body_renumbered_collapse] at hcollapsed
  exact hcollapsed.symm

/-- If the lines of the body lead to a model under the number one, there is a model. -/
theorem exists_model_of_run_collapsed {source : Source} {direction : Direction} {m : Model}
    (hdirection : source.direction? = some direction)
    (h : Progress.run (.objectives { draft := Session.directed direction })
      ((source.body.map Line.text).map (Line.mk 1)) = .ended (.ok m)) :
    ∃ m', source.model = .ok m' ∧ m'.renumbered .collapse = m := by
  have hcollapsed := Progress.run_renumbered (f := .collapse)
    (.objectives { draft := Session.directed direction }) source.body
  rw [body_renumbered_collapse] at hcollapsed
  have hrun := hcollapsed.trans h
  rw [model_eq_outcome, run_numbered hdirection]
  revert hrun
  cases Progress.run (.objectives { draft := Session.directed direction }) source.body with
  | ended result =>
    intro hrun
    cases result with
    | ok m' => exact ⟨m', rfl, Except.ok.inj (Progress.ended.inj hrun)⟩
    | error fault => cases hrun
  | _ => exact fun hrun => nomatch hrun

/-- If the bodies of two documents with the same direction lead to the same models under the number
    one, then the second document has the model of the first one. -/
theorem exists_agrees_of_collapsed {source source' : Source}
    (hdirection : source.direction? = source'.direction?)
    (h : ∀ {s : Objectives.State} {m : Model},
      Progress.run (.objectives s) ((source.body.map Line.text).map (Line.mk 1)) =
        .ended (.ok m) →
      Progress.run (.objectives s) ((source'.body.map Line.text).map (Line.mk 1)) =
        .ended (.ok m))
    {m : Model} (hmodel : source.model = .ok m) : ∃ m', source'.model = .ok m' ∧ m.Agrees m' := by
  obtain ⟨direction, hsource, hrun⟩ := run_collapsed_of_model hmodel
  rw [hdirection] at hsource
  obtain ⟨m', hmodel', hsame⟩ := exists_model_of_run_collapsed hsource (h hrun)
  exact ⟨m', hmodel', Model.agrees_of_renumbered hsame.symm⟩

/-- **Line breaks do not change the meaning of a body**: the text with the body in rows is refused,
    or it says the same as the text with the body on one line. No row may end with a minus, and a
    constraint must stand in a section that has begun in front of it. Besides, the text with the
    rows is not refused if the other one is not, unless a row ends with a literal. -/
theorem refusedOrAgrees_of_break (b : Break) {t t' : Text} (h : b.Between t t') (hbegun : b.Begun)
    (hminus : ∀ row ∈ b.rows, row.getLast? ≠ some (.sign .minus)) :
    RefusedOrAgrees t t' ∧
      ((∀ row ∈ b.rows, ∀ n, row.getLast? ≠ some (.literal n)) →
        ∀ m', (ofText t').model = .ok m' → ∃ m, (ofText t).model = .ok m) := by
  obtain ⟨hdirections, hbody, hbody'⟩ := h
  have hlines : ∀ {t text : Text}, text ∈ (ofText t).body.map Line.text →
      text ≠ [] ∧ text.IsTrimmed := by
    intro t text htext
    obtain ⟨l, hl, rfl⟩ := List.mem_map.mp htext
    exact ⟨text_ne_nil_of_mem_body hl, isTrimmed_of_mem_body hl⟩
  have hbroken : ∀ text ∈ b.before ++ (b.broken ++ b.after), text ≠ [] ∧ text.IsTrimmed :=
    fun text htext => hlines (hbody ▸ htext)
  have hwhole : b.whole ≠ [] ∧ b.whole.IsTrimmed :=
    hlines (hbody' ▸ List.mem_append_right _ List.mem_cons_self)
  constructor
  · cases hmodel : (ofText t).model with
    | error fault => exact Or.inl ⟨fault, hmodel, (fault_ofText hmodel).1⟩
    | ok m =>
      obtain ⟨m', hmodel', hagrees⟩ := exists_agrees_of_collapsed hdirections (by
        rw [hbody, hbody']
        exact b.run_whole hbegun hbroken hwhole hminus) hmodel
      exact Or.inr ⟨m, m', hmodel, hmodel', hagrees⟩
  · intro hliteral m' hmodel'
    obtain ⟨m, hmodel, -⟩ := exists_agrees_of_collapsed hdirections.symm (by
      rw [hbody, hbody']
      exact b.run_broken hbegun hbroken hwhole fun row hrow =>
        ⟨hminus row hrow, hliteral row hrow⟩) hmodel'
    exact ⟨m, hmodel⟩

/-- A sum behind the keyword of the constraints. -/
theorem refusedOrAgrees_of_break_begun :
    ∃ b : Break,
      b.Between "max z\nst\n2 x\n+ y <= 4\nend".toList "max z\nst\n2 x + y <= 4\nend".toList ∧
      b.Begun ∧ Detached b.rows ∧
      ∃ m m', (ofText "max z\nst\n2 x\n+ y <= 4\nend".toList).model = .ok m ∧
        (ofText "max z\nst\n2 x + y <= 4\nend".toList).model = .ok m' ∧ m.Agrees m' := by
  have hbetween : (Break.sum ["z".toList, "st".toList] (by decide +kernel)).Between
      "max z\nst\n2 x\n+ y <= 4\nend".toList "max z\nst\n2 x + y <= 4\nend".toList :=
    ⟨by decide +kernel, by decide +kernel, by decide +kernel⟩
  have hbegun : (Break.sum ["z".toList, "st".toList] (by decide +kernel)).Begun :=
    Or.inr ⟨"st".toList, by decide, Or.inl (by decide +kernel)⟩
  have hrows := Break.detached_sum ["z".toList, "st".toList] (by decide +kernel)
  have hsome : (ofText "max z\nst\n2 x + y <= 4\nend".toList).model.toOption.isSome = true := by
    decide +kernel
  obtain ⟨m', hm'⟩ := Option.isSome_iff_exists.mp hsome
  refine ⟨_, hbetween, hbegun, hrows, ?_⟩
  obtain ⟨hsame, haccepted⟩ :=
    refusedOrAgrees_of_break _ hbetween hbegun fun row hrow => (hrows row hrow).1
  obtain ⟨m, hm⟩ :=
    haccepted (fun row hrow => (hrows row hrow).2) m' (model_eq_ok_of_toOption hm')
  rcases hsame with ⟨fault, hfault, -⟩ | hagrees
  · rw [hm] at hfault
    cases hfault
  · exact hagrees

theorem not_refusedOrAgrees {t t' : Text} {m m' : Model} (hm : (ofText t).model = .ok m)
    (hm' : (ofText t').model = .ok m') (h : ¬ m.Agrees m') : ¬ RefusedOrAgrees t t' := by
  rintro (⟨fault, hfault, -⟩ | ⟨n, n', hn, hn', hagrees⟩)
  · rw [hm] at hfault
    cases hfault
  · rw [hm] at hn
    rw [hm'] at hn'
    cases hn
    cases hn'
    exact h hagrees

/-- **In front of the first relational character a row belongs to the objectives**, if no keyword
    has begun the constraints: on one line the sum has two terms, and only one if it is broken. -/
theorem changed_of_break_implicit :
    (Break.sum ["z".toList] (by decide +kernel)).Between
        "max z\n2 x\n+ y <= 4\nend".toList "max z\n2 x + y <= 4\nend".toList ∧
      (∃ m m', (ofText "max z\n2 x\n+ y <= 4\nend".toList).model = .ok m ∧
        (ofText "max z\n2 x + y <= 4\nend".toList).model = .ok m' ∧
        m.constraints.map Constraint.coefficients = [[("y".toList, 1.0)]] ∧
        m'.constraints.map Constraint.coefficients = [[("x".toList, 2.0), ("y".toList, 1.0)]]) ∧
      ¬ RefusedOrAgrees "max z\n2 x\n+ y <= 4\nend".toList
        "max z\n2 x + y <= 4\nend".toList := by
  have hbroken : (ofText "max z\n2 x\n+ y <= 4\nend".toList).model =
      .ok
        { objectives := [⟨"obj".toList, .maximize, [("z".toList, 1.0), ("x".toList, 2.0)]⟩]
          constraints := [⟨"R1".toList, 3, [("y".toList, 1.0)], .le, 4.0⟩]
          vars :=
            [ ⟨"z".toList, 0.0, Quantity.infinity, .continuous⟩,
              ⟨"x".toList, 0.0, Quantity.infinity, .continuous⟩,
              ⟨"y".toList, 0.0, Quantity.infinity, .continuous⟩ ] } :=
    model_eq_ok_of_toOption (by decide +kernel)
  have hwhole : (ofText "max z\n2 x + y <= 4\nend".toList).model =
      .ok
        { objectives := [⟨"obj".toList, .maximize, [("z".toList, 1.0)]⟩]
          constraints := [⟨"R1".toList, 2, [("x".toList, 2.0), ("y".toList, 1.0)], .le, 4.0⟩]
          vars :=
            [ ⟨"z".toList, 0.0, Quantity.infinity, .continuous⟩,
              ⟨"x".toList, 0.0, Quantity.infinity, .continuous⟩,
              ⟨"y".toList, 0.0, Quantity.infinity, .continuous⟩ ] } :=
    model_eq_ok_of_toOption (by decide +kernel)
  refine ⟨⟨by decide +kernel, by decide +kernel, by decide +kernel⟩,
    ⟨_, _, hbroken, hwhole, rfl, rfl⟩, not_refusedOrAgrees hbroken hwhole fun hagrees => ?_⟩
  exact absurd hagrees.objectives (by decide +kernel)

/-- **A minus at the end of a row is lost**, since every row begins with a plus of its own: broken
    behind the minus, the difference is a sum. -/
theorem changed_of_break_minus :
    Break.difference.Between
        "max z\nst\nc: 2 x -\ny <= 4\nend".toList "max z\nst\nc: 2 x - y <= 4\nend".toList ∧
      Break.difference.Begun ∧
      (∃ m m', (ofText "max z\nst\nc: 2 x -\ny <= 4\nend".toList).model = .ok m ∧
        (ofText "max z\nst\nc: 2 x - y <= 4\nend".toList).model = .ok m' ∧
        m.constraints.map Constraint.coefficients = [[("x".toList, 2.0), ("y".toList, 1.0)]] ∧
        m'.constraints.map Constraint.coefficients = [[("x".toList, 2.0), ("y".toList, -1.0)]]) ∧
      ¬ RefusedOrAgrees "max z\nst\nc: 2 x -\ny <= 4\nend".toList
        "max z\nst\nc: 2 x - y <= 4\nend".toList := by
  have hbroken : (ofText "max z\nst\nc: 2 x -\ny <= 4\nend".toList).model =
      .ok
        { objectives := [⟨"obj".toList, .maximize, [("z".toList, 1.0)]⟩]
          constraints := [⟨"c".toList, 3, [("x".toList, 2.0), ("y".toList, 1.0)], .le, 4.0⟩]
          vars :=
            [ ⟨"z".toList, 0.0, Quantity.infinity, .continuous⟩,
              ⟨"x".toList, 0.0, Quantity.infinity, .continuous⟩,
              ⟨"y".toList, 0.0, Quantity.infinity, .continuous⟩ ] } :=
    model_eq_ok_of_toOption (by decide +kernel)
  have hwhole : (ofText "max z\nst\nc: 2 x - y <= 4\nend".toList).model =
      .ok
        { objectives := [⟨"obj".toList, .maximize, [("z".toList, 1.0)]⟩]
          constraints := [⟨"c".toList, 3, [("x".toList, 2.0), ("y".toList, -1.0)], .le, 4.0⟩]
          vars :=
            [ ⟨"z".toList, 0.0, Quantity.infinity, .continuous⟩,
              ⟨"x".toList, 0.0, Quantity.infinity, .continuous⟩,
              ⟨"y".toList, 0.0, Quantity.infinity, .continuous⟩ ] } :=
    model_eq_ok_of_toOption (by decide +kernel)
  refine ⟨⟨by decide +kernel, by decide +kernel, by decide +kernel⟩,
    Or.inr ⟨"st".toList, by decide, Or.inl (by decide +kernel)⟩,
    ⟨_, _, hbroken, hwhole, rfl, rfl⟩, not_refusedOrAgrees hbroken hwhole fun hagrees => ?_⟩
  exact absurd hagrees.constraints (by decide +kernel)

end Source

end LinearProgram

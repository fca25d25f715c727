/-
  Grouping — which lines an objective or a constraint comes from.

  1. **Lines** — what a line says by itself: the name in front, what is behind it, the part of a
     left-hand side, and the relation with its right-hand side.

  2. **Statements** — `Constraint.StatedBy` and `Objective.StatedBy` say when a group of lines
     states a constraint or an objective. `Grouped` puts such groups one behind the other; where a
     group ends can be seen on its lines alone, so there is one way only to group them.

  3. **Readers** — behind every line the reader's state covers the lines that were read: groups for
     what is finished, and a rest for what is still open.

  4. **Documents** — in a document that has a model every line of the body belongs to exactly one
     objective or constraint, or is a keyword, or a declaration (`Source.grouped_of_model`).
-/

import LinearProgram.Proofs.Document.Body
import LinearProgram.Proofs.Text.Cut
import Mathlib.Data.List.SplitBy

namespace LinearProgram

open Cursor (Verdict)

/-! ## Lines -/

namespace ConstraintLine

/-- The part of a left-hand side that a line gives. -/
def lhs : ConstraintLine → Text
  | expression lhs => lhs
  | comparison _ _ => []
  | both lhs _ _ => lhs

/-- The relation and the right-hand side that a line gives, if it gives them. -/
def comparison? : ConstraintLine → Option (Relation × Float)
  | expression _ => none
  | comparison relation rhs => some (relation, rhs)
  | both _ relation rhs => some (relation, rhs)

/-- A line gives a right-hand side exactly if it has a relational character. -/
theorem occursIn_of_read {line : Text} {said : ConstraintLine} (h : read line = .ok said) :
    Relation.occursIn line = said.comparison?.isSome := by
  unfold read at h
  cases hfirst : Relation.firstOperator? line with
  | none =>
    rw [hfirst] at h
    cases h
    exact (Relation.firstOperator?_eq_none_iff line).mp hfirst
  | some operator =>
    have hoccurs : Relation.occursIn line = true := by
      rw [← Bool.not_eq_false]
      intro hnot
      rw [(Relation.firstOperator?_eq_none_iff line).mpr hnot] at hfirst
      cases hfirst
    rw [hfirst] at h
    dsimp only at h
    split at h
    · cases h
    · unfold ofPieces at h
      split at h
      · split at h
        · cases h
          exact hoccurs
        · cases h
      · split at h
        · cases h
          exact hoccurs
        · cases h
      · cases h

theorem eq_of_splitName_none {line body : Text} (h : splitName line = .ok (none, body)) :
    body = line := by
  unfold splitName at h
  split at h
  · cases h
    rfl
  · split at h
    · cases h
      rfl
    · split at h
      · cases h
      · cases h

/-- A name has no relational character in it. -/
theorem occursIn_of_splitName {line body : Text} {name? : Option Text}
    (h : splitName line = .ok (name?, body)) :
    Relation.occursIn body = Relation.occursIn line := by
  cases name? with
  | none => rw [eq_of_splitName_none h]
  | some name =>
    unfold splitName at h
    split at h
    · cases h
    · next front back hcut =>
      split at h
      · cases h
      · next hfront =>
        rw [Bool.not_eq_true] at hfront
        split at h
        · cases h
          rw [← Text.append_of_cutAt? hcut]
          unfold Relation.occursIn at hfront ⊢
          rw [Text.any_trim, List.any_append, hfront]
          · rfl
          · intro c hc
            unfold Relation.isRelational
            simp only [Bool.or_eq_false_iff, beq_eq_false_iff_ne]
            refine ⟨⟨?_, ?_⟩, ?_⟩ <;> rintro rfl <;> cases hc
        · cases h

end ConstraintLine

namespace Line

/-- The name that a line begins with, if it begins with one. -/
def name? (l : Line) : Option Text :=
  match ConstraintLine.splitName l.text with
  | .ok (name?, _) => name?
  | .error _ => none

/-- The line does not begin with a name. -/
def Unnamed (l : Line) : Prop := ConstraintLine.splitName l.text = .ok (none, l.text)

/-- What stands behind the name of a line. -/
def body (l : Line) : Text :=
  match ConstraintLine.splitName l.text with
  | .ok (_, body) => body
  | .error _ => l.text

/-- The part of a left-hand side that a line gives. -/
def lhs (l : Line) : Text :=
  match ConstraintLine.read l.body with
  | .ok said => said.lhs
  | .error _ => l.body

/-- The relation and the right-hand side that a line gives, if it gives them. -/
def comparison? (l : Line) : Option (Relation × Float) :=
  match ConstraintLine.read l.body with
  | .ok said => said.comparison?
  | .error _ => none

/-- Does the line hold a relational character? -/
def isRelational (l : Line) : Bool := Relation.occursIn l.text

section

variable {l : Line} {name? : Option Text} {body : Text}

theorem name?_eq (h : ConstraintLine.splitName l.text = .ok (name?, body)) : l.name? = name? := by
  unfold Line.name?
  rw [h]

theorem body_eq (h : ConstraintLine.splitName l.text = .ok (name?, body)) : l.body = body := by
  unfold Line.body
  rw [h]

theorem unnamed (h : ConstraintLine.splitName l.text = .ok (none, body)) : l.Unnamed := by
  unfold Unnamed
  rw [h, ConstraintLine.eq_of_splitName_none h]

theorem Unnamed.name?_eq (h : l.Unnamed) : l.name? = none := Line.name?_eq h

variable {said : ConstraintLine}

theorem lhs_eq (h : ConstraintLine.splitName l.text = .ok (name?, body))
    (hread : ConstraintLine.read body = .ok said) : l.lhs = said.lhs := by
  unfold lhs
  rw [body_eq h, hread]

theorem comparison?_eq (h : ConstraintLine.splitName l.text = .ok (name?, body))
    (hread : ConstraintLine.read body = .ok said) : l.comparison? = said.comparison? := by
  unfold comparison?
  rw [body_eq h, hread]

theorem isRelational_eq (h : ConstraintLine.splitName l.text = .ok (name?, body))
    (hread : ConstraintLine.read body = .ok said) :
    l.isRelational = said.comparison?.isSome := by
  unfold isRelational
  rw [← ConstraintLine.occursIn_of_splitName h, ConstraintLine.occursIn_of_read hread]

end

end Line

/-! ## Statements -/

/-- The coefficients of expressions, each added to those in front. -/
def Expression.mergeAll (texts : List Text) : Except Cause Coefficients :=
  texts.foldlM (fun cs t => (Expression.read t).map cs.merge) []

/-- A group of lines, of which only the first one may have a name. -/
def HeadedBy (first : Line) (group : List Line) : Prop :=
  ∃ rest, group = first :: rest ∧ ∀ l ∈ rest, l.Unnamed

/-- A group of lines begins a constraint of this name and this line number; the name is the one in
    front of the first line, or a default name that the earlier constraints leave free. -/
def Constraint.BegunBy (earlier : List Constraint) (group : List Line) (name : Text)
    (number : Int) : Prop :=
  ∃ first, HeadedBy first group ∧ number = first.number ∧
    (first.name? = some name ∨
      first.Unnamed ∧ name = Draft.defaultConstraintName (earlier.map Constraint.name))

/-- A group of lines states a constraint: the last line, and no other one, has a relational
    character; it gives relation and right-hand side. -/
structure Constraint.StatedBy (earlier : List Constraint) (group : List Line) (c : Constraint) :
    Prop where
  begins : Constraint.BegunBy earlier group c.name c.line
  ends : ∃ front last, group = front ++ [last] ∧ (∀ l ∈ front, l.isRelational = false) ∧
    last.isRelational = true ∧ last.comparison? = some (c.relation, c.rhs)
  coefficients : Expression.mergeAll (group.map Line.lhs) = .ok c.coefficients

/-- A group of lines states an objective. Only the first objective may do without a name. -/
structure Objective.StatedBy (direction : Direction) (earlier : List Objective)
    (group : List Line) (o : Objective) : Prop where
  begins : ∃ first, HeadedBy first group ∧
    (first.name? = some o.name ∨
      first.Unnamed ∧ earlier = [] ∧ o.name = Draft.defaultObjectiveName)
  direction : o.direction = direction
  coefficients : Expression.mergeAll (group.map Line.body) = .ok o.coefficients

/-- Groups of lines state the members of a list, one group a member. What a group states may depend
    on the members in front. -/
inductive Grouped {α : Type} (Stated : List α → List Line → α → Prop) :
    List (List Line) → List α → Prop where
  | nil : Grouped Stated [] []
  | snoc {groups : List (List Line)} {members : List α} {group : List Line} {a : α}
      (h : Grouped Stated groups members) (ha : Stated members group a) :
      Grouped Stated (groups ++ [group]) (members ++ [a])

/-! ### Only one way -/

section

variable {α : Type} {Stated : List α → List Line → α → Prop} {groups : List (List Line)}
  {members : List α}

/-- There are as many groups as members. -/
theorem Grouped.length_eq (h : Grouped Stated groups members) :
    groups.length = members.length := by
  induction h with
  | nil => rfl
  | snoc _ _ ih => rw [List.length_append, List.length_append, ih, List.length_singleton,
      List.length_singleton]

/-- The group of the last member. -/
theorem Grouped.snoc_iff {a : α} :
    Grouped Stated groups (members ++ [a]) ↔
      ∃ front group, groups = front ++ [group] ∧ Grouped Stated front members ∧
        Stated members group a := by
  constructor
  · intro h
    generalize hm : members ++ [a] = all at h
    cases h with
    | nil => exact absurd hm (List.append_ne_nil_of_right_ne_nil _ (List.cons_ne_nil _ _))
    | snoc h ha =>
      obtain ⟨rfl, hlast⟩ := List.append_inj' hm rfl
      cases hlast
      exact ⟨_, _, rfl, h, ha⟩
  · rintro ⟨front, group, rfl, h, ha⟩
    exact h.snoc ha

/-- The group of any member. -/
theorem Grouped.exists_group {earlier later : List α} {a : α}
    (h : Grouped Stated groups (earlier ++ a :: later)) :
    ∃ group ∈ groups, Stated earlier group a := by
  induction later using List.reverseRecOn generalizing groups with
  | nil =>
    obtain ⟨front, group, rfl, -, ha⟩ := snoc_iff.mp h
    exact ⟨group, List.mem_append_right _ List.mem_cons_self, ha⟩
  | append_singleton later b ih =>
    rw [← List.cons_append, ← List.append_assoc] at h
    obtain ⟨front, group, rfl, hfront, -⟩ := snoc_iff.mp h
    obtain ⟨group, hgroup, ha⟩ := ih hfront
    exact ⟨group, List.mem_append_left _ hgroup, ha⟩

/-- **Groups are told apart by their lines**, if a relation holds within each of them and never
    between the last line of a group and the first one of the next. -/
theorem Grouped.splitBy_flatten {r : Line → Line → Bool}
    (hne : ∀ {earlier group a}, Stated earlier group a → group ≠ [])
    (hwithin : ∀ {earlier group a}, Stated earlier group a → group.IsChain fun x y => r x y)
    (hbetween : ∀ {earlier group a group' a'}, Stated earlier group a →
      Stated (earlier ++ [a]) group' a' →
      ∀ x ∈ group.getLast?, ∀ y ∈ group'.head?, r x y = false)
    (h : Grouped Stated groups members) : groups.flatten.splitBy r = groups := by
  have hmem : ∀ {groups members}, Grouped Stated groups members →
      ∀ group ∈ groups, group ≠ [] ∧ group.IsChain fun x y => r x y := by
    intro groups members h
    induction h with
    | nil => exact fun group hgroup => absurd hgroup List.not_mem_nil
    | snoc _ ha ih =>
      intro group hgroup
      rcases List.mem_append.mp hgroup with hgroup | hgroup
      · exact ih group hgroup
      · rw [List.mem_singleton.mp hgroup]
        exact ⟨hne ha, hwithin ha⟩
  have hchain : ∀ {groups members}, Grouped Stated groups members →
      groups.IsChain fun a b => ∃ ha hb, r (a.getLast ha) (b.head hb) = false := by
    intro groups members h
    induction h with
    | nil => exact List.isChain_nil
    | @snoc groups members group a h ha ih =>
      rw [List.isChain_append]
      refine ⟨ih, List.isChain_singleton group, ?_⟩
      intro last hlast next hnext
      cases hnext
      -- the group in front is the one of the member in front
      cases h with
      | nil => cases hlast
      | @snoc groups members group' a' h' ha' =>
        rw [List.getLast?_concat] at hlast
        cases hlast
        exact ⟨hne ha', hne ha, hbetween ha' ha _ (List.getLast_mem_getLast? _) _
          (List.head_mem_head? _)⟩
  exact List.splitBy_flatten (fun hnil => (hmem h [] hnil).1 rfl) (fun g hg => (hmem h g hg).2)
    (hchain h)

end

theorem HeadedBy.isChain {first : Line} {group : List Line} (h : HeadedBy first group) :
    group.IsChain fun _ l => l.name?.isNone := by
  obtain ⟨rest, rfl, hrest⟩ := h
  induction rest generalizing first with
  | nil => exact List.isChain_singleton first
  | cons l rest ih =>
    rw [List.isChain_cons_cons]
    have hl : l.name?.isNone = true := by
      rw [(hrest l List.mem_cons_self).name?_eq]
      rfl
    exact ⟨hl, ih fun l' hl' => hrest l' (List.mem_cons_of_mem l hl')⟩

/-- **Objectives**: a group ends in front of the next line that has a name. -/
theorem Objective.splitBy_flatten {direction : Direction} {groups : List (List Line)}
    {objectives : List Objective} (h : Grouped (StatedBy direction) groups objectives) :
    (groups.flatten.splitBy fun _ l => l.name?.isNone) = groups := by
  refine h.splitBy_flatten ?_ ?_ ?_
  · rintro earlier group o ⟨⟨first, ⟨rest, rfl, -⟩, -⟩, -, -⟩
    exact List.cons_ne_nil first rest
  · rintro earlier group o ⟨⟨first, hfirst, -⟩, -, -⟩
    exact hfirst.isChain
  · rintro earlier group o group' o' - ⟨⟨first, ⟨rest, rfl, -⟩, hfirst⟩, -, -⟩ x - y hy
    cases hy
    rcases hfirst with hname | ⟨-, hearlier, -⟩
    · rw [hname]
      rfl
    · exact absurd hearlier (List.append_ne_nil_of_right_ne_nil _ (List.cons_ne_nil _ _))

/-- **Constraints**: a group ends behind the line that has a relational character. -/
theorem Constraint.splitBy_flatten {groups : List (List Line)} {constraints : List Constraint}
    (h : Grouped StatedBy groups constraints) :
    (groups.flatten.splitBy fun l _ => ! l.isRelational) = groups := by
  have hwithin : ∀ {front : List Line} {last : Line}, (∀ l ∈ front, l.isRelational = false) →
      (front ++ [last]).IsChain fun l _ => ! l.isRelational := by
    intro front last hfront
    induction front with
    | nil => exact List.isChain_singleton last
    | cons l front ih =>
      have hrest := ih fun l' hl' => hfront l' (List.mem_cons_of_mem l hl')
      rw [List.cons_append, List.isChain_cons]
      refine ⟨fun y _ => ?_, hrest⟩
      rw [hfront l List.mem_cons_self]
      rfl
  refine h.splitBy_flatten ?_ ?_ ?_
  · rintro earlier group c ⟨-, ⟨front, last, rfl, -⟩, -⟩
    exact List.append_ne_nil_of_right_ne_nil _ (List.cons_ne_nil _ _)
  · rintro earlier group c ⟨-, ⟨front, last, rfl, hfront, -⟩, -⟩
    exact hwithin hfront
  · rintro earlier group c group' c' ⟨-, ⟨front, last, rfl, -, hlast, -⟩, -⟩ - x hx y -
    rw [List.getLast?_concat] at hx
    cases hx
    rw [hlast]
    rfl

/-! ## Readers -/

theorem HeadedBy.singleton (l : Line) : HeadedBy l [l] :=
  ⟨[], rfl, fun _ h => absurd h List.not_mem_nil⟩

theorem HeadedBy.concat {first l : Line} {group : List Line} (h : HeadedBy first group)
    (hl : l.Unnamed) : HeadedBy first (group ++ [l]) := by
  obtain ⟨rest, rfl, hrest⟩ := h
  refine ⟨rest ++ [l], rfl, ?_⟩
  intro l' hl'
  rcases List.mem_append.mp hl' with hl' | hl'
  · exact hrest l' hl'
  · rw [List.mem_singleton.mp hl']
    exact hl

/-- One more expression is read and added. -/
theorem Expression.mergeAll_concat {texts : List Text} {t : Text} {cs : Coefficients}
    {terms : List Term} (h : mergeAll texts = .ok cs) (ht : Expression.terms t = (terms, none)) :
    mergeAll (texts ++ [t]) = .ok (cs.merge (.ofTerms terms)) := by
  have hread : Expression.read t = .ok (.ofTerms terms) := by
    unfold Expression.read
    rw [ht]
  unfold mergeAll at h ⊢
  rw [List.foldlM_append, h]
  show ((Expression.read t).map cs.merge >>= pure) = _
  rw [hread]
  rfl

theorem Expression.terms_nil : Expression.terms [] = ([], none) := rfl

/-! ### Objectives -/

namespace Objectives

theorem State.extended_objectives {s : State} {front : List Objective} {o : Objective}
    (h : s.draft.objectives = front ++ [o]) (terms : List Term) :
    (s.extended terms).draft.objectives = front ++ [o.merge (.ofTerms terms)] := by
  show ((s.draft.mention terms).mergeLast (.ofTerms terms)).objectives = _
  unfold Draft.mergeLast
  rw [show (s.draft.mention terms).objectives = front ++ [o] from h, List.getLast?_concat]
  show (front ++ [o]).dropLast ++ _ = _
  rw [List.dropLast_concat]

theorem State.extended_direction (s : State) (terms : List Term) :
    (s.extended terms).draft.direction = s.draft.direction :=
  Draft.mergeLast_direction _ _

/-- The lines that were read fall into groups, one for each objective. An objective is open unless
    there is none. -/
structure State.Covers (given : Direction) (ls : List Line) (s : State) : Prop where
  direction : s.draft.direction = some given
  groups : ∃ groups : List (List Line), groups.flatten = ls ∧
    Grouped (Objective.StatedBy given) groups s.draft.objectives
  isOpen : s.isOpen = false → s.draft.objectives = []
  objectives : s.isOpen = true → s.draft.objectives ≠ []

section

variable {given : Direction} {ls : List Line} {l : Line} {s s' : State} {terms : List Term}

/-- A line that opens an objective. -/
theorem State.Covers.opens (h : s.Covers given ls) {name : Text}
    (hname : l.name? = some name ∨
      l.Unnamed ∧ s.draft.objectives = [] ∧ name = Draft.defaultObjectiveName)
    (hterms : Expression.terms l.body = (terms, none)) (hdirection : s'.draft.direction = some given)
    (hopen : s'.isOpen = true)
    (hobjectives : s'.draft.objectives =
      s.draft.objectives ++ [⟨name, given, .merge [] (.ofTerms terms)⟩]) :
    s'.Covers given (ls ++ [l]) := by
  obtain ⟨groups, rfl, hgroups⟩ := h.groups
  have hnone : Expression.mergeAll [] = .ok [] := rfl
  have hstated : Objective.StatedBy given s.draft.objectives [l]
      ⟨name, given, .merge [] (.ofTerms terms)⟩ :=
    { begins := ⟨l, .singleton l, hname⟩
      direction := rfl
      coefficients := Expression.mergeAll_concat hnone hterms }
  refine ⟨hdirection, ⟨groups ++ [[l]], ?_, ?_⟩, ?_, ?_⟩
  · rw [List.flatten_append, List.flatten_singleton]
  · rw [hobjectives]
    exact hgroups.snoc hstated
  · intro hclosed
    rw [hopen] at hclosed
    cases hclosed
  · intro _
    rw [hobjectives]
    exact List.append_ne_nil_of_right_ne_nil _ (List.cons_ne_nil _ _)

/-- A line that goes on with the open objective. -/
theorem State.Covers.goesOn (h : s.Covers given ls) (hopen : s.isOpen = true) (hl : l.Unnamed)
    (hterms : Expression.terms l.body = (terms, none)) :
    (s.extended terms).Covers given (ls ++ [l]) := by
  obtain ⟨groups, rfl, hgroups⟩ := h.groups
  have hlast := List.dropLast_concat_getLast (h.objectives hopen)
  generalize s.draft.objectives.dropLast = front, s.draft.objectives.getLast _ = o at hlast
  rw [← hlast] at hgroups
  obtain ⟨groups, group, rfl, hfront, ho⟩ := Grouped.snoc_iff.mp hgroups
  obtain ⟨first, hfirst, hname⟩ := ho.begins
  have hstated : Objective.StatedBy given front (group ++ [l]) (o.merge (.ofTerms terms)) :=
    { begins := ⟨first, hfirst.concat hl, hname⟩
      direction := ho.direction
      coefficients := by
        rw [List.map_append]
        exact Expression.mergeAll_concat ho.coefficients hterms }
  have hobjectives := State.extended_objectives hlast.symm terms
  refine ⟨?_, ⟨groups ++ [group ++ [l]], ?_, ?_⟩, ?_, ?_⟩
  · rw [State.extended_direction]
    exact h.direction
  · simp only [List.flatten_append, List.flatten_singleton, List.append_assoc]
  · rw [hobjectives]
    exact hfront.snoc hstated
  · intro hclosed
    rw [show (s.extended terms).isOpen = s.isOpen from rfl, hopen] at hclosed
    cases hclosed
  · intro _
    rw [hobjectives]
    exact List.append_ne_nil_of_right_ne_nil _ (List.cons_ne_nil _ _)

/-- **One more line is covered.** -/
theorem State.Covers.step (h : s.Covers given ls) (hne : l.text ≠ [])
    (hl : (Objectives.step l.number l.text s).verdict = .more s') :
    s'.Covers given (ls ++ [l]) := by
  have hdirection : s.draft.direction.getD .maximize = given := by
    rw [h.direction]
    rfl
  have hopens : ∀ name : Text, (s.draft.openObjective name).objectives =
      s.draft.objectives ++ [⟨name, given, []⟩] := by
    intro name
    unfold Draft.openObjective
    rw [hdirection]
  have heffect := step_effect l.number l.text s
  rw [hl] at heffect
  cases heffect with
  | blank h0 => exact absurd h0 hne
  | named name? hsplit =>
    cases name? with
    | none => exact absurd (ConstraintLine.eq_of_splitName_none hsplit).symm hne
    | some name =>
      have hterms : Expression.terms l.body = ([], none) := by
        rw [Line.body_eq hsplit]
        rfl
      exact h.opens (Or.inl (Line.name?_eq hsplit)) hterms h.direction rfl (hopens name)
  | adds name? body terms hsplit hterms =>
    rw [← Line.body_eq hsplit] at hterms
    cases name? with
    | some name =>
      refine h.opens (Or.inl (Line.name?_eq hsplit)) hterms ?_ rfl ?_
      · rw [State.extended_direction]
        exact h.direction
      · exact State.extended_objectives (s := s.named (some name)) (hopens name) terms
    | none =>
      have hunnamed := Line.unnamed hsplit
      cases hopen : s.isOpen with
      | true =>
        have hsame : (s.named none).opened = s := if_pos hopen
        rw [hsame]
        exact h.goesOn hopen hunnamed hterms
      | false =>
        have hopened : (s.named none).opened =
            { draft := s.draft.openObjective Draft.defaultObjectiveName, isOpen := true } :=
          if_neg (by rw [show (s.named none).isOpen = false from hopen]; exact Bool.false_ne_true)
        rw [hopened]
        refine h.opens (Or.inr ⟨hunnamed, h.isOpen hopen, rfl⟩) hterms ?_ rfl ?_
        · rw [State.extended_direction]
          exact h.direction
        · exact State.extended_objectives (s := State.mk _ true) (hopens _) terms

theorem State.Covers.takes {s₀ : State} (h₀ : s₀.Covers given []) (hls : ∀ l ∈ ls, l.text ≠ [])
    (h : Takes Objectives.step ls s₀ s) : s.Covers given ls := by
  induction h with
  | nil => exact h₀
  | snoc _ hl ih =>
    have hcovers := ih h₀ fun l hl => hls l (List.mem_append_left _ hl)
    exact hcovers.step (hls _ (List.mem_append_right _ List.mem_cons_self)) hl

end

end Objectives

/-! ### Constraints -/

namespace Constraints

/-- The lines of the constraint that is open: where none is open there are none. -/
def State.Pending (s : State) (pending : List Line) : Prop :=
  (∀ l ∈ pending, l.isRelational = false) ∧
    match s.current with
    | none => pending = []
    | some c =>
      Constraint.BegunBy s.draft.constraints pending c.name c.line ∧
        Expression.mergeAll (pending.map Line.lhs) = .ok c.coefficients

/-- The lines that were read fall into groups, one for each constraint, and those of the constraint
    that is open. -/
def State.Covers (ls : List Line) (s : State) : Prop :=
  ∃ (groups : List (List Line)) (pending : List Line), groups.flatten ++ pending = ls ∧
    Grouped Constraint.StatedBy groups s.draft.constraints ∧ s.Pending pending

section

variable {ls pending : List Line} {l : Line} {s s' : State} {body : Text}

/-- The constraint that a line contributes to begins with the lines of the open one, or with this
    line. -/
theorem State.Pending.enters (h : s.Pending pending) (he : Enters l.number l.text s body s') :
    Constraint.BegunBy s.draft.constraints (pending ++ [l]) (s'.target l.number).name
        (s'.target l.number).line ∧
      Expression.mergeAll (pending.map Line.lhs) = .ok (s'.target l.number).coefficients := by
  obtain ⟨-, hcurrent⟩ := h
  cases he with
  | unnamed _ hsplit =>
    have hunnamed := Line.unnamed hsplit
    cases hc : s.current with
    | none =>
      rw [hc] at hcurrent
      dsimp only at hcurrent
      unfold State.target
      rw [hc, hcurrent]
      exact ⟨⟨l, .singleton l, rfl, Or.inr ⟨hunnamed, rfl⟩⟩, rfl⟩
    | some c =>
      rw [hc] at hcurrent
      obtain ⟨⟨first, hfirst, hnumber, hname⟩, hcoefficients⟩ := hcurrent
      unfold State.target
      rw [hc]
      exact ⟨⟨first, hfirst.concat hunnamed, hnumber, hname⟩, hcoefficients⟩
  | named name _ hsplit hc =>
    rw [hc] at hcurrent
    dsimp only at hcurrent
    rw [hcurrent]
    exact ⟨⟨l, .singleton l, rfl, Or.inl (Line.name?_eq hsplit)⟩, rfl⟩

theorem Enters.draft_eq (he : Enters l.number l.text s body s') : s'.draft = s.draft := by
  cases he <;> rfl

theorem Enters.splitName (he : Enters l.number l.text s body s') :
    ∃ name?, ConstraintLine.splitName l.text = .ok (name?, body) := by
  cases he with
  | unnamed _ hsplit => exact ⟨none, hsplit⟩
  | named name _ hsplit _ => exact ⟨some name, hsplit⟩

/-- A line that has a name only. -/
theorem State.Pending.namedOnly (h : s.Pending pending) (hne : l.text ≠ [])
    (he : Enters l.number l.text s [] s') : s'.Pending (pending ++ [l]) := by
  have hentered := h.enters he
  obtain ⟨hopen, -⟩ := h
  cases he with
  | unnamed _ hsplit => exact absurd (ConstraintLine.eq_of_splitName_none hsplit).symm hne
  | named name _ hsplit hc =>
    have hread : ConstraintLine.read [] = .ok (.expression []) := rfl
    refine ⟨?_, hentered.1, ?_⟩
    · intro l' hl'
      rcases List.mem_append.mp hl' with hl' | hl'
      · exact hopen l' hl'
      · rw [List.mem_singleton.mp hl', Line.isRelational_eq hsplit hread]
        rfl
    · rw [List.map_append, List.map_singleton, Line.lhs_eq hsplit hread]
      exact Expression.mergeAll_concat hentered.2 Expression.terms_nil

/-- A line without a relational character. -/
theorem State.Pending.adds (h : s.Pending pending) (he : Enters l.number l.text s body s')
    {lhs : Text} {terms : List Term} (hread : ConstraintLine.read body = .ok (.expression lhs))
    (hterms : Expression.terms lhs = (terms, none)) :
    State.Pending
      { draft := s'.draft.mention terms
        current := some ((s'.target l.number).merge (.ofTerms terms)) } (pending ++ [l]) := by
  obtain ⟨hbegun, hcoefficients⟩ := h.enters he
  obtain ⟨name?, hsplit⟩ := he.splitName
  refine ⟨?_, ?_, ?_⟩
  · intro l' hl'
    rcases List.mem_append.mp hl' with hl' | hl'
    · exact h.1 l' hl'
    · rw [List.mem_singleton.mp hl', Line.isRelational_eq hsplit hread]
      rfl
  · show Constraint.BegunBy s'.draft.constraints _ _ _
    rw [he.draft_eq]
    exact hbegun
  · rw [List.map_append, List.map_singleton, Line.lhs_eq hsplit hread]
    exact Expression.mergeAll_concat hcoefficients hterms

/-- A line with a relational character ends the group of its constraint. -/
theorem State.Pending.closes (h : s.Pending pending) (he : Enters l.number l.text s body s')
    {c : Constraint.Open} {d : Draft} {relation : Relation} {rhs : Float} {said : ConstraintLine}
    (hread : ConstraintLine.read body = .ok said)
    (hc : (said = .comparison relation rhs ∧ s'.current = some c ∧ d = s'.draft) ∨
      ∃ lhs terms, said = .both lhs relation rhs ∧ Expression.terms lhs = (terms, none) ∧
        c = (s'.target l.number).merge (.ofTerms terms) ∧ d = s'.draft.mention terms)
    {finished : Constraint} (hclose : c.close relation rhs = .ok finished) :
    Constraint.StatedBy s.draft.constraints (pending ++ [l]) finished := by
  obtain ⟨hbegun, hcoefficients⟩ := h.enters he
  obtain ⟨name?, hsplit⟩ := he.splitName
  obtain ⟨rfl, hpositive, -⟩ := Constraint.Open.eq_of_close hclose
  have hline : (c.line.toNat : Int) = c.line := Int.toNat_of_nonneg (Int.le_of_lt hpositive)
  have hlhs := Line.lhs_eq hsplit hread
  -- either way the constraint has the name and the line of its target, and what the line adds
  have hwhole : c.name = (s'.target l.number).name ∧ c.line = (s'.target l.number).line ∧
      said.comparison? = some (relation, rhs) ∧
      Expression.mergeAll (pending.map Line.lhs ++ [said.lhs]) = .ok c.coefficients := by
    rcases hc with ⟨rfl, hcurrent, -⟩ | ⟨lhs, terms, rfl, hterms, rfl, -⟩
    · have htarget : s'.target l.number = c := by
        unfold State.target
        rw [hcurrent]
        rfl
      rw [htarget] at hcoefficients ⊢
      exact ⟨rfl, rfl, rfl, Expression.mergeAll_concat hcoefficients Expression.terms_nil⟩
    · exact ⟨rfl, rfl, rfl, Expression.mergeAll_concat hcoefficients hterms⟩
  obtain ⟨hname, hnumber, hcomparison, hmerged⟩ := hwhole
  refine ⟨?_, ⟨pending, l, rfl, h.1, ?_, ?_⟩, ?_⟩
  · show Constraint.BegunBy _ _ c.name (c.line.toNat : Int)
    rw [hline, hname, hnumber]
    exact hbegun
  · rw [Line.isRelational_eq hsplit hread, hcomparison]
    rfl
  · rw [Line.comparison?_eq hsplit hread, hcomparison]
  · rw [List.map_append, List.map_singleton, hlhs]
    exact hmerged

/-- **One more line is covered.** -/
theorem State.Covers.step (h : s.Covers ls) (hne : l.text ≠ [])
    (hl : (Constraints.step l.number l.text s).verdict = .more s') :
    s'.Covers (ls ++ [l]) := by
  obtain ⟨groups, pending, rfl, hgroups, hpending⟩ := h
  have heffect := step_effect l.number l.text s
  rw [hl] at heffect
  cases heffect with
  | blank h0 => exact absurd h0 hne
  | enters s' he =>
    refine ⟨groups, pending ++ [l], (List.append_assoc _ _ _).symm, ?_, hpending.namedOnly hne he⟩
    rw [he.draft_eq]
    exact hgroups
  | contributes body s₁ v he hv =>
    cases hv with
    | adds lhs terms hread hterms =>
      refine ⟨groups, pending ++ [l], (List.append_assoc _ _ _).symm, ?_,
        hpending.adds he hread hterms⟩
      show Grouped _ groups s₁.draft.constraints
      rw [he.draft_eq]
      exact hgroups
    | closes c d relation rhs said hread hc finished hclose =>
      have hstated := hpending.closes he hread hc hclose
      have hd : d.constraints = s.draft.constraints := by
        rw [← he.draft_eq]
        rcases hc with ⟨-, -, rfl⟩ | ⟨_, _, -, -, -, rfl⟩ <;> rfl
      refine ⟨groups ++ [pending ++ [l]], [], ?_, ?_, fun l hl => absurd hl List.not_mem_nil, rfl⟩
      · rw [List.append_nil, List.flatten_append, List.flatten_singleton, List.append_assoc]
      · show Grouped _ _ (d.constraints ++ [finished])
        rw [hd]
        exact hgroups.snoc hstated

theorem State.Covers.takes {s₀ : State} (h₀ : s₀.Covers []) (hls : ∀ l ∈ ls, l.text ≠ [])
    (h : Takes Constraints.step ls s₀ s) : s.Covers ls := by
  induction h with
  | nil => exact h₀
  | snoc _ hl ih =>
    have hcovers := ih h₀ fun l hl => hls l (List.mem_append_left _ hl)
    exact hcovers.step (hls _ (List.mem_append_right _ List.mem_cons_self)) hl

end

end Constraints

/-! ## Documents -/

/-- A document's lines account for its model. -/
structure Source.GroupedInto (source : Source) (m : Model) : Prop where
  /-- Objectives, at most one keyword, constraints, a section keyword, declarations. -/
  body : ∃ opening stop rest,
    source.body = source.objectiveLines ++ opening ++ source.constraintLines ++ stop :: rest ∧
      (opening = [] ∨ ∃ l, opening = [l] ∧ Keyword.opensConstraints l.text = true) ∧
      stop.isSection = true
  /-- The lines of the constraints fall into groups in one way only, one group a constraint. -/
  constraints : ∃! groups : List (List Line), groups.flatten = source.constraintLines ∧
    Grouped Constraint.StatedBy groups m.constraints
  /-- So do the lines of the objectives, unless there are none: then there is one objective, which
      no line states. -/
  objectives : ∃ direction, source.direction? = some direction ∧
    if source.objectiveLines = [] then
      m.objectives = [{ name := Draft.defaultObjectiveName, direction }]
    else ∃! groups : List (List Line), groups.flatten = source.objectiveLines ∧
      Grouped (Objective.StatedBy direction) groups m.objectives

/-- The lines of the constraints fall into groups. -/
theorem Source.Course.exists_grouped {source : Source} {m : Model} (c : source.Course m) :
    ∃ groups : List (List Line), groups.flatten = source.constraintLines ∧
      Grouped Constraint.StatedBy groups m.constraints := by
  have hlines : ∀ l ∈ source.constraintLines, l.text ≠ [] := fun l hl =>
    text_ne_nil_of_mem_body (source.constraintLines_sublist.subset hl)
  have hcovers := Constraints.State.Covers.takes
    ⟨[], [], rfl, by
      rw [c.beforeConstraints_constraints]
      exact .nil, fun l hl => absurd hl List.not_mem_nil, rfl⟩ hlines c.hconstraints
  obtain ⟨groups, pending, hflatten, hgroups, -, hpending⟩ := hcovers
  -- nothing is pending behind the last constraint
  rw [c.hclosed] at hpending
  dsimp only at hpending
  rw [hpending, List.append_nil] at hflatten
  rw [← c.model_constraints] at hgroups
  exact ⟨groups, hflatten, hgroups⟩

/-- **No line of the body is lost, shared or counted twice.** -/
theorem Source.grouped_of_model {source : Source} {m : Model} (h : source.model = .ok m) :
    source.GroupedInto m := by
  obtain ⟨c⟩ := course_of_model h
  have hobjectiveLines : ∀ l ∈ source.objectiveLines, l.text ≠ [] := fun l hl =>
    text_ne_nil_of_mem_body (List.takeWhile_subset _ hl)
  have hobjectives := Objectives.State.Covers.takes
    ⟨rfl, ⟨[], rfl, .nil⟩, fun _ => rfl, fun h => absurd h Bool.false_ne_true⟩ hobjectiveLines c.hobjectives
  refine ⟨⟨c.opening, c.stop, c.rest, c.hbody, ?_, ?_⟩, ?_, c.direction, c.hdirection, ?_⟩
  · have hlength := c.hopening_length
    have hopens := c.hopening
    generalize c.opening = opening at hlength hopens
    match opening with
    | [] => exact Or.inl rfl
    | [l] => exact Or.inr ⟨l, rfl, hopens l List.mem_cons_self⟩
    | _ :: _ :: _ => exact absurd hlength (by simp)
  · unfold Line.isSection
    rw [c.hstop]
    rfl
  · obtain ⟨groups, hflatten, hgroups⟩ := c.exists_grouped
    refine ⟨groups, ⟨hflatten, hgroups⟩, ?_⟩
    rintro other ⟨hother, hstated⟩
    rw [← Constraint.splitBy_flatten hgroups, hflatten, ← hother,
      Constraint.splitBy_flatten hstated]
  · obtain ⟨groups, hflatten, hgroups⟩ := hobjectives.groups
    have hmodel := c.model_objectives
    unfold Objectives.complete at hmodel
    split at hmodel
    · next hempty =>
      -- no objective was read, and there is no line to read one from
      rw [List.isEmpty_iff] at hempty
      rw [hempty] at hgroups
      have hnil : source.objectiveLines = [] := by
        rw [← hflatten, List.eq_nil_of_length_eq_zero hgroups.length_eq]
        rfl
      rw [if_pos hnil, hmodel]
      unfold Draft.openObjective
      rw [hempty, hobjectives.direction]
      rfl
    · next hsome =>
      rw [← hmodel] at hgroups
      have hne : source.objectiveLines ≠ [] := by
        intro hnil
        rw [hnil] at hflatten
        have hsplit := Objective.splitBy_flatten hgroups
        rw [hflatten, List.splitBy_nil] at hsplit
        have hlength := hgroups.length_eq
        rw [← hsplit, hmodel] at hlength
        exact hsome (List.isEmpty_iff.mpr (List.eq_nil_of_length_eq_zero hlength.symm))
      rw [if_neg hne]
      refine ⟨groups, ⟨hflatten, hgroups⟩, ?_⟩
      rintro other ⟨hother, hstated⟩
      rw [← Objective.splitBy_flatten hgroups, hflatten, ← hother,
        Objective.splitBy_flatten hstated]

/-- An objective on two lines, a constraint on three of them, and one on a single line. -/
theorem Source.grouped_of_model_threeLines :
    ∃ m, (Source.ofText "max 2 x\n+ y\nst\nc:\nx - y\n<= 4\ny >= 1\nend".toList).model = .ok m ∧
      m.constraints.map Constraint.line = [4, 7] ∧
      (Source.ofText "max 2 x\n+ y\nst\nc:\nx - y\n<= 4\ny >= 1\nend".toList).GroupedInto m := by
  have hmodel : (Source.ofText "max 2 x\n+ y\nst\nc:\nx - y\n<= 4\ny >= 1\nend".toList).model =
      .ok
        { objectives := [⟨"obj".toList, .maximize, [("x".toList, 2.0), ("y".toList, 1.0)]⟩]
          constraints :=
            [ ⟨"c".toList, 4, [("x".toList, 1.0), ("y".toList, -1.0)], .le, 4.0⟩,
              ⟨"R2".toList, 7, [("y".toList, 1.0)], .ge, 1.0⟩ ]
          vars :=
            [ ⟨"x".toList, 0.0, Quantity.infinity, .continuous⟩,
              ⟨"y".toList, 0.0, Quantity.infinity, .continuous⟩ ] } :=
    model_eq_ok_of_toOption (by decide +kernel)
  exact ⟨_, hmodel, rfl, grouped_of_model hmodel⟩

end LinearProgram

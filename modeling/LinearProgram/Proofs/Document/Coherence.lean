/-
  Coherence — what holds of a draft whatever is read, and how drafts grow.

  1. **Drafts** — a draft is `Coherent` if its objectives have its direction, its constraints are
     finished, and its table knows every variable with a coefficient. It `Grows` by going on to
     sections that may follow, and by what is put behind its objectives, constraints and variables.

  2. **Steps** — one reader goes on by one section at most: in the end the draft is in the section
     that it was in, or in one that may come directly behind it (`Draft.Advances`).

  3. **Lines** — whatever a line does, it leaves a coherent draft that has grown. This holds of a
     line that fails too, and of the registered variables and opened objectives that it leaves
     behind. Only the last objective ever changes, and only while it is open.
-/

import LinearProgram.Proofs.Document.Mentions
import LinearProgram.Proofs.Document.WellFormed
import Mathlib.Logic.Relation

namespace LinearProgram

open Cursor (Verdict)

/-! ## Drafts -/

/-- What holds of a draft at any time. -/
structure Draft.Coherent (d : Draft) : Prop where
  /-- At the start nothing was read. -/
  start : d.stage = .start → d.direction = none ∧ d.objectives = []
  started : d.stage ≠ .start → d.direction ≠ none
  direction : ∀ o ∈ d.objectives, d.direction = some o.direction
  objectives : ∀ o ∈ d.objectives, ∀ x ∈ o.coefficients.names, x ∈ d.table.names
  constraints : ∀ c ∈ d.constraints, c.coefficients ≠ [] ∧ 1 ≤ c.line ∧
    ∀ x ∈ c.coefficients.names, x ∈ d.table.names

/-- A section may come directly behind another one. -/
def Section.MayPrecede (s s' : Section) : Prop := s' ∈ s.successors

/-- Behind the end marker no other section comes. -/
theorem Section.eq_of_finish {s : Section} (h : Relation.ReflTransGen MayPrecede .finish s) :
    s = .finish := by
  induction h with
  | refl => rfl
  | tail _ hstep ih =>
    rw [ih] at hstep
    exact absurd hstep List.not_mem_nil

/-- How a draft grows, whatever is read. -/
structure Draft.Grows (d d' : Draft) : Prop where
  stage : Relation.ReflTransGen Section.MayPrecede d.stage d'.stage
  direction : d.direction = none ∨ d'.direction = d.direction
  objectives : d.objectives <+: d'.objectives
  constraints : d.constraints <+: d'.constraints
  names : d.table.names <+: d'.table.names

/-- A draft becomes another one, which is coherent. -/
structure Draft.Becomes (d d' : Draft) : Prop where
  coherent : d'.Coherent
  grows : d.Grows d'

/-- A draft becomes another one by what a single reader does: its section stays, or the one behind
    it is reached. -/
structure Draft.Advances (d d' : Draft) : Prop extends d.Becomes d' where
  moves : Relation.ReflGen Section.MayPrecede d.stage d'.stage

namespace Draft

variable {d d' d'' : Draft}

theorem coherent_empty : Coherent {} where
  start _ := ⟨rfl, rfl⟩
  started h := absurd rfl h
  direction _ h := absurd h List.not_mem_nil
  objectives _ h := absurd h List.not_mem_nil
  constraints _ h := absurd h List.not_mem_nil

theorem Grows.refl (d : Draft) : d.Grows d :=
  ⟨.refl, Or.inr rfl, List.prefix_rfl, List.prefix_rfl, List.prefix_rfl⟩

theorem Grows.trans (h : d.Grows d') (h' : d'.Grows d'') : d.Grows d'' where
  stage := h.stage.trans h'.stage
  direction := by
    rcases h.direction with hnone | hsame
    · exact Or.inl hnone
    · rcases h'.direction with hnone | hsame'
      · exact Or.inl (hsame ▸ hnone)
      · exact Or.inr (hsame'.trans hsame)
  objectives := h.objectives.trans h'.objectives
  constraints := h.constraints.trans h'.constraints
  names := h.names.trans h'.names

theorem Becomes.refl (h : d.Coherent) : d.Becomes d := ⟨h, .refl d⟩

theorem Becomes.trans (h : d.Becomes d') (h' : d'.Becomes d'') : d.Becomes d'' :=
  ⟨h'.coherent, h.grows.trans h'.grows⟩

/-- What stays in its section advances. -/
theorem Becomes.advances (h : d.Becomes d') (hstage : d'.stage = d.stage) : d.Advances d' where
  toBecomes := h
  moves := by rw [hstage]

/-- What stays in its section may be followed by a step out of it. -/
theorem Becomes.trans_advances (h : d.Becomes d') (hstage : d'.stage = d.stage)
    (h' : d'.Advances d'') : d.Advances d'' where
  toBecomes := h.trans h'.toBecomes
  moves := hstage ▸ h'.moves

/-- A step may be followed by what stays in its section. -/
theorem Advances.trans_becomes (h : d.Advances d') (h' : d'.Becomes d'')
    (hstage : d''.stage = d'.stage) : d.Advances d'' where
  toBecomes := h.toBecomes.trans h'
  moves := hstage ▸ h.moves

/-- A direction that is known stays. -/
theorem Grows.direction_ne_none (h : d.Grows d') (hd : d.direction ≠ none) :
    d'.direction ≠ none := by
  rcases h.direction with hnone | hsame
  · exact absurd hnone hd
  · rw [hsame]
    exact hd

/-! ### What is done to a draft -/

/-- To switch to a section that may follow is to advance. -/
theorem Coherent.switch (h : d.Coherent) (hd : d.direction ≠ none) {target : Section}
    (ht : target ∈ d.stage.successors) : d.Advances (d.switch target) where
  coherent :=
    { start := by
        intro hstart
        rw [show target = .start from hstart] at ht
        cases hstage : d.stage <;> rw [hstage] at ht <;> exact absurd ht (by decide)
      started := fun _ => hd
      direction := h.direction
      objectives := h.objectives
      constraints := h.constraints }
  grows := ⟨.single ht, Or.inr rfl, List.prefix_rfl, List.prefix_rfl, List.prefix_rfl⟩
  moves := .single ht

theorem mem_names_mention {terms : List Term} {x : Text} :
    x ∈ (d.mention terms).table.names ↔ x ∈ d.table.names ∨ x ∈ terms.map Term.name := by
  show x ∈ (d.table.registerAll (terms.map Term.name)).names ↔ _
  rw [Table.names_registerAll, Mention.mem_collect]

theorem Coherent.mention (h : d.Coherent) (terms : List Term) : d.Becomes (d.mention terms) where
  coherent :=
    { start := h.start
      started := h.started
      direction := h.direction
      objectives := fun o ho x hx => mem_names_mention.mpr (Or.inl (h.objectives o ho x hx))
      constraints := by
        intro c hc
        obtain ⟨hne, hline, hnames⟩ := h.constraints c hc
        exact ⟨hne, hline, fun x hx => mem_names_mention.mpr (Or.inl (hnames x hx))⟩ }
  grows :=
    ⟨.refl, Or.inr rfl, List.prefix_rfl, List.prefix_rfl,
      (Table.registerAll_suffix d.table _).map Column.name⟩

theorem Coherent.openObjective (h : d.Coherent) (hd : d.direction ≠ none) (name : Text) :
    d.Becomes (d.openObjective name) where
  coherent :=
    { start := fun hstart => absurd (h.start hstart).1 hd
      started := h.started
      direction := by
        intro o ho
        rcases List.mem_append.mp ho with ho | ho
        · exact h.direction o ho
        · rw [List.mem_singleton.mp ho]
          obtain ⟨direction, hdirection⟩ := Option.ne_none_iff_exists'.mp hd
          show d.direction = some (d.direction.getD .maximize)
          rw [hdirection]
          rfl
      objectives := by
        intro o ho x hx
        rcases List.mem_append.mp ho with ho | ho
        · exact h.objectives o ho x hx
        · rw [List.mem_singleton.mp ho] at hx
          exact absurd hx List.not_mem_nil
      constraints := h.constraints }
  grows := ⟨.refl, Or.inr rfl, List.prefix_append _ _, List.prefix_rfl, List.prefix_rfl⟩

theorem Coherent.complete (h : d.Coherent) (hd : d.direction ≠ none) :
    d.Becomes (Objectives.complete d) := by
  unfold Objectives.complete
  split
  · exact h.openObjective hd _
  · exact .refl h

/-- The last objective takes coefficients of variables that are registered. -/
theorem Coherent.mergeLast (h : d.Coherent) {terms : List Term}
    (hterms : ∀ x ∈ terms.map Term.name, x ∈ d.table.names) :
    (d.mergeLast (.ofTerms terms)).Coherent := by
  unfold Draft.mergeLast
  cases hlast : d.objectives.getLast? with
  | none => exact h
  | some o =>
    have ho : o ∈ d.objectives := List.mem_of_getLast? hlast
    refine ⟨fun hstart => ?_, h.started, ?_, ?_, h.constraints⟩
    · rw [(h.start hstart).2] at ho
      exact absurd ho List.not_mem_nil
    · intro o' ho'
      rcases List.mem_append.mp ho' with ho' | ho'
      · exact h.direction o' (List.dropLast_subset _ ho')
      · rw [List.mem_singleton.mp ho']
        exact h.direction o ho
    · intro o' ho' x hx
      rcases List.mem_append.mp ho' with ho' | ho'
      · exact h.objectives o' (List.dropLast_subset _ ho') x hx
      · rw [List.mem_singleton.mp ho'] at hx
        have hx' : x ∈ (o.coefficients.merge (.ofTerms terms)).names := hx
        rw [Coefficients.names_merge_ofTerms, Mention.mem_collect] at hx'
        rcases hx' with hx' | hx'
        · exact h.objectives o ho x hx'
        · exact hterms x hx'

theorem Coherent.addConstraint (h : d.Coherent) {c : Constraint.Open} {relation : Relation}
    {rhs : Float} {finished : Constraint} (hclose : c.close relation rhs = .ok finished)
    (hc : ∀ x ∈ c.coefficients.names, x ∈ d.table.names) :
    d.Becomes (d.addConstraint finished) where
  coherent :=
    { start := h.start
      started := h.started
      direction := h.direction
      objectives := h.objectives
      constraints := by
        intro c' hc'
        rcases List.mem_append.mp hc' with hc' | hc'
        · exact h.constraints c' hc'
        · rw [List.mem_singleton.mp hc']
          obtain ⟨rfl, hline, hne⟩ := Constraint.Open.eq_of_close hclose
          refine ⟨hne, ?_, hc⟩
          show 1 ≤ c.line.toNat
          omega }
  grows := ⟨.refl, Or.inr rfl, List.prefix_rfl, List.prefix_append _ _, List.prefix_rfl⟩

/-- Declarations change columns, not names. -/
theorem Coherent.withTable (h : d.Coherent) {table : Table} (ht : table.names = d.table.names) :
    d.Becomes { d with table } where
  coherent :=
    { start := h.start
      started := h.started
      direction := h.direction
      objectives := by
        rw [ht]
        exact h.objectives
      constraints := by
        rw [ht]
        exact h.constraints }
  grows := by
    have hnames : d.table.names <+: table.names := ht ▸ List.prefix_rfl
    exact ⟨.refl, Or.inr rfl, List.prefix_rfl, List.prefix_rfl, hnames⟩

end Draft

/-! ## Lines -/

/-- Sections that a keyword may lead to from where it is looked for. -/
theorem Section.mem_successors_of_keyword {text : Text} {target s : Section}
    (h : Keyword.section? text = some target)
    (hs : s = .objective ∨ s = .constraints ∨ s.Declares) : target ∈ s.successors := by
  have hmem := Keyword.mem_of_section? h
  rcases hs with rfl | rfl | rfl | rfl | rfl
  · exact List.mem_cons_of_mem _ hmem
  · exact hmem
  · exact hmem
  · exact hmem
  · exact hmem

namespace Objectives

/-- The objectives of a call: those of the draft it began with, and behind them the ones it has
    opened, the last of which may be open. -/
structure State.From (base : Draft) (s : State) : Prop where
  becomes : base.Becomes s.draft
  known : base.direction ≠ none
  begins : base.stage = .objective
  stage : s.draft.stage = .objective
  isOpen : s.isOpen = true → base.objectives <+: s.draft.objectives.dropLast ∧
    s.draft.objectives ≠ []

section

variable {base : Draft} {s : State}

/-- Before the section is left, it has stayed. -/
theorem State.From.advances (h : s.From base) : base.Advances s.draft :=
  h.becomes.advances (h.stage.trans h.begins.symm)

theorem State.From.opens (h : s.From base) (name : Text) :
    State.From base { draft := s.draft.openObjective name, isOpen := true } where
  becomes := h.becomes.trans
    (h.becomes.coherent.openObjective (h.becomes.grows.direction_ne_none h.known) name)
  known := h.known
  begins := h.begins
  stage := h.stage
  isOpen _ := by
    refine ⟨?_, List.append_ne_nil_of_right_ne_nil _ (List.cons_ne_nil _ _)⟩
    show base.objectives <+: (s.draft.objectives ++ [_]).dropLast
    rw [List.dropLast_concat]
    exact h.becomes.grows.objectives

theorem State.From.named (h : s.From base) (name? : Option Text) : (s.named name?).From base := by
  cases name? with
  | none => exact h
  | some name => exact h.opens name

theorem State.From.opened (h : s.From base) : s.opened.From base ∧ s.opened.isOpen = true := by
  unfold State.opened
  split
  · next hopen => exact ⟨h, hopen⟩
  · exact ⟨h.opens _, rfl⟩

/-- Terms are added to the open objective; the objectives that the call began with stay. -/
theorem State.From.extended (h : s.From base) (hopen : s.isOpen = true) (terms : List Term) :
    (s.extended terms).From base := by
  obtain ⟨hbase, hne⟩ := h.isOpen hopen
  have hmention := h.becomes.coherent.mention terms
  have hobjectives : ∃ o, (s.extended terms).draft.objectives =
      s.draft.objectives.dropLast ++ [o] := by
    unfold State.extended Draft.mergeLast
    dsimp only
    rw [show (s.draft.mention terms).objectives = s.draft.objectives from rfl,
      List.getLast?_eq_some_getLast hne]
    exact ⟨_, rfl⟩
  obtain ⟨o, ho⟩ := hobjectives
  have hgrows := h.becomes.grows.trans hmention.grows
  have hmerge : ∀ (d : Draft) (cs : Coefficients), (d.mergeLast cs).table = d.table := by
    intro d cs
    unfold Draft.mergeLast
    split <;> rfl
  refine ⟨⟨?_, ?_⟩, h.known, h.begins, ?_, fun _ => ?_⟩
  · exact hmention.coherent.mergeLast fun x hx => Draft.mem_names_mention.mpr (Or.inr hx)
  · refine ⟨?_, ?_, ?_, ?_, ?_⟩
    · show Relation.ReflTransGen _ _ ((s.draft.mention terms).mergeLast _).stage
      rw [Draft.mergeLast_stage]
      exact hgrows.stage
    · show _ ∨ ((s.draft.mention terms).mergeLast _).direction = _
      rw [Draft.mergeLast_direction]
      exact hgrows.direction
    · rw [ho]
      exact hbase.trans (List.prefix_append _ _)
    · show _ <+: ((s.draft.mention terms).mergeLast _).constraints
      rw [Draft.mergeLast_constraints]
      exact hgrows.constraints
    · show _ <+: ((s.draft.mention terms).mergeLast _).table.names
      rw [hmerge]
      exact hgrows.names
  · show ((s.draft.mention terms).mergeLast _).stage = _
    rw [Draft.mergeLast_stage]
    exact h.stage
  · rw [ho, List.dropLast_concat]
    exact ⟨hbase, List.append_ne_nil_of_right_ne_nil _ (List.cons_ne_nil _ _)⟩

/-- **Whatever a line of the objectives does**, the draft has grown, and the section is left by one
    step if at all. -/
theorem State.From.effect {n : Nat} {text : Text} {v : Verdict State (Option Text)}
    (h : s.From base) (hv : Effect n text s v) :
    v.Leads (State.From base) (fun s _ => base.Advances s.draft)
      (fun s _ => base.Advances s.draft) := by
  have hswitch : ∀ {target : Section}, target ∈ Section.objective.successors →
      base.Advances (s.draft.switch target) := by
    intro target ht
    refine h.becomes.trans_advances (h.stage.trans h.begins.symm) (h.becomes.coherent.switch
      (h.becomes.grows.direction_ne_none h.known) ?_)
    rw [h.stage]
    exact ht
  cases hv with
  | blank _ => exact h
  | keyword target ht =>
    rcases ht with ⟨-, rfl⟩ | ht
    · exact hswitch (by decide)
    · exact hswitch (Section.mem_successors_of_keyword ht (Or.inl rfl))
  | implicit _ => exact hswitch (by decide)
  | misnamed _ _ => exact h.advances
  | named name? _ => exact h.named name?
  | adds name? body terms _ _ =>
    obtain ⟨hopened, hopen⟩ := (h.named name?).opened
    exact hopened.extended hopen terms
  | breaksOff name? body terms cause _ _ =>
    have hopened := (h.named name?).opened.1
    exact (hopened.becomes.trans (hopened.becomes.coherent.mention terms)).advances
      (hopened.stage.trans h.begins.symm)

end

end Objectives

namespace Constraints

/-- The variables of the open constraint are registered. -/
structure State.From (base : Draft) (s : State) : Prop where
  becomes : base.Becomes s.draft
  known : base.direction ≠ none
  begins : base.stage = .constraints
  stage : s.draft.stage = .constraints
  current : ∀ c, s.current = some c → ∀ x ∈ c.coefficients.names, x ∈ s.draft.table.names

section

variable {base : Draft} {s s' : State} {n : Nat} {text body : Text}

/-- Before the section is left, it has stayed. -/
theorem State.From.advances (h : s.From base) : base.Advances s.draft :=
  h.becomes.advances (h.stage.trans h.begins.symm)

theorem State.From.enters (h : s.From base) (he : Enters n text s body s') : s'.From base := by
  cases he with
  | unnamed _ _ => exact h
  | named name _ _ _ =>
    refine ⟨h.becomes, h.known, h.begins, h.stage, ?_⟩
    rintro c ⟨rfl⟩ x hx
    exact absurd hx List.not_mem_nil

theorem State.From.target (h : s.From base) (n : Nat) :
    ∀ x ∈ (s.target n).coefficients.names, x ∈ s.draft.table.names := by
  unfold State.target
  cases hcurrent : s.current with
  | none => exact fun x hx => absurd hx List.not_mem_nil
  | some c => exact h.current c hcurrent

/-- With the terms of a line the target's variables are registered. -/
theorem State.From.names_merge (h : s.From base) (n : Nat) (terms : List Term) :
    ∀ x ∈ ((s.target n).merge (.ofTerms terms)).coefficients.names,
      x ∈ (s.draft.mention terms).table.names := by
  intro x hx
  have hx' : x ∈ ((s.target n).coefficients.merge (.ofTerms terms)).names := hx
  rw [Coefficients.names_merge_ofTerms, Mention.mem_collect] at hx'
  exact Draft.mem_names_mention.mpr (hx'.imp (h.target n x) id)

theorem State.From.contributes (h : s.From base) {v : Verdict State Unit}
    (hv : Contributes n text body s v) :
    v.Leads (State.From base) (fun s _ => base.Advances s.draft)
      (fun s _ => base.Advances s.draft) := by
  have hmention : ∀ terms, base.Becomes (s.draft.mention terms) := fun terms =>
    h.becomes.trans (h.becomes.coherent.mention terms)
  have hstays : s.draft.stage = base.stage := h.stage.trans h.begins.symm
  cases hv with
  | unread _ _ => exact h.advances
  | withoutLeft _ _ _ _ => exact h.advances
  | adds lhs terms _ _ =>
    refine ⟨hmention terms, h.known, h.begins, h.stage, ?_⟩
    rintro c ⟨rfl⟩
    exact h.names_merge n terms
  | breaksOff _ _ terms _ _ _ _ => exact (hmention terms).advances hstays
  | closes c d relation rhs said _ hc finished hclose =>
    have hd : base.Becomes d ∧ d.stage = .constraints ∧
        ∀ x ∈ c.coefficients.names, x ∈ d.table.names := by
      rcases hc with ⟨-, hcurrent, rfl⟩ | ⟨lhs, terms, -, -, rfl, rfl⟩
      · exact ⟨h.becomes, h.stage, h.current c hcurrent⟩
      · exact ⟨hmention terms, h.stage, h.names_merge n terms⟩
    obtain ⟨hbecomes, hstage, hnames⟩ := hd
    exact ⟨hbecomes.trans (hbecomes.coherent.addConstraint hclose hnames), h.known, h.begins, hstage,
      fun c hc => nomatch hc⟩
  | unclosed c d relation rhs said _ hc fault _ =>
    rcases hc with ⟨-, -, rfl⟩ | ⟨lhs, terms, -, -, -, rfl⟩
    · exact h.advances
    · exact (hmention terms).advances hstays

/-- **Whatever a line of the constraints does**, the draft has grown, and the section is left by one
    step if at all. -/
theorem State.From.effect {v : Verdict State Unit} (h : s.From base) (hv : Effect n text s v) :
    v.Leads (State.From base) (fun s _ => base.Advances s.draft)
      (fun s _ => base.Advances s.draft) := by
  cases hv with
  | blank _ => exact h
  | keyword target ht _ =>
    refine h.becomes.trans_advances (h.stage.trans h.begins.symm) (h.becomes.coherent.switch
      (h.becomes.grows.direction_ne_none h.known) ?_)
    rw [h.stage]
    exact Section.mem_successors_of_keyword ht (Or.inr (Or.inl rfl))
  | unfinished _ _ => exact h.advances
  | misnamed _ _ => exact h.advances
  | enters s' he => exact h.enters he
  | contributes body s' v he hv => exact (h.enters he).contributes hv

end

end Constraints

namespace Declarations

/-- The columns of a call in a declaring section change, the section stays. -/
structure From (base d : Draft) : Prop where
  becomes : base.Becomes d
  begins : base.stage.Declares
  stage : d.stage = base.stage

variable {base d : Draft}

/-- Before the section is left, it has stayed. -/
theorem From.advances (h : From base d) : base.Advances d := h.becomes.advances h.stage

theorem From.withTable (h : From base d) {table : Table} (ht : table.names = d.table.names) :
    From base { d with table } where
  becomes := h.becomes.trans (h.becomes.coherent.withTable ht)
  begins := h.begins
  stage := h.stage

/-- **Whatever a line of declarations does**, the draft has grown, and the section is left by one
    step if at all. -/
theorem From.effect {n : Nat} {text : Text} {v : Verdict Draft Unit} (h : From base d)
    (hv : Effect n text d v) :
    v.Leads (From base) (fun d _ => base.Advances d) (fun d _ => base.Advances d) := by
  have hdeclares : d.stage.Declares := h.stage ▸ h.begins
  cases hv with
  | blank _ => exact h
  | keyword target ht =>
    refine h.becomes.trans_advances h.stage (h.becomes.coherent.switch
      (h.becomes.coherent.started ?_)
      (Section.mem_successors_of_keyword ht (Or.inr (Or.inr hdeclares))))
    rintro hstart
    rw [hstart] at hdeclares
    rcases hdeclares with h | h | h <;> cases h
  | lists kind table _ hassign => exact h.withTable (names_assign hassign)
  | unlisted kind table cause _ hassign => exact (h.withTable (names_assign hassign)).advances
  | bounds b _ _ => exact h.withTable (b.names_apply d.table)
  | refused _ _ _ => exact h.advances

end Declarations

end LinearProgram

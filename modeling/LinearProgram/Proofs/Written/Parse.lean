/-
  Parse — a written document is read as what it means.

  1. **Passages** — in each section the written lines pass one by one, and the draft grows by what
     was written (`passes_objectives`, `passes_constraints`, `Block.passes_body`).

  2. **Readers** — each section is left at the next keyword. A reader that gives an answer hands the
     session over to the next one (`Outcome.Gives`), so that a whole document is read by a chain of
     equations; the blocks of declarations are read by induction.

  3. **Assembly** — the table in the end has a column for each mentioned name, changed by what was
     declared about it. The model is made from it, unless bounds are inverted.

  Together they say that reading is a left inverse of writing (`Document.model_write`).
-/

import LinearProgram.Proofs.Document.Assembly
import LinearProgram.Proofs.Document.Course
import LinearProgram.Proofs.Mention
import LinearProgram.Proofs.Written.Document

namespace LinearProgram.Written

open Cursor (Passes)

/-! ## Passages -/

/-- A draft with further objectives, and what they mention. -/
def withObjectives (direction : Direction) (os : List Objective) (d : Draft) : Draft :=
  { d with
    objectives := d.objectives ++ os.map (Objective.objective direction)
    table := d.table.registerAll (os.flatMap Objective.mentions) }

/-- **Objectives pass line by line.** -/
theorem passes_objectives {direction : Direction} (os : List Objective) (n : Nat)
    {s : Objectives.State} (hs : s.draft.direction = some direction) :
    ∃ isOpen, Passes Objectives.step n (os.map Objective.text) s
      { draft := withObjectives direction os s.draft, isOpen } := by
  induction os generalizing n s with
  | nil =>
    refine ⟨s.isOpen, ?_⟩
    have hsame : withObjectives direction [] s.draft = s.draft := by
      simp [withObjectives, Table.registerAll]
    rw [hsame]
    exact .nil
  | cons o os ih =>
    have hfirst := o.step_text (n + 1) hs
    rw [← o.isLine.content] at hfirst
    have hsplit : withObjectives direction (o :: os) s.draft =
        withObjectives direction os (o.added direction s.draft) := by
      unfold withObjectives Objective.added
      dsimp only
      rw [List.flatMap_cons, Table.registerAll_append, List.map_cons, List.append_assoc]
      rfl
    -- the direction is that of the draft, whatever was added to it
    have hadded : (Objectives.State.mk (o.added direction s.draft) true).draft.direction =
        some direction := hs
    obtain ⟨isOpen, hrest⟩ := ih (n + 1) hadded
    rw [hsplit]
    exact ⟨isOpen, .cons hfirst hrest⟩

/-- A draft with further constraints, the first of them on line `n`, and what they mention. -/
def withConstraints (n : Nat) (cs : List Constraint) (d : Draft) : Draft :=
  { d with
    constraints := d.constraints ++ (cs.zipIdx n).map fun (c, n) => c.constraint n
    table := d.table.registerAll (cs.flatMap Constraint.mentions) }

/-- **Constraints pass line by line**, and each of them is closed on its line. -/
theorem passes_constraints (cs : List Constraint) (n : Nat) (d : Draft) :
    Passes Constraints.step n (cs.map Constraint.text) { draft := d }
      { draft := withConstraints (n + 1) cs d } := by
  induction cs generalizing n d with
  | nil =>
    have hsame : withConstraints (n + 1) [] d = d := by
      simp [withConstraints, Table.registerAll]
    rw [hsame]
    exact .nil
  | cons c cs ih =>
    have hfirst := c.step_text (Nat.succ_pos n) d
    rw [← c.isLine.content] at hfirst
    have hsplit : withConstraints (n + 1) (c :: cs) d =
        withConstraints (n + 1 + 1) cs (c.added (n + 1) d) := by
      unfold withConstraints Constraint.added
      dsimp only
      rw [List.flatMap_cons, Table.registerAll_append, List.zipIdx_cons, List.map_cons,
        List.append_assoc]
      rfl
    rw [hsplit]
    exact .cons hfirst (ih (n + 1) _)

/-! ### Blocks -/

/-- All variables are registered. -/
def Registered (xs : List VariableName) (table : Table) : Prop :=
  ∀ x ∈ xs, table.has x.text = true

theorem Registered.of_names {xs : List VariableName} {table table' : Table}
    (h : Registered xs table) (hnames : table'.names = table.names) : Registered xs table' := by
  intro x hx
  rw [Table.has_iff, hnames, ← Table.has_iff]
  exact h x hx

theorem Nominal.of_names {table table' : Table} (h : Nominal table)
    (hnames : table'.names = table.names) : Nominal table' := by
  intro name hname
  rw [hnames] at hname
  exact h name hname

/-- A draft whose columns were changed. -/
def withEffects (effects : List Effect) (d : Draft) : Draft :=
  { d with table := applyAll effects d.table }

/-- Bounds pass line by line. -/
theorem passes_bounds (bs : List Bound) (n : Nat) {d : Draft} (hstage : d.stage = .bounds)
    (hnominal : Nominal d.table) (h : Registered (bs.map Bound.name) d.table) :
    Passes Declarations.step n (bs.map Bound.text) d
      (withEffects (bs.map fun b => (b.name.text, b.change.apply)) d) := by
  induction bs generalizing n d with
  | nil => exact .nil
  | cons b bs ih =>
    have hkeep : ∀ c, (b.change.apply c).name = c.name := by
      intro c
      cases b.change <;> rfl
    have hnames := Table.names_update d.table b.name.text hkeep
    have hfirst := b.step_text (n + 1) hstage hnominal (h _ List.mem_cons_self)
    rw [← b.isLine.content] at hfirst
    have hrest : Registered (bs.map Bound.name) d.table :=
      fun x hx => h x (List.mem_cons_of_mem _ hx)
    exact .cons hfirst (ih (n + 1) hstage (hnominal.of_names hnames) (hrest.of_names hnames))

/-- Lists pass line by line. -/
theorem passes_lists (lists : List (List VariableName)) (n : Nat) {d : Draft}
    {kind : Variable.Kind} (hkind : Declarations.kind? d.stage = some kind)
    (h : Registered lists.flatten d.table) :
    Passes Declarations.step n (lists.map listText) d
      (withEffects (lists.flatMap (listEffects kind)) d) := by
  induction lists generalizing n d with
  | nil => exact .nil
  | cons xs lists ih =>
    have hnames := names_applyAll (keepNames_listEffects kind xs) d.table
    have hfirst := listed_step xs (n + 1) hkind fun x hx => h x (List.mem_append_left _ hx)
    rw [← (isLine_listText xs).content] at hfirst
    have hsplit : withEffects ((xs :: lists).flatMap (listEffects kind)) d =
        withEffects (lists.flatMap (listEffects kind)) (withEffects (listEffects kind xs) d) := by
      unfold withEffects
      rw [List.flatMap_cons, applyAll_append]
    have hrest : Registered lists.flatten d.table :=
      fun x hx => h x (List.mem_append_right _ hx)
    rw [hsplit]
    exact .cons hfirst (ih (n + 1) hkind (hrest.of_names hnames))

/-- **The lines of a block pass in its section.** -/
theorem Block.passes_body (b : Block) (n : Nat) {d : Draft} (hstage : d.stage = b.target)
    (hnominal : Nominal d.table) (h : Registered b.names d.table) :
    Passes Declarations.step n b.body d (withEffects b.effects d) := by
  cases b with
  | bounds k statements => exact passes_bounds statements n hstage hnominal h
  | binaries k lists => exact passes_lists lists n (by rw [hstage]; rfl) h
  | generals k lists => exact passes_lists lists n (by rw [hstage]; rfl) h

end LinearProgram.Written

/-! ## Readers -/

namespace LinearProgram.Session

/-- The outcome is an answer and leaves a session behind. -/
structure Outcome.Gives {α : Type} (o : Outcome α) (a : α) (s : Session) : Prop where
  result : o.result = .ok a
  session : o.session = s

section Gives

variable {α β : Type} {o : Outcome α} {a : α} {s : Session}

/-- What comes next begins with the answer and the session. -/
theorem Outcome.Gives.andThen_eq (h : o.Gives a s) (next : α → Session → Outcome β) :
    (o.andThen next).result = (next a s).result ∧
      (o.andThen next).session = (next a s).session := by
  obtain ⟨result, session, events⟩ := o
  obtain ⟨hresult, hsession⟩ := h
  cases hresult
  cases hsession
  exact ⟨rfl, rfl⟩

theorem Outcome.Gives.andThen (h : o.Gives a s) {next : α → Session → Outcome β} {b : β}
    {s' : Session} (hnext : (next a s).Gives b s') : (o.andThen next).Gives b s' := by
  obtain ⟨hresult, hsession⟩ := h.andThen_eq next
  exact ⟨hresult.trans hnext.result, hsession.trans hnext.session⟩

/-- The answer or the located fault is that of what comes next. -/
theorem Outcome.Gives.located_andThen (h : o.Gives a s) (next : α → Session → Outcome β) :
    (o.andThen next).located.result = (next a s).located.result := by
  obtain ⟨hresult, hsession⟩ := h.andThen_eq next
  unfold located
  dsimp only
  rw [hresult, hsession]

end Gives

end LinearProgram.Session

namespace LinearProgram.Written

open Session (Outcome)

/-! ### Direction, objectives, constraints -/

namespace Document

/-- The draft behind the line of the direction. -/
def directedDraft (d : Document) : Draft := { stage := .objective, direction := some d.direction }

/-- The draft behind the line of the constraints keyword. -/
def draftOfObjectives (d : Document) : Draft :=
  (withObjectives d.direction d.objectives d.directedDraft).switch .constraints

/-- The draft behind the last constraint. -/
def draftOfConstraints (d : Document) : Draft :=
  withConstraints d.firstConstraintLine d.constraints d.draftOfObjectives

theorem readDirection_gives (d : Document) (rest : List Text) :
    (Session.readDirection { cursor := ⟨d.word :: rest, .finished, 0⟩ }).Gives none
      ⟨d.directedDraft, ⟨rest, .finished, 1⟩⟩ := by
  have hword := d.isWord_word
  have hnonempty : (d.word.content.isEmpty && true) = false := by
    rw [d.isLine_word.content, List.isEmpty_eq_false_iff.mpr hword.ne_nil]
    rfl
  have hnext : Cursor.next true ⟨d.word :: rest, .finished, 0⟩ =
      (.ok d.word, ⟨rest, .finished, 1⟩) := by
    unfold Cursor.next Cursor.nextOf
    rw [hnonempty, if_neg (by decide), d.isLine_word.content]
  have hwords : ∀ draft : Draft, Session.directionWords 1 d.word draft =
      (.ok none, { draft with direction := some d.direction, stage := .objective },
        [.foundDirection d.direction, .switched .objective]) := by
    intro draft
    unfold Session.directionWords
    rw [hword.firstWord?]
    dsimp only
    rw [d.ofWord?_word]
  have hstage : Section.start ∈ [Section.start] := List.mem_singleton.mpr rfl
  unfold Session.readDirection
  rw [Session.within_eq hstage]
  dsimp only
  rw [hnext]
  dsimp only
  rw [hwords]
  exact ⟨rfl, rfl⟩

theorem readObjectives_gives (d : Document) (rest : List Text) :
    (Session.readObjectives none
        ⟨d.directedDraft,
          ⟨d.objectives.map Objective.text ++ d.keyword :: rest, .finished, 1⟩⟩).Gives none
      ⟨d.draftOfObjectives, ⟨rest, .finished, d.objectives.length + 2⟩⟩ := by
  have hdirection : (Objectives.State.mk d.directedDraft false).draft.direction =
      some d.direction := rfl
  obtain ⟨isOpen, hpasses⟩ := passes_objectives d.objectives 1 hdirection
  -- behind the objectives stands the keyword, which ends the section
  have hkeyword : ∀ n s, (Objectives.step n d.keyword.content s).verdict =
      .done { s with draft := s.draft.switch .constraints } none := by
    intro n s
    rw [d.isLine_keyword.content, Objectives.verdict_step d.keyword_ne_nil]
    unfold Objectives.line
    rw [d.opensConstraints_keyword, if_pos rfl]
    rfl
  have houtcome := hpasses.feedOf_done .finished rest (hkeyword _ _)
  have hnumber : 1 + (d.objectives.map Objective.text).length + 1 = d.objectives.length + 2 := by
    rw [List.length_map]
    omega
  rw [hnumber] at houtcome
  obtain ⟨hresult, hstate, hcursor⟩ := houtcome
  -- there is an objective, so that none has to be added
  have hcomplete : Objectives.complete d.draftOfObjectives = d.draftOfObjectives := by
    have hsome : d.draftOfObjectives.objectives.isEmpty = false :=
      List.isEmpty_eq_false_iff.mpr fun h => d.ne_nil (List.map_eq_nil_iff.mp h)
    unfold Objectives.complete
    rw [hsome, if_neg (by decide)]
  have hdirected : d.directedDraft.direction.isNone = false := rfl
  have hstage : d.directedDraft.stage ∈ [Section.objective] := List.mem_singleton.mpr rfl
  unfold Session.readObjectives Session.run Cursor.feed
  rw [Session.within_eq hstage]
  dsimp only
  rw [hdirected, if_neg (by decide), hresult]
  dsimp only
  rw [hstate, hcursor]
  exact ⟨rfl, congrArg (Session.mk · _) hcomplete⟩

theorem readConstraints_gives (d : Document) {target : Section} (k : Heading target)
    (rest : List Text) :
    (Session.readConstraintsIfAny none
        ⟨d.draftOfObjectives,
          ⟨d.constraints.map Constraint.text ++ k.text :: rest, .finished,
            d.objectives.length + 2⟩⟩).Gives ()
      ⟨d.draftOfConstraints.switch target,
        ⟨rest, .finished, d.objectives.length + 2 + d.constraints.length + 1⟩⟩ := by
  have hpasses := passes_constraints d.constraints (d.objectives.length + 2) d.draftOfObjectives
  -- behind the constraints stands a heading; no constraint is open then
  have hheading : ∀ n draft, (Constraints.step n k.text.content { draft }).verdict =
      .done { draft := draft.switch target } () := by
    intro n draft
    rw [k.isLine.content, Constraints.verdict_step k.text_ne_nil]
    unfold Constraints.line
    rw [k.section?_text]
  have houtcome := hpasses.feedOf_done .finished rest (hheading _ _)
  rw [List.length_map] at houtcome
  obtain ⟨hresult, hstate, hcursor⟩ := houtcome
  have hstage : d.draftOfObjectives.stage = .constraints := rfl
  unfold Session.readConstraintsIfAny Session.readConstraints Session.run Cursor.feed
  dsimp only
  rw [if_pos hstage, Session.within_eq (List.mem_singleton.mpr hstage)]
  dsimp only
  rw [hresult, hstate, hcursor]
  exact ⟨rfl, rfl⟩

end Document

/-! ### Declarations -/

/-- The section that the first of the blocks stands in, or else the end. -/
def firstTarget : List Block → Section
  | [] => .finish
  | b :: _ => b.target

/-- The heading of the first block, or else the end marker. -/
def firstHeading (ending : Heading .finish) : (blocks : List Block) → Heading (firstTarget blocks)
  | [] => ending
  | b :: _ => b.heading

/-- The lines behind the first heading. -/
def linesBehind (ending : Heading .finish) : List Block → List Text
  | [] => []
  | b :: blocks => b.body ++ declarationLines ending blocks

theorem declarationLines_eq (ending : Heading .finish) (blocks : List Block) :
    declarationLines ending blocks =
      (firstHeading ending blocks).text :: linesBehind ending blocks := by
  cases blocks with
  | nil => rfl
  | cons b blocks =>
    unfold declarationLines linesBehind declarationLines
    rw [List.flatMap_cons, List.cons_append, List.cons_append, List.append_assoc]
    rfl

theorem Block.target_declares (b : Block) : b.target.Declares := by
  cases b with
  | bounds k statements => exact Or.inl rfl
  | binaries k lists => exact Or.inr (Or.inl rfl)
  | generals k lists => exact Or.inr (Or.inr rfl)

/-- One block is read up to the heading behind it. -/
theorem Block.readDeclaring_gives (b : Block) {target : Section} (k : Heading target)
    (rest : List Text) (n : Nat) {draft : Draft} (hstage : draft.stage = b.target)
    (hnominal : Nominal draft.table) (h : Registered b.names draft.table) :
    (Session.readDeclaring ⟨draft, ⟨b.body ++ k.text :: rest, .finished, n⟩⟩).Gives ()
      ⟨(withEffects b.effects draft).switch target,
        ⟨rest, .finished, n + b.body.length + 1⟩⟩ := by
  have hheading : ∀ n draft, (Declarations.step n k.text.content draft).verdict =
      .done (draft.switch target) () := by
    intro n draft
    rw [k.isLine.content, Declarations.verdict_step k.text_ne_nil]
    unfold Declarations.line
    rw [k.section?_text]
  have houtcome :=
    (b.passes_body n hstage hnominal h).feedOf_done .finished rest (hheading _ _)
  obtain ⟨hresult, hstate, hcursor⟩ := houtcome
  have hdeclares : draft.stage.Declares := by
    rw [hstage]
    exact b.target_declares
  rw [Session.readDeclaring_eq hdeclares]
  unfold Session.declare Cursor.feed
  dsimp only
  rw [hresult, hstate, hcursor]
  exact ⟨rfl, rfl⟩

/-- **All blocks are read, one after the other.** -/
theorem readDeclarations_gives (ending : Heading .finish) (blocks : List Block) (n : Nat)
    {draft : Draft} (hstage : draft.stage = firstTarget blocks) (hnominal : Nominal draft.table)
    (h : ∀ b ∈ blocks, Registered b.names draft.table) :
    (Session.readDeclarations ⟨draft, ⟨linesBehind ending blocks, .finished, n⟩⟩).Gives ()
      ⟨(withEffects (blocks.flatMap Block.effects) draft).switch .finish,
        ⟨[], .finished, n + (linesBehind ending blocks).length⟩⟩ := by
  induction blocks generalizing n draft with
  | nil =>
    -- the end marker was read already, and nothing is read behind it
    have hfinish : draft.stage = .finish := hstage
    have hsame : (withEffects [] draft).switch .finish = draft := by
      unfold Draft.switch
      rw [← hfinish]
      rfl
    rw [Session.readDeclarations_eq, if_pos hfinish]
    exact ⟨rfl, by rw [List.flatMap_nil, hsame]; rfl⟩
  | cons b blocks ih =>
    have hunfinished : ¬ draft.stage = .finish := by
      rw [hstage]
      cases b <;> exact fun h => nomatch h
    have hb := b.readDeclaring_gives (firstHeading ending blocks) (linesBehind ending blocks) n
      hstage hnominal (h b List.mem_cons_self)
    rw [← declarationLines_eq] at hb
    -- the effects rename nothing, so what was registered before this block still is behind it
    have hnames : ((withEffects b.effects draft).switch (firstTarget blocks)).table.names =
        draft.table.names := names_applyAll b.keepNames_effects draft.table
    have hstage' : ((withEffects b.effects draft).switch (firstTarget blocks)).stage =
        firstTarget blocks := rfl
    have hrest := ih (n + b.body.length + 1) hstage' (hnominal.of_names hnames)
      fun b' hb' => (h b' (List.mem_cons_of_mem b hb')).of_names hnames
    have hdraft : (withEffects (blocks.flatMap Block.effects)
          ((withEffects b.effects draft).switch (firstTarget blocks))).switch .finish =
        (withEffects ((b :: blocks).flatMap Block.effects) draft).switch .finish := by
      unfold withEffects Draft.switch
      rw [List.flatMap_cons, applyAll_append]
    have hnumber : n + b.body.length + 1 + (linesBehind ending blocks).length =
        n + (linesBehind ending (b :: blocks)).length := by
      show _ = n + (b.body ++ declarationLines ending blocks).length
      rw [List.length_append, declarationLines_eq, List.length_cons]
      omega
    rw [hdraft, hnumber] at hrest
    rw [Session.readDeclarations_eq, if_neg hunfinished]
    exact hb.andThen hrest

/-! ## Assembly -/

namespace Document

theorem exists_variableName (d : Document) {name : Text} (h : name ∈ d.mentions) :
    ∃ x : VariableName, name = x.text := by
  have hterms : ∀ ts : List SignedTerm, name ∈ (ts.map fun t => t.name.text) →
      ∃ x : VariableName, name = x.text := by
    intro ts hts
    obtain ⟨t, -, rfl⟩ := List.mem_map.mp hts
    exact ⟨t.name, rfl⟩
  rcases List.mem_append.mp h with h | h
  · obtain ⟨o, -, ho⟩ := List.mem_flatMap.mp h
    exact hterms o.terms ho
  · obtain ⟨c, -, hc⟩ := List.mem_flatMap.mp h
    exact hterms c.terms hc

/-- The table behind the last constraint has a column for each mentioned name. -/
theorem table_draftOfConstraints (d : Document) :
    d.draftOfConstraints.table = Table.fresh d.mentions.eraseDups := by
  have hregister := Table.registerAll_fresh [] d.mentions
  rw [Mention.collect_nil] at hregister
  rw [← hregister]
  exact (Table.registerAll_append _ _ _).symm

theorem nominal_draftOfConstraints (d : Document) : Nominal d.draftOfConstraints.table := by
  intro name hname
  rw [table_draftOfConstraints, Table.names_fresh, List.mem_eraseDups] at hname
  exact d.exists_variableName hname

theorem registered_draftOfConstraints (d : Document) :
    ∀ b ∈ d.blocks, Registered b.names d.draftOfConstraints.table := by
  intro b hb x hx
  rw [Table.has_iff, table_draftOfConstraints, Table.names_fresh, List.mem_eraseDups]
  exact d.mentioned b hb x hx

theorem keepNames_effects (d : Document) : KeepNames d.effects := by
  intro e he
  obtain ⟨b, -, hb⟩ := List.mem_flatMap.mp he
  exact b.keepNames_effects e hb

/-- The draft behind the end marker. -/
def draftOfAll (d : Document) : Draft := (withEffects d.effects d.draftOfConstraints).switch .finish

/-- **In the end the table has the columns that are meant.** -/
theorem table_draftOfAll (d : Document) : d.draftOfAll.table = d.columns := by
  show applyAll d.effects d.draftOfConstraints.table = _
  rw [applyAll_eq d.keepNames_effects, table_draftOfConstraints]
  unfold Table.fresh columns
  rw [List.map_map]
  rfl

theorem name_columnBehind {effects : List Effect} (h : KeepNames effects) (c : Column) :
    (columnBehind effects c).name = c.name := by
  have hfold : ∀ (effects : List Effect) (c : Column), KeepNames effects →
      (effects.foldl (fun c e => e.2 c) c).name = c.name := by
    intro effects
    induction effects with
    | nil => exact fun _ _ => rfl
    | cons e effects ih =>
      intro c h
      rw [List.foldl_cons, ih _ fun e' he' => h e' (List.mem_cons_of_mem e he')]
      exact h e List.mem_cons_self c
  exact hfold _ c fun e he => h e (List.mem_filter.mp he).1

theorem isBlankOnly_name_of_mem_columns (d : Document) {c : Column} (h : c ∈ d.columns) :
    c.name.isBlankOnly = false := by
  obtain ⟨name, hname, rfl⟩ := List.mem_map.mp h
  obtain ⟨x, rfl⟩ := d.exists_variableName (List.mem_eraseDups.mp hname)
  rw [name_columnBehind d.keepNames_effects]
  exact x.isBlankOnly_text

/-- The model, or the cause that there is none. -/
theorem modelOf_draftOfAll (d : Document) : Session.modelOf d.draftOfAll =
    match d.columns.find? fun c => c.finalLower > c.finalUpper with
    | some c => .error (.invertedBounds c.name c.finalLower c.finalUpper)
    | none =>
      .ok
        { objectives := d.objectives.map (Objective.objective d.direction)
          constraints := (d.constraints.zipIdx d.firstConstraintLine).map fun (c, n) =>
            c.constraint n
          vars := d.columns.map fun c => ⟨c.name, c.finalLower, c.finalUpper, c.kind⟩ } := by
  -- names are not blank, so that neither check can fail for a name
  have hobjectives : Session.checkAll LinearProgram.Objective.check d.draftOfAll.objectives =
      .ok (d.objectives.map (Objective.objective d.direction)) := by
    have hall : ∀ o ∈ d.objectives.map (Objective.objective d.direction),
        LinearProgram.Objective.check o =
          if false then .error (.blankName .objective) else .ok (id o) := by
      intro o ho
      obtain ⟨o, -, rfl⟩ := List.mem_map.mp ho
      unfold LinearProgram.Objective.check
      rw [show (o.objective d.direction).name = o.name.text from rfl, o.name.isBlankOnly_text]
      rfl
    have hcheck := Session.checkAll_eq hall
    rw [List.find?_eq_none.mpr fun _ _ => Bool.false_ne_true, List.map_id] at hcheck
    exact hcheck
  have hcolumns : ∀ c ∈ d.columns, c.finish =
      if decide (c.finalLower > c.finalUpper) then
        .error (.invertedBounds c.name c.finalLower c.finalUpper)
      else .ok ⟨c.name, c.finalLower, c.finalUpper, c.kind⟩ := by
    intro c hc
    unfold Column.finish
    rw [d.isBlankOnly_name_of_mem_columns hc, if_neg (by decide)]
    simp only [decide_eq_true_eq]
  unfold Session.modelOf
  rw [hobjectives, table_draftOfAll, Session.checkAll_eq hcolumns]
  cases d.columns.find? fun c => c.finalLower > c.finalUpper <;> rfl

/-! ## Documents -/

/-- The number of lines is the number of the line that the end marker stands on. -/
theorem length_lines (d : Document) : d.lines.length =
    d.objectives.length + 2 + d.constraints.length + 1 +
      (linesBehind d.ending d.blocks).length := by
  unfold lines
  rw [List.length_cons, List.length_append, List.length_cons, List.length_append, List.length_map,
    List.length_map, declarationLines_eq, List.length_cons]
  omega

end Document

end LinearProgram.Written

/-
  Declared — the declarations of a document, apart from the sections that they stand in.

  1. **Declarations** — a line of the bounds section is one declaration, a line of the sections that
     list variables is one for each word. `Source.declarations?` are all of them, in order, up to the
     end marker.

  2. **Front** — the lines in front of the first section keyword register variables, and nothing is
     declared about them yet (`Progress.Fore`). What the reading of these lines leads to is all that
     the rest depends on (`Progress.Ready`).

  3. **Documents** — a document has a model exactly if its declarations can be performed one by one
     on the table that its front leads to, and the model can be assembled then
     (`Source.model_eq_ok_iff`). Sections have no part in it.
-/

import LinearProgram.Proofs.Document.Body
import LinearProgram.Proofs.Mention

namespace LinearProgram

open Cursor (Verdict)

/-! ## Declarations -/

/-- What is declared at once: a bound, or the kind of a variable. -/
inductive Declaration where
  | bound (line : Text)
  | listed (kind : Variable.Kind) (name : Text)
deriving DecidableEq

namespace Declaration

/-- The declarations on a line of a section. -/
def ofLine (s : Section) (text : Text) : List Declaration :=
  match Declarations.kind? s with
  | some k => text.words.map (.listed k)
  | none => [.bound text]

/-- The declarations on lines, the first of which stand in a section, up to the end marker. -/
def listFrom : Section → List Line → Option (List Declaration)
  | _, [] => none
  | s, l :: rest =>
    match Keyword.section? l.text with
    | some target => if target = .finish then some [] else listFrom target rest
    | none => (listFrom s rest).map (ofLine s l.text ++ ·)

/-- What becomes of a table. -/
def perform (table : Table) : Declaration → Except Cause Table
  | .bound line => (Bound.read table line).map (·.apply table)
  | .listed kind name =>
    if table.has name then .ok (table.update name fun c => { c with kind })
    else .error (.unknownVariable name)

theorem perform_kinds (kind : Variable.Kind) (names : List Text) (table : Table) :
    (names.map (.listed kind)).foldlM perform table =
      match Declarations.assign kind names table with
      | (table, none) => .ok table
      | (_, some cause) => .error cause := by
  induction names generalizing table with
  | nil => rfl
  | cons name names ih =>
    rw [List.map_cons, List.foldlM_cons, perform, Declarations.assign]
    split
    · exact ih _
    · rfl

end Declaration

/-- The lines in front of the first section keyword. -/
def Source.front (source : Source) : List Line := source.body.takeWhile (! ·.isSection)

/-- The declarations of a document, in order; `none` if there is no end marker. -/
def Source.declarations? (source : Source) : Option (List Declaration) :=
  Declaration.listFrom .bounds (source.body.dropWhile (! ·.isSection))

/-! ## Lines of declarations -/

namespace Progress

/-- A line that is no keyword declares, or something is wrong with it. -/
theorem step_declares {l : Line} (hne : l.text ≠ []) (h : Keyword.section? l.text = none)
    (d : Draft) :
    (∃ table, (Declaration.ofLine d.stage l.text).foldlM Declaration.perform d.table = .ok table ∧
        (declarations d).step l = .declarations { d with table }) ∨
      ∃ cause fault, (Declaration.ofLine d.stage l.text).foldlM Declaration.perform d.table =
          .error cause ∧ (declarations d).step l = .ended (.error fault) := by
  have hstep : (declarations d).step l =
      ofDeclarations l.number (Declarations.line l.number l.text d).verdict := by
    rw [← Declarations.verdict_step hne]
    rfl
  rw [hstep]
  unfold Declarations.line Declaration.ofLine
  rw [h]
  dsimp only
  cases hkind : Declarations.kind? d.stage with
  | some kind =>
    dsimp only
    rw [Declaration.perform_kinds]
    unfold Declarations.listed
    rcases Declarations.assign kind l.text.words d.table with ⟨table, cause?⟩
    cases cause? with
    | none => exact Or.inl ⟨table, rfl, rfl⟩
    | some cause => exact Or.inr ⟨cause, _, rfl, rfl⟩
  | none =>
    dsimp only
    rw [List.foldlM_cons, Declaration.perform]
    unfold Declarations.bound
    cases Bound.read d.table l.text with
    | ok b => exact Or.inl ⟨_, rfl, rfl⟩
    | error cause => exact Or.inr ⟨cause, _, rfl, rfl⟩

/-- A section keyword among declarations. -/
theorem step_keyword {l : Line} {target : Section} (h : Keyword.section? l.text = some target)
    (d : Draft) : (declarations d).step l = behindKeyword l.number (d.switch target) := by
  show ofDeclarations l.number (Declarations.step l.number l.text d).verdict = _
  rw [Declarations.verdict_step (Line.text_ne_nil_of_section h)]
  unfold Declarations.line
  rw [h]
  rfl

/-- Behind the end marker there is a model if it can be assembled. -/
theorem run_behindKeyword_finish {n : Nat} {d : Draft} (h : d.stage = .finish) {ls : List Line}
    {m : Model} : run (behindKeyword n d) ls = .ended (.ok m) ↔ Session.modelOf d = .ok m := by
  unfold behindKeyword
  rw [if_pos h]
  cases Session.modelOf d with
  | ok m' =>
    dsimp only
    rw [run_ended]
    constructor
    · intro h
      cases h
      rfl
    · intro h
      cases h
      rfl
  | error cause => exact ⟨fun h => absurd h run_failed_ne, fun h => nomatch h⟩

/-- **Declarations lead to a model** if they can be performed and it can be assembled. -/
theorem run_declarations {d : Draft} {ls : List Line} (hls : ∀ l ∈ ls, l.text ≠ []) {m : Model} :
    run (.declarations d) ls = .ended (.ok m) ↔
      ∃ ds table, Declaration.listFrom d.stage ls = some ds ∧
        ds.foldlM Declaration.perform d.table = .ok table ∧
        Session.modelOf { d with table } = .ok m := by
  induction ls generalizing d with
  | nil =>
    constructor
    · exact fun h => nomatch h
    · rintro ⟨ds, table, h, -⟩
      cases h
  | cons l ls ih =>
    have hne := hls l List.mem_cons_self
    have hrest := fun d => ih (d := d) fun l' hl' => hls l' (List.mem_cons_of_mem l hl')
    rw [run_cons, Declaration.listFrom]
    cases hsection : Keyword.section? l.text with
    | some target =>
      rw [step_keyword hsection]
      dsimp only
      by_cases hfinish : target = .finish
      · rw [run_behindKeyword_finish hfinish, if_pos hfinish]
        constructor
        · exact fun h => ⟨[], d.table, rfl, rfl, h⟩
        · rintro ⟨ds, table, hds, htable, h⟩
          cases hds
          cases htable
          exact h
      · have hbehind : behindKeyword l.number (d.switch target) =
            .declarations (d.switch target) := if_neg hfinish
        rw [hbehind, if_neg hfinish]
        exact hrest (d.switch target)
    | none =>
      dsimp only
      rcases step_declares hne hsection d with
        ⟨table, hperform, hstep⟩ | ⟨cause, fault, hperform, hstep⟩
      · rw [hstep, hrest]
        constructor
        · rintro ⟨ds, table', hds, htable', h⟩
          rw [show ({ d with table } : Draft).stage = d.stage from rfl] at hds
          refine ⟨Declaration.ofLine d.stage l.text ++ ds, table', ?_, ?_, h⟩
          · rw [hds]
            rfl
          · rw [List.foldlM_append, hperform]
            exact htable'
        · rintro ⟨ds, table', hds, htable', h⟩
          obtain ⟨ds', hds', rfl⟩ := Option.map_eq_some_iff.mp hds
          rw [List.foldlM_append, hperform] at htable'
          exact ⟨ds', table', hds', htable', h⟩
      · rw [hstep, run_ended]
        constructor
        · exact fun h => nomatch h
        · rintro ⟨ds, table', hds, htable', -⟩
          obtain ⟨ds', -, rfl⟩ := Option.map_eq_some_iff.mp hds
          rw [List.foldlM_append, hperform] at htable'
          cases htable'

/-! ## Front -/

/-- Among the objectives or the constraints, where nothing has been declared about the variables;
    or behind a fault. -/
inductive Fore : Progress → Prop where
  | objectives (s : Objectives.State) (names : List Text) (h : s.draft.table = .fresh names) :
      Fore (.objectives s)
  | constraints (s : Constraints.State) (names : List Text) (h : s.draft.table = .fresh names) :
      Fore (.constraints s)
  | failed (fault : Fault) : Fore (.ended (.error fault))

theorem Fore.mention {d : Draft} {names : List Text} (h : d.table = .fresh names)
    (terms : List Term) : ∃ names', (d.mention terms).table = .fresh names' := by
  unfold Draft.mention
  dsimp only
  rw [h, Table.registerAll_fresh]
  exact ⟨_, rfl⟩

theorem Fore.ofConstraints {n : Nat} {text : Text} {s : Constraints.State}
    {v : Verdict Constraints.State Unit} (hsection : Keyword.section? text = none)
    {names : List Text} (h : s.draft.table = .fresh names) (hv : Constraints.Effect n text s v) :
    Fore (Progress.ofConstraints n v) := by
  cases hv with
  | blank _ => exact .constraints s names h
  | keyword target ht _ =>
    rw [hsection] at ht
    cases ht
  | unfinished _ _ => exact .failed _
  | misnamed _ _ => exact .failed _
  | enters s' he =>
    refine .constraints s' names ?_
    rw [← h]
    cases he <;> rfl
  | contributes body s' v he hv =>
    have hs' : s'.draft.table = .fresh names := by
      rw [← h]
      cases he <;> rfl
    cases hv with
    | adds lhs terms _ _ =>
      obtain ⟨names', hnames'⟩ := mention hs' terms
      exact .constraints _ names' hnames'
    | closes c d relation rhs said _ hc finished _ =>
      rcases hc with ⟨-, -, rfl⟩ | ⟨_, terms, -, -, -, rfl⟩
      · exact .constraints _ names hs'
      · obtain ⟨names', hnames'⟩ := mention hs' terms
        exact .constraints _ names' hnames'
    | _ => exact .failed _

theorem Draft.complete_table (d : Draft) : (Objectives.complete d).table = d.table := by
  unfold Objectives.complete
  split <;> rfl

theorem Fore.ofObjectives {n : Nat} {text : Text} {s : Objectives.State}
    {v : Verdict Objectives.State (Option Text)} (hsection : Keyword.section? text = none)
    {names : List Text} (h : s.draft.table = .fresh names) (hv : Objectives.Effect n text s v) :
    Fore (Progress.ofObjectives n v) := by
  have hnamed : ∀ name?, (s.named name?).draft.table = .fresh names := by
    intro name?
    rw [← h]
    cases name? <;> rfl
  have hopened : ∀ name?, (s.named name?).opened.draft.table = .fresh names := by
    intro name?
    rw [← hnamed name?]
    unfold Objectives.State.opened
    split <;> rfl
  have hcomplete : (Objectives.complete (s.draft.switch .constraints)).table = .fresh names := by
    rw [Draft.complete_table]
    exact h
  have hbehind : ∀ pending, (∀ text', pending = some text' → text' = text) →
      Fore (behindObjectives n (Objectives.complete (s.draft.switch .constraints)) pending) := by
    intro pending hpending
    unfold behindObjectives
    have hstage : (Objectives.complete (s.draft.switch .constraints)).stage = .constraints :=
      Objectives.complete_stage _
    rw [if_pos hstage]
    cases pending with
    | none => exact .constraints _ names hcomplete
    | some text' =>
      rw [hpending text' rfl]
      exact ofConstraints hsection hcomplete (Constraints.line_effect n text _)
  cases hv with
  | blank _ => exact .objectives s names h
  | keyword target ht =>
    rcases ht with ⟨-, rfl⟩ | ht
    · exact hbehind none fun _ h => nomatch h
    · rw [hsection] at ht
      cases ht
  | implicit _ => exact hbehind (some text) fun _ h => (Option.some.inj h).symm
  | misnamed _ _ => exact .failed _
  | named name? _ => exact .objectives _ names (hnamed name?)
  | adds name? body terms _ _ =>
    obtain ⟨names', hnames'⟩ := mention (hopened name?) terms
    refine .objectives _ names' ?_
    rw [← hnames']
    unfold Objectives.State.extended Draft.mergeLast
    dsimp only
    split <;> rfl
  | breaksOff _ _ _ _ _ _ => exact .failed _

/-- **Lines in front of the first section keyword** declare nothing. -/
theorem Fore.run {p : Progress} (h : p.Fore) {ls : List Line}
    (hls : ∀ l ∈ ls, l.isSection = false) : (p.run ls).Fore := by
  induction ls generalizing p with
  | nil => exact h
  | cons l ls ih =>
    have hsection : Keyword.section? l.text = none := by
      have hl := hls l List.mem_cons_self
      unfold Line.isSection at hl
      exact Option.isSome_eq_false_iff.mp hl |> Option.isNone_iff_eq_none.mp
    refine ih ?_ fun l' hl' => hls l' (List.mem_cons_of_mem l hl')
    cases h with
    | objectives s names h => exact ofObjectives hsection h (Objectives.step_effect _ _ s)
    | constraints s names h => exact ofConstraints hsection h (Constraints.step_effect _ _ s)
    | failed fault => exact .failed fault

/-- Where a section keyword may follow, and what has been read then. -/
structure Ready (p : Progress) (d : Draft) : Prop where
  table : ∃ names, d.table = .fresh names
  step : ∀ {l target}, Keyword.section? l.text = some target →
    p.step l = behindKeyword l.number (d.switch target)

/-- In front of a section keyword that leads to a model everything is ready for it. -/
theorem Fore.ready {p : Progress} (h : p.Fore) {l : Line} {target : Section}
    (hl : Keyword.section? l.text = some target) {ls : List Line} {m : Model}
    (hrun : (p.step l).run ls = .ended (.ok m)) : ∃ d, p.Ready d := by
  cases h with
  | objectives s names h =>
    refine ⟨Objectives.complete s.draft, ⟨names, ?_⟩, ?_⟩
    · rw [Draft.complete_table, h]
    · intro l target hl
      rw [step_objectives_section hl, Objectives.complete_switch]
  | constraints s names h =>
    cases hcurrent : s.current with
    | some c =>
      rw [step_constraints_section hl, hcurrent] at hrun
      exact absurd hrun run_failed_ne
    | none =>
      refine ⟨s.draft, ⟨names, h⟩, ?_⟩
      intro l target hl
      rw [step_constraints_section hl, hcurrent]
  | failed fault =>
    rw [show (Progress.ended (.error fault)).step l = .ended (.error fault) from rfl,
      run_ended] at hrun
    cases hrun

/-- What is behind the first section keyword leads to a model. -/
theorem Ready.run {p : Progress} {d : Draft} (h : p.Ready d) {stop : Line} {rest : List Line}
    (hstop : stop.isSection = true) (hrest : ∀ l ∈ rest, l.text ≠ []) {m : Model} :
    p.run (stop :: rest) = .ended (.ok m) ↔
      ∃ ds table, Declaration.listFrom .bounds (stop :: rest) = some ds ∧
        ds.foldlM Declaration.perform d.table = .ok table ∧
        Session.modelOf { d with table } = .ok m := by
  obtain ⟨target, htarget⟩ := Option.isSome_iff_exists.mp hstop
  have hls : ∀ l ∈ stop :: rest, l.text ≠ [] := by
    intro l hl
    rcases List.mem_cons.mp hl with rfl | hl
    · exact Line.text_ne_nil_of_section htarget
    · exact hrest l hl
  -- a keyword leads on from declarations as it does from here
  have hlist : Declaration.listFrom .bounds (stop :: rest) =
      Declaration.listFrom d.stage (stop :: rest) := by
    rw [Declaration.listFrom, Declaration.listFrom, htarget]
  rw [run_cons, h.step htarget, ← step_keyword htarget, ← run_cons, run_declarations hls, hlist]

end Progress

/-! ## Documents -/

/-- How far the reading has come in front of the first section keyword. -/
def Source.fore (direction : Direction) (front : List Line) : Progress :=
  Progress.run (.objectives { draft := Session.directed direction }) front

/-- **A document has a model** exactly if its declarations can be performed on what its front leads
    to, and the model can be assembled. -/
theorem Source.model_eq_ok_iff {source : Source} {m : Model} :
    source.model = .ok m ↔
      ∃ direction d ds table, source.direction? = some direction ∧
        (fore direction source.front).Ready d ∧ source.declarations? = some ds ∧
        ds.foldlM Declaration.perform d.table = .ok table ∧
        Session.modelOf { d with table } = .ok m := by
  have hbody : source.body = source.front ++ source.body.dropWhile (! ·.isSection) :=
    List.takeWhile_append_dropWhile.symm
  have hne : ∀ l ∈ source.body.dropWhile (! ·.isSection), l.text ≠ [] := fun l hl =>
    text_ne_nil_of_mem_body (List.dropWhile_subset _ hl)
  have hhead := List.head?_dropWhile_not (fun l : Line => ! l.isSection) source.body
  unfold declarations?
  generalize source.body.dropWhile (! ·.isSection) = behind at hbody hne hhead
  constructor
  · intro h
    obtain ⟨direction, hdirection, hrun⟩ := run_body_of_model h
    rw [hbody, Progress.run_append] at hrun
    have hfore : (fore direction source.front).Fore := by
      refine Progress.Fore.run (.objectives _ [] rfl) fun l hl => ?_
      have hl' := List.all_eq_true.mp List.all_takeWhile l hl
      simpa using hl'
    change (fore direction source.front).run behind = _ at hrun
    cases behind with
    | nil =>
      -- without a keyword there is no end
      rw [show (fore direction source.front).run [] = fore direction source.front from rfl] at hrun
      rw [hrun] at hfore
      cases hfore
    | cons stop rest =>
      have hstop : stop.isSection = true := by simpa using hhead
      obtain ⟨target, htarget⟩ := Option.isSome_iff_exists.mp hstop
      obtain ⟨d, hready⟩ := hfore.ready htarget hrun
      obtain ⟨ds, table, hds, htable, hmodel⟩ :=
        (hready.run hstop fun l hl => hne l (List.mem_cons_of_mem stop hl)).mp hrun
      exact ⟨direction, d, ds, table, hdirection, hready, hds, htable, hmodel⟩
  · rintro ⟨direction, d, ds, table, hdirection, hready, hds, htable, hmodel⟩
    cases behind with
    | nil => cases hds
    | cons stop rest =>
      have hstop : stop.isSection = true := by simpa using hhead
      have hrun : (fore direction source.front).run (stop :: rest) = .ended (.ok m) :=
        (hready.run hstop fun l hl => hne l (List.mem_cons_of_mem stop hl)).mpr
          ⟨ds, table, hds, htable, hmodel⟩
      rw [model_eq_outcome, run_numbered hdirection, hbody, Progress.run_append]
      show Progress.outcome _ _ ((fore direction source.front).run (stop :: rest)) = _
      rw [hrun]
      rfl

end LinearProgram

/-
  Mentions — which variables a model has, and in which order.

  1. **Mentions** — a name is mentioned where an objective or a constraint has a coefficient for it;
     the mentions of a model are those of its objectives, then those of its constraints.

  2. **The invariant** — names are registered while an expression is read, before its terms are
     added to the objective or the constraint they belong to. Behind each line, however, the table
     lists what objectives, constraints and the open constraint mention, in the order of first
     mention. So no name is left over from a constraint that was never finished.

  3. **Models** — a model's variables are its mentions without the later duplicates, and each is
     found under its own name (`Source.variables_of_model`).
-/

import LinearProgram.Proofs.Document.Assembly
import LinearProgram.Proofs.Document.Course
import LinearProgram.Proofs.Mention

namespace LinearProgram

open Mention (collect)

/-! ## Mentions -/

/-- The names that objectives and constraints mention. -/
def mentionsOf (objectives : List Objective) (constraints : List Constraint) : List Text :=
  (objectives.flatMap fun o => o.coefficients.names) ++
    constraints.flatMap fun c => c.coefficients.names

/-- The names that a model mentions, as often as it does. -/
def Model.mentions (m : Model) : List Text := mentionsOf m.objectives m.constraints

/-- The names that a draft mentions, as often as it does. -/
def Draft.mentions (d : Draft) : List Text := mentionsOf d.objectives d.constraints

/-- The names that the open constraint mentions. -/
def Constraints.State.openMentions (s : State) : List Text :=
  match s.current with
  | none => []
  | some c => c.coefficients.names

/-! ## Objectives -/

/-- An objective that is opened mentions nothing yet. -/
theorem Draft.mentions_openObjective {d : Draft} (name : Text) (h : d.constraints = []) :
    (d.openObjective name).mentions = d.mentions := by
  simp [mentions, mentionsOf, openObjective, h, Coefficients.names]

namespace Objectives

/-- The table lists what the objectives mention; there are no constraints yet, and an objective
    where one is open. -/
structure State.Lists (s : State) : Prop where
  table : s.draft.table.names = collect [] s.draft.mentions
  constraints : s.draft.constraints = []
  objectives : s.isOpen = true → s.draft.objectives ≠ []

theorem State.Lists.openObjective {s : State} (h : s.Lists) (name : Text) :
    State.Lists { draft := s.draft.openObjective name, isOpen := true } where
  table := by
    rw [Draft.mentions_openObjective name h.constraints]
    exact h.table
  constraints := h.constraints
  objectives _ := List.append_ne_nil_of_right_ne_nil _ (List.cons_ne_nil _ _)

theorem State.Lists.named {s : State} (h : s.Lists) (name? : Option Text) :
    (s.named name?).Lists := by
  cases name? with
  | none => exact h
  | some name => exact h.openObjective name

theorem State.Lists.opened {s : State} (h : s.Lists) : s.opened.Lists ∧ s.opened.isOpen = true := by
  unfold State.opened
  split
  · next hopen => exact ⟨h, hopen⟩
  · exact ⟨h.openObjective _, rfl⟩

/-- Terms are registered and added to the last objective, so that they stand behind all mentions
    in both. -/
theorem State.Lists.extended {s : State} (h : s.Lists) (hopen : s.isOpen = true)
    (terms : List Term) : (s.extended terms).Lists := by
  have hne := h.objectives hopen
  have hlast : s.draft.objectives.getLast? = some (s.draft.objectives.getLast hne) :=
    List.getLast?_eq_some_getLast hne
  have hsplit := List.dropLast_concat_getLast hne
  generalize s.draft.objectives.getLast hne = o at hlast hsplit
  have hdraft : (s.draft.mention terms).mergeLast (.ofTerms terms) =
      { s.draft.mention terms with
        objectives := s.draft.objectives.dropLast ++ [o.merge (.ofTerms terms)] } := by
    unfold Draft.mergeLast
    rw [show (s.draft.mention terms).objectives.getLast? = some o from hlast]
    rfl
  unfold State.extended
  rw [hdraft]
  refine ⟨?_, h.constraints, fun _ => List.append_ne_nil_of_right_ne_nil _ (List.cons_ne_nil _ _)⟩
  show (s.draft.table.registerAll (terms.map Term.name)).names =
    collect [] (mentionsOf (s.draft.objectives.dropLast ++ [o.merge (.ofTerms terms)])
      s.draft.constraints)
  have hmentions : s.draft.mentions =
      (s.draft.objectives.dropLast.flatMap fun o => o.coefficients.names) ++
        o.coefficients.names := by
    unfold Draft.mentions mentionsOf
    rw [h.constraints, ← hsplit]
    simp
  have hextended : mentionsOf (s.draft.objectives.dropLast ++ [o.merge (.ofTerms terms)]) [] =
      (s.draft.objectives.dropLast.flatMap fun o => o.coefficients.names) ++
        collect o.coefficients.names (terms.map Term.name) := by
    rw [← Coefficients.names_merge_ofTerms]
    simp [mentionsOf, Objective.merge]
  rw [Table.names_registerAll, h.table, hmentions, h.constraints, hextended,
    Mention.collect_append_collect, Mention.collect_append [] _ (terms.map Term.name)]

/-- **The objective section keeps the table in step with what is mentioned.** -/
theorem State.Lists.effect {n : Nat} {text : Text} {s : State}
    {v : Cursor.Verdict State (Option Text)} (h : s.Lists) (hv : Effect n text s v) :
    v.Leads State.Lists (fun s _ => s.Lists) (fun _ _ => True) := by
  cases hv with
  | blank _ => exact h
  | keyword target _ => exact ⟨h.table, h.constraints, h.objectives⟩
  | implicit _ => exact ⟨h.table, h.constraints, h.objectives⟩
  | named name? _ => exact h.named name?
  | adds name? body terms _ _ =>
    obtain ⟨hs, hopen⟩ := (h.named name?).opened
    exact hs.extended hopen terms
  | _ => trivial

/-- Behind the section an objective without terms may be added, which mentions nothing. -/
theorem State.Lists.complete {s : State} (h : s.Lists) :
    (complete s.draft).table.names = collect [] (complete s.draft).mentions ∧
      (complete s.draft).constraints = [] := by
  unfold Objectives.complete
  split
  · exact ⟨(h.openObjective _).table, h.constraints⟩
  · exact ⟨h.table, h.constraints⟩

end Objectives

/-! ## Constraints -/

namespace Constraints

/-- The table lists what the draft and then the open constraint mention. -/
def State.Lists (s : State) : Prop :=
  s.draft.table.names = collect [] (s.draft.mentions ++ s.openMentions)

theorem State.Lists.enters {n : Nat} {text body : Text} {s s' : State} (h : s.Lists)
    (he : Enters n text s body s') : s'.Lists := by
  cases he with
  | unnamed _ _ => exact h
  | named name _ _ hcurrent =>
    unfold State.Lists State.openMentions at h ⊢
    rw [hcurrent] at h
    exact h

/-- Terms are registered and added to the open constraint, so that they stand behind all mentions
    in both. -/
theorem State.Lists.extended {s : State} (h : s.Lists) (n : Nat) (terms : List Term) :
    (s.draft.mention terms).table.names =
      collect [] (s.draft.mentions ++ ((s.target n).merge (.ofTerms terms)).coefficients.names) := by
  have htarget : (s.target n).coefficients.names = s.openMentions := by
    unfold State.target State.openMentions
    cases s.current <;> rfl
  show (s.draft.table.registerAll (terms.map Term.name)).names =
    collect [] (s.draft.mentions ++
      ((s.target n).coefficients.merge (Coefficients.ofTerms terms)).names)
  rw [Table.names_registerAll, show s.draft.table.names = _ from h,
    Coefficients.names_merge_ofTerms, Mention.collect_append_collect, htarget,
    Mention.collect_append [] _ (terms.map Term.name)]

/-- A constraint that is closed mentions what it mentioned when it was open. -/
theorem mentions_addConstraint (d : Draft) {c : Constraint.Open} {relation : Relation}
    {rhs : Float} {finished : Constraint} (hclose : c.close relation rhs = .ok finished) :
    (d.addConstraint finished).mentions = d.mentions ++ c.coefficients.names := by
  have hcoefficients : finished.coefficients = c.coefficients := by
    unfold Constraint.Open.close at hclose
    split at hclose
    · cases hclose
    · split at hclose
      · cases hclose
      · split at hclose
        · cases hclose
        · cases hclose
          rfl
  rw [← hcoefficients]
  simp [Draft.mentions, mentionsOf, Draft.addConstraint]

/-- The variables of an expression are mentioned and registered at once, also where the line closes
    the constraint. -/
theorem State.Lists.contributes {n : Nat} {text body : Text} {s : State}
    {v : Cursor.Verdict State Unit} (h : s.Lists) (hv : Contributes n text body s v) :
    v.Leads State.Lists (fun _ _ => False) (fun _ _ => True) := by
  cases hv with
  | adds lhs terms _ _ => exact h.extended n terms
  | closes c d relation rhs said _ hc finished hclose =>
    show (d.addConstraint finished).table.names =
      collect [] ((d.addConstraint finished).mentions ++ [])
    rw [List.append_nil, mentions_addConstraint d hclose]
    rcases hc with ⟨-, hcurrent, rfl⟩ | ⟨lhs, terms, -, -, rfl, rfl⟩
    · unfold State.Lists State.openMentions at h
      rw [hcurrent] at h
      exact h
    · exact h.extended n terms
  | _ => trivial

theorem State.Lists.effect {n : Nat} {text : Text} {s : State} {v : Cursor.Verdict State Unit}
    (h : s.Lists) (hv : Effect n text s v) :
    v.Leads State.Lists (fun s _ => s.draft.table.names = collect [] s.draft.mentions)
      (fun _ _ => True) := by
  cases hv with
  | blank _ => exact h
  | keyword target _ hcurrent =>
    show s.draft.table.names = collect [] s.draft.mentions
    unfold State.Lists State.openMentions at h
    rw [hcurrent, List.append_nil] at h
    exact h
  | enters s' he => exact h.enters he
  | contributes body s' v he hv =>
    exact ((h.enters he).contributes hv).mono (fun _ hs => hs) (fun _ _ h => h.elim)
      fun _ _ h => h
  | _ => trivial

end Constraints

/-! ## Declarations -/

/-- A list registers no names. -/
theorem Declarations.names_assign {kind : Variable.Kind} {names : List Text}
    {table table' : Table} {cause? : Option Cause}
    (h : assign kind names table = (table', cause?)) : table'.names = table.names := by
  induction names generalizing table with
  | nil =>
    cases h
    rfl
  | cons name names ih =>
    unfold assign at h
    split at h
    · exact (ih h).trans (Table.names_update table name fun _ => rfl)
    · cases h
      rfl

/-- **Declarations add no variable and keep the order.** -/
theorem Declarations.lists_effect {n : Nat} {text : Text} {d : Draft}
    {v : Cursor.Verdict Draft Unit} (h : d.table.names = collect [] d.mentions)
    (hv : Effect n text d v) :
    v.Leads (fun d => d.table.names = collect [] d.mentions)
      (fun d _ => d.table.names = collect [] d.mentions) (fun _ _ => True) := by
  cases hv with
  | blank _ => exact h
  | keyword target _ => exact h
  | lists kind table _ hassign => exact (names_assign hassign).trans h
  | bounds b _ _ => exact (b.names_apply d.table).trans h
  | _ => trivial

/-! ## The invariant -/

/-- The table lists the mentions. Of faults nothing is asked. -/
def Invariant.lists : Invariant where
  objectives _ s := s.Lists
  constraints _ s := s.Lists
  declarations _ d := d.table.names = collect [] d.mentions
  fault _ _ := True

/-- **That the table lists what is mentioned is an invariant of reading.** -/
theorem Invariant.lists_kept (source : Source) : lists.Kept source where
  ending _ := trivial
  undirected _ _ := trivial
  start _ _ _ := ⟨rfl, rfl, fun h => nomatch h⟩
  objective h _ hv := h.effect hv
  constrained := by
    intro m n s h _
    show (Objectives.complete s.draft).table.names =
      collect [] ((Objectives.complete s.draft).mentions ++ [])
    rw [List.append_nil]
    exact h.complete.1
  declared _ _ h := h.complete.1
  constraint h _ hv := h.effect hv
  declaration h _ hv := Declarations.lists_effect h hv
  assembly _ _ _ _ _ _ := trivial

/-! ## Models -/

/-- In a list of variables of different names each one is found under its name. -/
theorem Model.variableNamed?_of_nodup {m : Model} (h : (m.vars.map Variable.name).Nodup)
    {v : Variable} (hv : v ∈ m.vars) : m.variableNamed? v.name = some v := by
  unfold variableNamed?
  generalize m.vars = vars at h hv
  induction vars with
  | nil => exact absurd hv List.not_mem_nil
  | cons w vars ih =>
    rw [List.map_cons, List.nodup_cons] at h
    rcases List.mem_cons.mp hv with rfl | hv
    · exact List.find?_cons_of_pos (by simp)
    · have hne : w.name ≠ v.name := fun h' => h.1 (h' ▸ List.mem_map_of_mem hv)
      rw [List.find?_cons_of_neg (by simpa using hne)]
      exact ih h.2 hv

/-- **The variables of a model are its mentions**, in the order of first mention. They have
    different names, and each is found under its own. -/
theorem Source.variables_of_model {source : Source} {m : Model} (h : source.model = .ok m) :
    m.vars.map Variable.name = m.mentions.eraseDups ∧
      (m.vars.map Variable.name).Nodup ∧
      (∀ name, (∃ v ∈ m.vars, v.name = name) ↔ name ∈ m.mentions) ∧
      ∀ v ∈ m.vars, m.variableNamed? v.name = some v := by
  have hparse := (Invariant.lists_kept source).parse
  unfold Session.Outcome.Leads at hparse
  rw [show (Session.parse source {}).result = .ok m from h] at hparse
  obtain ⟨-, hlists, hmodel⟩ := hparse
  obtain ⟨hobjectives, hconstraints, hvars⟩ := Session.modelOf_eq_ok hmodel
  have hnames : m.vars.map Variable.name = collect [] m.mentions := by
    rw [Session.map_of_checkAll (fun _ _ hc => Column.name_of_finish hc) hvars]
    unfold Model.mentions
    rw [hobjectives, hconstraints]
    exact hlists
  have hnodup : (m.vars.map Variable.name).Nodup := by
    rw [hnames]
    exact Mention.nodup_collect List.nodup_nil _
  refine ⟨?_, hnodup, ?_, fun v hv => Model.variableNamed?_of_nodup hnodup hv⟩
  · rw [hnames, Mention.collect_nil]
  · intro name
    rw [← List.mem_map, hnames, Mention.mem_collect]
    simp

/-- The constraint mentions `y` before `x`, which the objective has mentioned, and `z` behind. -/
theorem Source.variables_of_model_inOrder :
    ∃ m, (Source.ofText "min\nx\nst\ny + x - z >= 1\nbounds\nz free\nend".toList).model = .ok m ∧
      m.vars.map Variable.name = ["x".toList, "y".toList, "z".toList] ∧
      m.mentions.eraseDups = ["x".toList, "y".toList, "z".toList] := by
  have hmodel :
      (Source.ofText "min\nx\nst\ny + x - z >= 1\nbounds\nz free\nend".toList).model = .ok
        { objectives := [⟨"obj".toList, .minimize, [("x".toList, 1.0)]⟩]
          constraints :=
            [⟨"R1".toList, 4, [("y".toList, 1.0), ("x".toList, 1.0), ("z".toList, -1.0)], .ge, 1.0⟩]
          vars := [⟨"x".toList, 0.0, Quantity.infinity, .continuous⟩,
            ⟨"y".toList, 0.0, Quantity.infinity, .continuous⟩,
            ⟨"z".toList, -Quantity.infinity, Quantity.infinity, .continuous⟩] } :=
    model_eq_ok_of_toOption (by decide +kernel)
  exact ⟨_, hmodel, rfl, (variables_of_model hmodel).1.symm⟩

end LinearProgram

/-
  Assembly — what a finished model has from its draft.

  1. **Checks** — `checkAll` gives one answer for each member of a list, in order; what an answer
     has in common with its member, the answers have in common with the list (`map_of_checkAll`).
     The first member that is refused decides (`checkAll_eq`).

  2. **Models** — the model has the draft's objectives and constraints as they are, and a finished
     variable for each column (`modelOf_eq_ok`).
-/

import LinearProgram.Document.Session

namespace LinearProgram

/-! ## Checks -/

namespace Session

variable {α β γ : Type} {check : α → Except Cause β} {members : List α}

/-- What keeps a list from being checked is what keeps one of its members from it. -/
theorem mem_of_checkAll_error {cause : Cause} (h : checkAll check members = .error cause) :
    ∃ a ∈ members, check a = .error cause := by
  induction members with
  | nil => cases h
  | cons a rest ih =>
    unfold checkAll at h
    split at h
    · next ha =>
      cases h
      exact ⟨a, List.mem_cons_self, ha⟩
    · split at h
      · next hrest =>
        cases h
        obtain ⟨b, hb, hcheck⟩ := ih hrest
        exact ⟨b, List.mem_cons_of_mem a hb, hcheck⟩
      · cases h

theorem checkAll_cons_ok {a : α} {answers : List β}
    (h : checkAll check (a :: members) = .ok answers) :
    ∃ b bs, check a = .ok b ∧ checkAll check members = .ok bs ∧ answers = b :: bs := by
  unfold checkAll at h
  split at h
  · cases h
  · next b hb =>
    split at h
    · cases h
    · next bs hbs =>
      cases h
      exact ⟨b, bs, hb, hbs, rfl⟩

/-- Each answer is the answer for a member. -/
theorem mem_of_checkAll {answers : List β} (h : checkAll check members = .ok answers) :
    ∀ b ∈ answers, ∃ a ∈ members, check a = .ok b := by
  induction members generalizing answers with
  | nil =>
    cases h
    exact fun b hb => absurd hb List.not_mem_nil
  | cons a rest ih =>
    obtain ⟨b, bs, hb, hbs, rfl⟩ := checkAll_cons_ok h
    intro b' hb'
    rcases List.mem_cons.mp hb' with rfl | hb'
    · exact ⟨a, List.mem_cons_self, hb⟩
    · obtain ⟨a', ha', hcheck⟩ := ih hbs b' hb'
      exact ⟨a', List.mem_cons_of_mem a ha', hcheck⟩

/-- **What the check keeps of each member, it keeps of the list.** -/
theorem map_of_checkAll {f : α → γ} {g : β → γ} (hfg : ∀ a b, check a = .ok b → g b = f a)
    {answers : List β} (h : checkAll check members = .ok answers) :
    answers.map g = members.map f := by
  induction members generalizing answers with
  | nil =>
    cases h
    rfl
  | cons a rest ih =>
    obtain ⟨b, bs, hb, hbs, rfl⟩ := checkAll_cons_ok h
    rw [List.map_cons, List.map_cons, hfg a b hb, ih hbs]

/-- **The first member that is refused decides.** -/
theorem checkAll_eq {refused : α → Bool} {cause : α → Cause} {answer : α → β}
    (h : ∀ a ∈ members, check a = if refused a then .error (cause a) else .ok (answer a)) :
    checkAll check members =
      match members.find? refused with
      | some a => .error (cause a)
      | none => .ok (members.map answer) := by
  induction members with
  | nil => rfl
  | cons a rest ih =>
    have ha := h a List.mem_cons_self
    have hrest := ih fun b hb => h b (List.mem_cons_of_mem a hb)
    cases hr : refused a with
    | true =>
      rw [hr, if_pos rfl] at ha
      rw [checkAll, ha, List.find?_cons_of_pos hr]
    | false =>
      rw [hr, if_neg Bool.false_ne_true] at ha
      rw [checkAll, ha, hrest, List.find?_cons_of_neg (by rw [hr]; exact Bool.false_ne_true)]
      cases rest.find? refused <;> rfl

end Session

/-! ## Models -/

/-- The check of an objective gives the objective back. -/
theorem Objective.eq_of_check {o o' : Objective} (h : o.check = .ok o') : o' = o := by
  unfold check at h
  split at h
  · cases h
  · cases h
    rfl

/-- A finished constraint is the open one with its relation and its right-hand side. -/
theorem Constraint.Open.eq_of_close {c : Constraint.Open} {relation : Relation} {rhs : Float}
    {finished : Constraint} (h : c.close relation rhs = .ok finished) :
    finished = ⟨c.name, c.line.toNat, c.coefficients, relation, rhs⟩ ∧ 0 < c.line ∧
      c.coefficients ≠ [] := by
  unfold close at h
  split at h
  · cases h
  · split at h
    · cases h
    · next hline =>
      split at h
      · cases h
      · next hcoefficients =>
        cases h
        exact ⟨rfl, Int.not_le.mp hline, fun h0 => hcoefficients (List.isEmpty_iff.mpr h0)⟩

theorem Column.name_of_finish {c : Column} {v : Variable} (h : c.finish = .ok v) :
    v.name = c.name := by
  unfold finish at h
  split at h
  · cases h
  · split at h
    · cases h
    · cases h
      rfl

/-- **A model has the draft's objectives and constraints, and its columns finished.** -/
theorem Session.modelOf_eq_ok {d : Draft} {m : Model} (h : modelOf d = .ok m) :
    m.objectives = d.objectives ∧ m.constraints = d.constraints ∧
      checkAll Column.finish d.table = .ok m.vars := by
  unfold modelOf at h
  split at h
  · cases h
  · next objectives hobjectives =>
    split at h
    · cases h
    · next vars hvars =>
      cases h
      refine ⟨?_, rfl, hvars⟩
      have hmap : objectives.map id = d.objectives.map id :=
        map_of_checkAll (fun _ _ ho => Objective.eq_of_check ho) hobjectives
      rw [List.map_id, List.map_id] at hmap
      exact hmap

theorem Source.model_eq_ok_of_toOption {source : Source} {m : Model}
    (h : source.model.toOption = some m) : source.model = .ok m := by
  cases hm : source.model with
  | ok m' =>
    rw [hm] at h
    cases h
    rfl
  | error fault =>
    rw [hm] at h
    cases h

end LinearProgram

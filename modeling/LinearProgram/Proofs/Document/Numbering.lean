/-
  Numbering — the names of constraints that are given none.

  1. **Search** — `Draft.Search` asks number after number whether its name is taken, with no end in
     sight. It can only stop at the least number from its start on whose name is free.

  2. **Bound** — different numbers make different names, so of one number more than there are names
     one is free. Behind `n` constraints the search begins at `n + 1` and stops at `2 n + 1` at the
     latest (`Draft.exists_numbered`).

  3. **Constraints** — a constraint gets its name when it is opened, and enters the list when it is
     closed, lines later. In between no other constraint is opened, so the name is still free
     (`Source.default_names`).
-/

import LinearProgram.Proofs.Document.Grouping
import Mathlib.Data.List.Nodup
import Mathlib.Data.List.Perm.Subperm
import Mathlib.Order.Bounds.Defs

namespace LinearProgram

namespace Draft

/-! ## Search -/

/-- The search for a default name, from a number on: it goes on as long as the name is taken. -/
inductive Search (taken : List Text) : Nat → Nat → Prop where
  | stops {k : Nat} (h : numberedName k ∉ taken) : Search taken k k
  | goesOn {k last : Nat} (h : numberedName k ∈ taken) (rest : Search taken (k + 1) last) :
      Search taken k last

/-- The numbers from a position on whose names are free. -/
def free (taken : List Text) (position : Nat) : Set Nat :=
  { k | position ≤ k ∧ numberedName k ∉ taken }

section

variable {taken : List Text} {position k : Nat}

/-- The search stops at the least free number. -/
theorem Search.isLeast (h : Search taken position k) : IsLeast (free taken position) k := by
  induction h with
  | stops hfree => exact ⟨⟨Nat.le_refl _, hfree⟩, fun j hj => hj.1⟩
  | @goesOn k last htaken _ ih =>
    obtain ⟨⟨hle, hfree⟩, hleast⟩ := ih
    refine ⟨⟨Nat.le_of_succ_le hle, hfree⟩, ?_⟩
    rintro j ⟨hj, hjfree⟩
    -- a free number is not the one that was passed
    have hne : k ≠ j := by
      rintro rfl
      exact hjfree htaken
    exact hleast ⟨Nat.lt_of_le_of_ne hj hne, hjfree⟩

/-- The search passes numbers that are taken, and stops at one that is not. -/
theorem search_of_taken {passed : Nat}
    (htaken : ∀ j, position ≤ j → j < position + passed → numberedName j ∈ taken)
    (hfree : numberedName (position + passed) ∉ taken) :
    Search taken position (position + passed) := by
  induction passed generalizing position with
  | zero => exact .stops hfree
  | succ passed ih =>
    rw [← Nat.add_assoc, Nat.add_right_comm] at hfree ⊢
    refine .goesOn (htaken position (Nat.le_refl _) (by omega)) (ih ?_ hfree)
    intro j hj hlast
    exact htaken j (by omega) (by omega)

end

/-! ## Bound -/

/-- **One of the candidates is free**: there are more of them than names. -/
theorem exists_candidate (taken : List Text) :
    ∃ k ∈ List.range' (taken.length + 1) (taken.length + 1), numberedName k ∉ taken := by
  by_contra hnone
  have hsubset : (List.range' (taken.length + 1) (taken.length + 1)).map numberedName ⊆ taken := by
    intro name hname
    obtain ⟨k, hk, rfl⟩ := List.mem_map.mp hname
    by_contra hfree
    exact hnone ⟨k, hk, hfree⟩
  have hnodup := (List.nodup_range' (s := taken.length + 1) (n := taken.length + 1)).map
    fun _ _ => numberedName_injective
  have hlength := (List.subperm_of_subset hnodup hsubset).length_le
  rw [List.length_map, List.length_range'] at hlength
  exact Nat.not_succ_le_self _ hlength

/-- The number that a constraint gets behind constraints of these names: the one the search stops
    at, beginning with the position of the constraint. -/
structure Numbered (taken : List Text) (k : Nat) : Prop where
  search : Search taken (taken.length + 1) k
  least : IsLeast (free taken (taken.length + 1)) k
  bound : k ≤ 2 * (taken.length + 1) - 1

/-- **The search ends, and early.** The default name is the name of the number that it stops at. -/
theorem exists_numbered (taken : List Text) :
    ∃ k, Numbered taken k ∧ defaultConstraintName taken = numberedName k := by
  unfold defaultConstraintName
  dsimp only
  cases hfind : (List.range' (taken.length + 1) (taken.length + 1)).find?
      fun k => ! taken.contains (numberedName k) with
  | none =>
    obtain ⟨k, hk, hfree⟩ := exists_candidate taken
    have htaken := List.find?_eq_none.mp hfind k hk
    simp [hfree] at htaken
  | some k =>
    rw [List.find?_range'_eq_some] at hfind
    obtain ⟨hfree, hmem, hpassed⟩ := hfind
    rw [List.mem_range'_1] at hmem
    have hsearch : Search taken (taken.length + 1) k := by
      obtain ⟨passed, rfl⟩ := Nat.exists_eq_add_of_le hmem.1
      refine search_of_taken ?_ (by simpa using hfree)
      intro j hj hlast
      simpa using hpassed j hj hlast
    exact ⟨k, ⟨hsearch, hsearch.isLeast, by omega⟩, rfl⟩

end Draft

/-! ## Constraints -/

namespace Constraints

/-- A line opens a constraint and gives it no name: no constraint is open, and the line is not a
    keyword, has no name, and begins with an expression. -/
structure Opens (text : Text) (s : State) (said : ConstraintLine) : Prop where
  content : text ≠ []
  keyword : Keyword.section? text = none
  unnamed : ConstraintLine.splitName text = .ok (none, text)
  reads : ConstraintLine.read text = .ok said
  expression : ∀ relation rhs, said ≠ .comparison relation rhs
  closed : s.current = none

/-- The constraint that such a line opens has the default name. -/
theorem Opens.line_eq {text : Text} {s : State} {said : ConstraintLine} (h : Opens text s said)
    (number : Nat) :
    line number text s =
      contribute number s.draft { name := s.draft.nextConstraintName, line := number }
        (Event.ofConstraintLine text) said := by
  have hempty : text.isEmpty = false := by
    rw [← Bool.not_eq_true, List.isEmpty_iff]
    exact h.content
  have htarget : target? number s said =
      some { name := s.draft.nextConstraintName, line := number } := by
    unfold target?
    rw [h.closed]
    cases said with
    | comparison relation rhs => exact absurd rfl (h.expression relation rhs)
    | expression lhs => rfl
    | both lhs relation rhs => rfl
  unfold line
  rw [h.keyword, h.unnamed]
  dsimp only
  rw [hempty, if_neg Bool.false_ne_true]
  unfold addBody
  rw [h.reads]
  dsimp only
  rw [htarget]
  rfl

end Constraints

/-! ## Documents -/

section

variable {source : Source} {m : Model} {earlier later : List Constraint} {c : Constraint}

/-- A constraint of a model begins on a line of the constraints. This line gives it its name, or
    the constraint has the default name behind those in front. -/
theorem Source.begunBy_of_model (h : source.model = .ok m)
    (hm : m.constraints = earlier ++ c :: later) :
    ∃ l ∈ source.constraintLines, l.number = c.line ∧
      (l.name? = some c.name ∨
        l.Unnamed ∧ c.name = Draft.defaultConstraintName (earlier.map Constraint.name)) := by
  obtain ⟨course⟩ := course_of_model h
  obtain ⟨groups, hflatten, hgrouped⟩ := course.exists_grouped
  rw [hm] at hgrouped
  obtain ⟨group, hgroup, hstated⟩ := hgrouped.exists_group
  obtain ⟨l, ⟨rest, rfl, -⟩, hnumber, hname⟩ := hstated.begins
  refine ⟨l, ?_, (Int.ofNat.inj hnumber).symm, hname⟩
  rw [← hflatten]
  exact List.mem_flatten.mpr ⟨l :: rest, hgroup, List.mem_cons_self⟩

/-- A line of a constraint is told by its number. -/
theorem Source.eq_of_number_eq {l l' : Line} (h : l ∈ source.constraintLines)
    (h' : l' ∈ source.constraintLines) (hnumber : l.number = l'.number) : l = l' := by
  have hdistinct : (source.constraintLines.map Line.number).Nodup :=
    List.pairwise_map.mpr
      ((source.pairwise_body.sublist source.constraintLines_sublist).imp Nat.ne_of_lt)
  exact List.inj_on_of_nodup_map hdistinct h h' hnumber

end

/-- **A constraint without a name gets the first number that is free**, from its position on. The
    search for it ends, wherever the constraint is opened. In a document that has a model no
    constraint in front of it has the same name. -/
theorem Source.default_names :
    (∀ (number : Nat) (text : Text) (s : Constraints.State) (said : ConstraintLine),
      Constraints.Opens text s said →
        ∃ k, Draft.Numbered (s.draft.constraints.map Constraint.name) k ∧
          Constraints.line number text s =
            Constraints.contribute number s.draft
              { name := Draft.numberedName k, line := number }
              (Event.ofConstraintLine text) said) ∧
      ∀ (source : Source) (m : Model), source.model = .ok m →
        ∀ (earlier : List Constraint) (c : Constraint) (later : List Constraint),
          m.constraints = earlier ++ c :: later →
            (∃ l ∈ source.constraintLines, l.number = c.line) ∧
              ∀ l ∈ source.constraintLines, l.number = c.line → l.Unnamed →
                c.name ∉ earlier.map Constraint.name ∧
                  ∃ k, Draft.Numbered (earlier.map Constraint.name) k ∧
                    c.name = Draft.numberedName k := by
  constructor
  · intro number text s said hopens
    obtain ⟨k, hk, hname⟩ := Draft.exists_numbered (s.draft.constraints.map Constraint.name)
    refine ⟨k, hk, ?_⟩
    rw [hopens.line_eq, Draft.nextConstraintName, hname]
  · intro source m h earlier c later hm
    obtain ⟨first, hfirst, hnumber, hname⟩ := begunBy_of_model h hm
    refine ⟨⟨first, hfirst, hnumber⟩, ?_⟩
    intro l hl hline hunnamed
    obtain rfl := eq_of_number_eq hl hfirst (hline.trans hnumber.symm)
    have hdefault : c.name = Draft.defaultConstraintName (earlier.map Constraint.name) := by
      rcases hname with hname | ⟨-, hdefault⟩
      · rw [hunnamed.name?_eq] at hname
        cases hname
      · exact hdefault
    obtain ⟨k, hk, hnumbered⟩ := Draft.exists_numbered (earlier.map Constraint.name)
    rw [hdefault, hnumbered]
    exact ⟨hk.least.1.2, k, hk, rfl⟩

/-- Behind a constraint that is called `R2` the second one becomes `R3`. -/
theorem Source.default_names_behind_R2 :
    let source := Source.ofText "max\nobj: x\nst\nR2: x <= 1\nx >= 0\nend".toList
    let first : Constraint := ⟨"R2".toList, 4, [("x".toList, 1.0)], .le, 1.0⟩
    let second : Constraint := ⟨"R3".toList, 5, [("x".toList, 1.0)], .ge, 0.0⟩
    let s : Constraints.State := { draft := { constraints := [first] } }
    (∃ k, Draft.Numbered ["R2".toList] k ∧
      Constraints.line 5 "x >= 0".toList s =
        Constraints.contribute 5 s.draft { name := Draft.numberedName k, line := 5 }
          (Event.ofConstraintLine "x >= 0".toList) (.both "x".toList .ge 0.0)) ∧
      ∃ m, source.model = .ok m ∧ m.constraints = [first] ++ second :: [] ∧
        second.name ∉ [first].map Constraint.name ∧
          ∃ k, Draft.Numbered ["R2".toList] k ∧ second.name = Draft.numberedName k := by
  intro source first second s
  have hopens : Constraints.Opens "x >= 0".toList s (.both "x".toList .ge 0.0) :=
    ⟨by decide, by decide, by rfl, by decide +kernel, fun _ _ => nofun, rfl⟩
  refine ⟨default_names.1 5 _ s _ hopens, ?_⟩
  have hmodel : source.model = .ok
      { objectives := [⟨"obj".toList, .maximize, [("x".toList, 1.0)]⟩]
        constraints := [first, second]
        vars := [⟨"x".toList, 0.0, Quantity.infinity, .continuous⟩] } :=
    model_eq_ok_of_toOption (by decide +kernel)
  obtain ⟨-, hsecond⟩ := default_names.2 source _ hmodel [first] second [] rfl
  exact ⟨_, hmodel, rfl, hsecond ⟨5, "x >= 0".toList⟩ (by decide +kernel) rfl (by rfl)⟩

end LinearProgram

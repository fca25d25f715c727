/-
  MovedDown — a line more, and everything below it one line further down.

  1. **Renumbering** — if a line is inserted behind the first `k` lines, the numbers up to `k` stay
     and the others become one larger. What was read of the first `k` lines has no number beyond `k`
     and stays as it is (`Progress.behind_below`): it is a run over lines whose numbers stay.

  2. **Documents** — two documents that are read alike up to some line, but for one line more in the
     second, are read alike to their ends (`Source.model_below`).

  3. **The line of the direction** — what stands behind the direction might as well stand on a line
     of its own (`Progress.step_behind_direction`).

  4. **The keyword of the constraints** — in front of a line with a relational character it might as
     well be missing (`Progress.step_keyword_of_occursIn`).
-/

import LinearProgram.Proofs.Document.Located
import LinearProgram.Proofs.Document.Restyled
import LinearProgram.Proofs.Written.Document
import LinearProgram.Proofs.Written.Spread.Basic

namespace LinearProgram

/-! ## Renumbering -/

/-- The numbers of the lines, if a line is inserted behind the first `k`. -/
def Renumbering.below (k : Nat) : Renumbering where
  apply n := if n ≤ k then n else n + 1
  apply_eq_zero_iff n := by
    split
    · exact Iff.rfl
    · omega

namespace Renumbering

theorem below_of_le {k n : Nat} (h : n ≤ k) : (below k).apply n = n := if_pos h

theorem below_of_lt {k n : Nat} (h : k < n) : (below k).apply n = n + 1 :=
  if_neg (Nat.not_le.mpr h)

end Renumbering

namespace Line

/-- The first `k` lines stay where they are. -/
theorem map_renumbered_above {k n : Nat} {raws : List Text} (h : n + raws.length ≤ k) :
    (numbered n raws).map (·.renumbered (.below k)) = numbered n raws := by
  induction raws generalizing n with
  | nil => rfl
  | cons raw raws ih =>
    rw [List.length_cons] at h
    rw [numbered, List.map_cons, ih (by omega)]
    unfold Line.renumbered
    dsimp only
    rw [Renumbering.below_of_le (by omega)]

/-- The lines behind them move down. -/
theorem map_renumbered_below {k n : Nat} (h : k ≤ n) (raws : List Text) :
    (numbered n raws).map (·.renumbered (.below k)) = numbered (n + 1) raws := by
  induction raws generalizing n with
  | nil => rfl
  | cons raw raws ih =>
    rw [numbered, List.map_cons, ih (by omega), numbered]
    unfold Line.renumbered
    dsimp only
    rw [Renumbering.below_of_lt (by omega)]

end Line

namespace Progress

/-- **What was read of the first lines stays as it is.** -/
theorem behind_below (raws : List Text) :
    (behind raws).renumbered (.below raws.length) = behind raws := by
  unfold behind
  rw [run_renumbered, Line.map_renumbered_above (by omega)]
  rfl

/-- The line behind them does what it does under the number that follows its own. -/
theorem behind_concat_below (raws : List Text) (raw : Text) :
    (behind (raws ++ [raw])).renumbered (.below raws.length) =
      (behind raws).step ⟨raws.length + 2, raw.content⟩ := by
  have hline : Line.renumbered (.below raws.length) ⟨raws.length + 1, raw.content⟩ =
      ⟨raws.length + 2, raw.content⟩ := by
    unfold Line.renumbered
    rw [Renumbering.below_of_lt (Nat.lt_succ_self _)]
  rw [behind_concat, step_renumbered, behind_below, hline]

/-- Behind a line that is inserted everything goes on as it did without it. -/
theorem run_below {k n : Nat} (h : k ≤ n) (p : Progress) (raws : List Text) :
    (p.renumbered (.below k)).run (Line.numbered (n + 1) raws) =
      (p.run (Line.numbered n raws)).renumbered (.below k) := by
  rw [run_renumbered, Line.map_renumbered_below h]

/-- Where the lines run out, that is reported on the new number of the last line. -/
theorem outcome_renumbered (f : Renumbering) (ending : Source.Ending) (n : Nat) (p : Progress) :
    (p.renumbered f).outcome ending (f.apply n) = renumberedResult f (p.outcome ending n) := by
  cases p with
  | ended result => rfl
  | _ => exact congrArg Except.error (Fault.locatedBy_renumbered ⟨ending.cause, n, none⟩ _ n).symm

end Progress

/-! ## Documents -/

namespace Source

/-- **Read alike up to a line, read alike to the end**: the first lines of the second document are
    one more, and lead to where those of the first one lead. -/
theorem model_below {raws raws' : List Text} {k : Nat} (hk : k < raws.length)
    (hlength : raws'.length = raws.length + 1)
    (hbehind : Progress.behind raws' = (Progress.behind raws).renumbered (.below k))
    (rest : List Text) (ending : Source.Ending) :
    (Source.mk (raws' ++ rest) ending).model =
      Progress.renumberedResult (.below k) (Source.mk (raws ++ rest) ending).model := by
  have happend : ∀ raws : List Text, Progress.behind (raws ++ rest) =
      (Progress.behind raws).run (Line.numbered raws.length rest) := by
    intro raws
    unfold Progress.behind
    rw [Line.numbered_append, Progress.run_append, Nat.zero_add]
  have hrest : Progress.behind (raws' ++ rest) =
      (Progress.behind (raws ++ rest)).renumbered (.below k) := by
    rw [happend, happend, hbehind, hlength, Progress.run_below (Nat.le_of_lt hk)]
  have hlast : (raws' ++ rest).length =
      (Renumbering.below k).apply (raws ++ rest).length := by
    rw [Renumbering.below_of_lt (by rw [List.length_append]; omega), List.length_append,
      List.length_append, hlength]
    omega
  rw [model_eq_behind, model_eq_behind]
  show (Progress.behind (raws' ++ rest)).outcome ending (raws' ++ rest).length = _
  rw [hrest, hlast, Progress.outcome_renumbered]

/-! ### Positive numbers -/

/-- Every constraint of a model is on a line. -/
theorem constraint_line_pos {source : Source} {m : Model} (h : source.model = .ok m)
    {c : Constraint} (hc : c ∈ m.constraints) : 0 < c.line := by
  have hparse := (Invariant.sound_kept source).parse
  unfold Session.Outcome.Leads at hparse
  rw [show (Session.parse source {}).result = .ok m from h] at hparse
  obtain ⟨-, ⟨direction, -, hsound, hne⟩, hmodel⟩ := hparse
  exact ((hsound.modelOf hne hmodel).constraints c hc).line_pos

/-- Every fault of a document that has lines is on a line. -/
theorem fault_line_pos {source : Source} (hlines : source.lines ≠ []) {fault : Fault}
    (h : source.model = .error fault) : 0 < fault.line := by
  cases hended : (Progress.behind source.lines).isEnded with
  | false =>
    rw [model_eq_behind, Progress.outcome_eq hended] at h
    cases h
    exact List.length_pos_iff.mpr hlines
  | true =>
    obtain ⟨raws, raw, rest, hsplit, hread, hraws, harrives⟩ := exists_last_arrives hended
    rw [h] at harrives
    have hlocated := locatedIn_of_metAt h hsplit hread hraws harrives
    exact hlocated.line_pos (by omega)

/-- The outcome with the lines of all constraints, or of the fault, one larger. -/
def oneDown : Except Fault Model → Except Fault Model
  | .ok m =>
    .ok { m with constraints := m.constraints.map fun c => { c with line := c.line + 1 } }
  | .error fault => .error { fault with line := fault.line + 1 }

/-- Below a line that is inserted in front of all others, all numbers become one larger. -/
theorem renumberedResult_below_zero {source : Source} (hlines : source.lines ≠ []) :
    Progress.renumberedResult (.below 0) source.model = oneDown source.model := by
  cases hmodel : source.model with
  | ok m =>
    have hmap : m.constraints.map (Constraint.renumbered (.below 0)) =
        m.constraints.map fun c => { c with line := c.line + 1 } := by
      refine List.map_congr_left fun c hc => ?_
      unfold Constraint.renumbered
      rw [Renumbering.below_of_lt (constraint_line_pos hmodel hc)]
    show Except.ok { m with constraints := m.constraints.map (Constraint.renumbered _) } = _
    rw [hmap]
    rfl
  | error fault =>
    show Except.error { fault with line := (Renumbering.below 0).apply fault.line } = _
    rw [Renumbering.below_of_lt (fault_line_pos hlines hmodel)]
    rfl

end Source

/-! ## The line of the direction -/

/-- **What stands behind the direction is read like a line of its own.** -/
theorem Progress.step_behind_direction {d : Text} {direction : Direction}
    (hd : Direction.ofWord? d = some direction) (r : Text) (n m : Nat) :
    start.step ⟨n, Text.content (d ++ ' ' :: r)⟩ =
      (start.step ⟨m, d.content⟩).step ⟨n, r.content⟩ := by
  have hmem := Direction.mem_of_ofWord? hd
  have hword : d.IsWord := Written.isWord_of_direction hmem
  have hline : Written.IsLine d := Written.isLine_of_direction hmem
  have hcomment : '\\' ∉ d := fun hc => (hline.unbroken _ hc).1 rfl
  have hdirected : ∀ n, start.step ⟨n, d⟩ =
      .objectives { draft := Session.directed direction } := by
    intro n
    rw [step_start hword.ne_nil hword.firstWord? hd]
    rfl
  rw [hline.content, hdirected]
  by_cases hr : r.content = []
  · rw [hword.content_append_of_nil hcomment r hr, hr, hdirected, step_blank]
  · obtain ⟨gap, hgap, hcontent⟩ := hword.exists_content_append hcomment r hr
    have hne : d ++ gap ++ r.content ≠ [] := by
      rw [List.append_assoc]
      exact List.append_ne_nil_of_left_ne_nil hword.ne_nil _
    rw [hcontent, step_start hne (hword.firstWord?_append hgap ⟨Text.isTrimmed_trim _, hr⟩) hd]
    rfl

namespace Source

/-- **A line feed behind the direction only moves things down.** Whatever stands behind the direction
    on its line, the document in which it stands on the next line has the same model, or the same
    fault in the same section, with all lines one larger. -/
theorem model_broken_behind_direction {d : Text} {direction : Direction}
    (hd : Direction.ofWord? d = some direction) {r : Text} (hr : '\n' ∉ r) (t : Text) :
    (ofText (d ++ '\n' :: (r ++ '\n' :: t))).model =
      oneDown (ofText (d ++ ' ' :: (r ++ '\n' :: t))).model := by
  have hline := Written.isLine_of_direction (Direction.mem_of_ofWord? hd)
  have hfeed : '\n' ∉ d := fun hc => (hline.unbroken _ hc).2 rfl
  have hone : '\n' ∉ d ++ ' ' :: r := by
    simp [hfeed, hr]
  have hjoined : (d ++ ' ' :: (r ++ '\n' :: t)).lines = (d ++ ' ' :: r) :: t.lines := by
    rw [← Text.lines_append t hone, List.append_assoc]
    rfl
  have hbroken : (d ++ '\n' :: (r ++ '\n' :: t)).lines = d :: r :: t.lines := by
    rw [Text.lines_append _ hfeed, Text.lines_append t hr]
  have hbehind : Progress.behind [d, r] =
      (Progress.behind [d ++ ' ' :: r]).renumbered (.below 0) :=
    calc Progress.behind [d, r]
      _ = (Progress.start.step ⟨1, d.content⟩).step ⟨2, r.content⟩ := rfl
      _ = Progress.start.step ⟨2, Text.content (d ++ ' ' :: r)⟩ :=
        (Progress.step_behind_direction hd r 2 1).symm
      _ = (Progress.behind [d ++ ' ' :: r]).renumbered (.below 0) :=
        (Progress.behind_concat_below [] (d ++ ' ' :: r)).symm
  have hmodel := model_below (List.length_pos_of_mem List.mem_cons_self) rfl hbehind t.lines
    .finished
  unfold ofText
  rw [hjoined, hbroken, ← renumberedResult_below_zero (List.cons_ne_nil _ _)]
  exact hmodel

/-- A constraint with a comment on the line of the direction. -/
theorem model_broken_behind_direction_constraint :
    (ofText "Max\nc: x <= 1 \\ row\nend".toList).model = .ok
      { objectives := [⟨"obj".toList, .maximize, []⟩]
        constraints := [⟨"c".toList, 2, [("x".toList, 1.0)], .le, 1.0⟩]
        vars := [⟨"x".toList, 0.0, Quantity.infinity, .continuous⟩] } := by
  have hmodel : (ofText "Max c: x <= 1 \\ row\nend".toList).model = .ok
      { objectives := [⟨"obj".toList, .maximize, []⟩]
        constraints := [⟨"c".toList, 1, [("x".toList, 1.0)], .le, 1.0⟩]
        vars := [⟨"x".toList, 0.0, Quantity.infinity, .continuous⟩] } := by
    decide +kernel
  have hword : Direction.ofWord? "Max".toList = some .maximize := by decide +kernel
  have hdown := model_broken_behind_direction hword (r := "c: x <= 1 \\ row".toList) (by decide)
    "end".toList
  have hbroken : "Max".toList ++ '\n' :: ("c: x <= 1 \\ row".toList ++ '\n' :: "end".toList) =
      "Max\nc: x <= 1 \\ row\nend".toList := by
    decide +kernel
  have hjoined : "Max".toList ++ ' ' :: ("c: x <= 1 \\ row".toList ++ '\n' :: "end".toList) =
      "Max c: x <= 1 \\ row\nend".toList := by
    decide +kernel
  rw [hbroken, hjoined, hmodel] at hdown
  exact hdown

end Source

/-! ## The keyword of the constraints -/

namespace Progress

/-- **A keyword in front of a line with a relational character does nothing** that the line does not
    do as well. -/
theorem step_keyword_of_occursIn {s l : Line} (hs : Keyword.opensConstraints s.text = true)
    (hl : Relation.occursIn l.text = true) (state : Objectives.State) :
    ((objectives state).step s).step l = (objectives state).step l := by
  obtain ⟨c, hc, hrelational⟩ := List.any_eq_true.mp hl
  obtain ⟨hopens, hsection⟩ := Written.not_keyword_of_isForeign hc (by
    unfold Written.isForeign
    rw [hrelational, Bool.or_true])
  rw [step_opensConstraints hs, step_implicit hopens hsection hl]

/-- A session that has stopped in the objective section has read objectives to the last line, or has
    met a fault. -/
theorem objectives_of_stage {raws : List Text} (hended : (behind raws).isEnded = false)
    (h : (Session.parse ⟨raws, .finished⟩ {}).session.draft.stage = .objective) :
    ∃ state, behind raws = .objectives state := by
  have hmodel := (Source.mk raws .finished).model_eq_behind
  rw [outcome_eq hended] at hmodel
  have hstage : (behind raws).state.draft.stage = .objective := by
    have hwithin := Source.within_of_model hmodel
    rw [h] at hwithin
    exact Option.some.inj hwithin
  have hstands := (section_behind hended).1
  cases hbehind : behind raws with
  | objectives state => exact ⟨state, rfl⟩
  | start =>
    rw [hbehind] at hstage
    cases hstage
  | constraints s =>
    rw [hbehind] at hstage hstands
    cases hstands.1.symm.trans hstage
  | declarations d =>
    rw [hbehind] at hstage hstands
    rcases hstands with hd | hd | hd <;> cases hd.symm.trans hstage
  | ended result =>
    rw [hbehind] at hended
    cases hended

end Progress

namespace Source

/-- **The keyword of the constraints may be missing.** If the session is still in the objective
    section behind the first lines, and a line with a relational character follows, then the document
    with the keyword in front of that line has the same model, or the same fault in the same section,
    with the lines behind the first ones one larger. -/
theorem model_keyword_inserted {p : List Text}
    (hp : (Session.parse ⟨p, .finished⟩ {}).session.draft.stage = .objective) {s l : Text}
    (hs : Keyword.opensConstraints s.content = true) (hl : Relation.occursIn l.content = true)
    (t : List Text) (ending : Source.Ending) :
    (Source.mk (p ++ s :: l :: t) ending).model =
      Progress.renumberedResult (.below p.length) (Source.mk (p ++ l :: t) ending).model := by
  have hbehind : Progress.behind (p ++ [s] ++ [l]) =
      (Progress.behind (p ++ [l])).renumbered (.below p.length) := by
    cases hended : (Progress.behind p).isEnded with
    | true =>
      rw [List.append_assoc, Progress.behind_append_of_isEnded hended,
        Progress.behind_append_of_isEnded hended, Progress.behind_below]
    | false =>
      obtain ⟨state, hstate⟩ := Progress.objectives_of_stage hended hp
      calc Progress.behind (p ++ [s] ++ [l])
        _ = ((Progress.behind p).step ⟨p.length + 1, s.content⟩).step
            ⟨p.length + 2, l.content⟩ := by
          rw [Progress.behind_concat, Progress.behind_concat, List.length_append,
            List.length_singleton]
        _ = (Progress.behind p).step ⟨p.length + 2, l.content⟩ := by
          rw [hstate, Progress.step_keyword_of_occursIn (s := ⟨p.length + 1, s.content⟩) hs hl]
        _ = (Progress.behind (p ++ [l])).renumbered (.below p.length) :=
          (Progress.behind_concat_below p l).symm
  have hwith : p ++ s :: l :: t = p ++ [s] ++ [l] ++ t := by simp
  have hwithout : p ++ l :: t = p ++ [l] ++ t := by simp
  rw [hwith, hwithout]
  exact model_below (by simp) (by simp) hbehind t ending

/-- A document with one named objective and one constraint. -/
theorem model_keyword_inserted_such_that :
    (ofText "max\ncost: 2 x\nSuch That \\ rows\nx <= 1\nend".toList).model = .ok
      { objectives := [⟨"cost".toList, .maximize, [("x".toList, 2.0)]⟩]
        constraints := [⟨"R1".toList, 4, [("x".toList, 1.0)], .le, 1.0⟩]
        vars := [⟨"x".toList, 0.0, Quantity.infinity, .continuous⟩] } := by
  have hmodel : (ofText "max\ncost: 2 x\nx <= 1\nend".toList).model = .ok
      { objectives := [⟨"cost".toList, .maximize, [("x".toList, 2.0)]⟩]
        constraints := [⟨"R1".toList, 3, [("x".toList, 1.0)], .le, 1.0⟩]
        vars := [⟨"x".toList, 0.0, Quantity.infinity, .continuous⟩] } := by
    decide +kernel
  have hwith : Text.lines "max\ncost: 2 x\nSuch That \\ rows\nx <= 1\nend".toList =
      ["max".toList, "cost: 2 x".toList] ++
        "Such That \\ rows".toList :: "x <= 1".toList :: ["end".toList] := by
    decide +kernel
  have hwithout : Text.lines "max\ncost: 2 x\nx <= 1\nend".toList =
      ["max".toList, "cost: 2 x".toList] ++ "x <= 1".toList :: ["end".toList] := by
    decide +kernel
  have hdown := model_keyword_inserted (p := ["max".toList, "cost: 2 x".toList])
    (s := "Such That \\ rows".toList) (l := "x <= 1".toList)
    (by decide +kernel) (by decide +kernel) (by decide +kernel) ["end".toList] .finished
  unfold ofText at hmodel ⊢
  rw [hwithout] at hmodel
  rw [hmodel] at hdown
  rw [hwith]
  exact hdown

end Source

end LinearProgram

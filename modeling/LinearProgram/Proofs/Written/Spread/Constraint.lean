/-
  Constraint — constraints that are spread over lines.

  1. **Closings** — the operator and the value that end a constraint. A line comes apart at the
     operator into the row in front of it, if there is one, and the value.

  2. **Steps** — a line without an operator adds the terms of its row (`Constraints.step_lays`), the
     line with the operator adds them and closes the constraint (`Constraints.step_closes`); or the
     line is refused.

  3. **Runs** — lines that are all taken come to the same as one line (`run_constraints`). They are
     all taken if one line is, and each of them can be read alone (`run_constraints_of_reads`).
-/

import LinearProgram.Proofs.Written.Spread.Basic

namespace LinearProgram.Written

/-- An operator and a value, as a constraint ends. -/
structure Closing where
  operator : Operator
  gap : Text
  rhs : Value
  isBlankOnly : gap.isBlankOnly = true

namespace Closing

/-- The end of a constraint as it is written. -/
def text (e : Closing) : Text := e.operator.text ++ (e.gap ++ e.rhs.text)

theorem isWord_operator (e : Closing) : e.operator.text.IsWord := by
  have hblank : ∀ {c : Char}, Relation.isRelational c = true → Text.isBlank c = false := by
    intro c hc
    unfold Relation.isRelational at hc
    simp only [Bool.or_eq_true, beq_iff_eq, or_assoc] at hc
    rcases hc with rfl | rfl | rfl <;> decide
  rcases e.operator.shape with ⟨c, hop, hc⟩ | ⟨c, d, hop, hc, hd⟩
  · rw [hop]
    refine ⟨List.cons_ne_nil _ _, fun a ha => ?_⟩
    rw [List.mem_singleton.mp ha]
    exact hblank hc
  · rw [hop]
    refine ⟨List.cons_ne_nil _ _, fun a ha => ?_⟩
    rcases List.mem_cons.mp ha with rfl | ha
    · exact hblank hc
    · rw [List.mem_singleton.mp ha]
      exact hblank hd

theorem plain_rhs (e : Closing) : Plain (e.gap ++ e.rhs.text) := by
  have hgap : Plain e.gap := (Lays.nil e.isBlankOnly).plain
  exact hgap.append e.rhs.plain

theorem trimEnd_rhs (e : Closing) : Text.trimEnd (e.gap ++ e.rhs.text) = e.gap ++ e.rhs.text := by
  apply Text.trimEnd_of_last
  intro c hc
  apply e.rhs.isTrimmed.last
  rw [List.getLast?_append] at hc
  cases hlast : e.rhs.text.getLast? with
  | none => exact absurd (List.getLast?_eq_none_iff.mp hlast) e.rhs.ne_nil
  | some d =>
    rw [hlast] at hc
    exact hc

theorem trim_rhs (e : Closing) : Text.trim (e.gap ++ e.rhs.text) = e.rhs.text := by
  unfold Text.trim
  rw [Text.trimStart_append_of_blankOnly _ e.isBlankOnly]
  exact e.rhs.isTrimmed.trim_eq

theorem not_mem_colon (e : Closing) : ':' ∉ e.text := by
  intro h
  rcases List.mem_append.mp h with h | h
  · rcases e.operator.shape with ⟨c, hop, hc⟩ | ⟨c, d, hop, hc, hd⟩
    · rw [hop] at h
      rw [← List.mem_singleton.mp h] at hc
      cases hc
    · rw [hop] at h
      rcases List.mem_cons.mp h with rfl | h
      · cases hc
      · rw [← List.mem_singleton.mp h] at hd
        cases hd
  · rcases List.mem_append.mp h with h | h
    · exact absurd (List.all_eq_true.mp e.isBlankOnly ':' h) (by decide)
    · exact absurd (e.rhs.not_isStructural h) (by decide)

theorem exists_isRelational (e : Closing) : ∃ c ∈ e.text, Relation.isRelational c = true := by
  rcases e.operator.shape with ⟨c, hop, hc⟩ | ⟨c, d, hop, hc, -⟩
  · exact ⟨c, List.mem_append_left _ (hop ▸ List.mem_cons_self), hc⟩
  · exact ⟨c, List.mem_append_left _ (hop ▸ List.mem_cons_self), hc⟩

/-- **A line that ends a constraint is no keyword.** -/
theorem not_section (e : Closing) (head t : Text) :
    Keyword.section? (head ++ (t ++ e.text)) = none := by
  obtain ⟨c, hc, hr⟩ := e.exists_isRelational
  have hforeign : isForeign c = true := by
    unfold isForeign
    rw [hr, Bool.or_true]
  exact (not_keyword_of_isForeign
    (List.mem_append_right _ (List.mem_append_right _ hc)) hforeign).2

theorem line_ne_nil (e : Closing) (head t : Text) : head ++ (t ++ e.text) ≠ [] := by
  obtain ⟨c, hc, -⟩ := e.exists_isRelational
  intro h
  have hmem : c ∈ head ++ (t ++ e.text) :=
    List.mem_append_right _ (List.mem_append_right _ hc)
  rw [h] at hmem
  exact List.not_mem_nil hmem

end Closing

/-- A line without an operator is an expression. -/
theorem Lays.read {ps : List Piece} {t : Text} (h : Lays ps t) :
    ConstraintLine.read t.trim = .ok (.expression t.trim) := by
  unfold ConstraintLine.read
  rw [(Relation.firstOperator?_eq_none_iff _).mpr h.trim.plain.not_occursIn,
    (Text.isTrimmed_trim t).trim_eq]

/-- **What stands in front of the operator, if anything does, is an expression.** -/
theorem Lays.read_closing {ps : List Piece} {t : Text} (h : Lays ps t) (e : Closing) :
    ConstraintLine.read (t ++ e.text).trim =
      .ok (if ps.isEmpty then .comparison e.operator.relation e.rhs.number
        else .both t.trim e.operator.relation e.rhs.number) := by
  have hfront : Plain t.trimStart := fun c hc =>
    h.plain c ((List.dropWhile_suffix Text.isBlank).subset hc)
  have htrimFront : t.trimStart.trim = t.trim := by
    unfold Text.trim
    rw [Text.trimStart_of_head (Text.head_trimStart t)]
  have hbody : (t ++ e.text).trim =
      t.trimStart ++ (e.operator.text ++ (e.gap ++ e.rhs.text)) := by
    unfold Closing.text
    rw [e.isWord_operator.trim_append, e.trimEnd_rhs]
  have hrhs : (! e.rhs.text.isEmpty) = true := by
    rw [List.isEmpty_eq_false_iff.mpr e.rhs.ne_nil]
    rfl
  have hpieces : ConstraintLine.pieces e.operator.text (t ++ e.text).trim =
      if ps.isEmpty then [e.rhs.text] else [t.trim, e.rhs.text] := by
    unfold ConstraintLine.pieces
    rw [hbody, e.operator.piecesAround hfront e.plain_rhs, List.map_cons, List.map_cons,
      List.map_nil, htrimFront, e.trim_rhs, List.filter_cons, h.isEmpty_trim]
    cases ps with
    | nil => simp [hrhs]
    | cons p ps => simp [hrhs]
  have hfirst : Relation.firstOperator? (t ++ e.text).trim = some e.operator.text := by
    rw [hbody]
    exact e.operator.firstOperator? hfront e.plain_rhs
  unfold ConstraintLine.read
  rw [hfirst]
  dsimp only
  rw [e.operator.known]
  dsimp only
  rw [hpieces]
  cases ps with
  | nil =>
    rw [List.isEmpty_nil, if_pos rfl, if_pos rfl]
    unfold ConstraintLine.ofPieces
    dsimp only
    rw [e.rhs.read]
  | cons p ps =>
    rw [List.isEmpty_cons, if_neg Bool.false_ne_true, if_neg Bool.false_ne_true]
    unfold ConstraintLine.ofPieces
    dsimp only
    rw [e.rhs.read]

end LinearProgram.Written

namespace LinearProgram.Constraints

open Written

/-- The state behind pieces that say these terms. No pieces do nothing; any others need a
    constraint. -/
def State.reads (n : Nat) (s : State) (ps : List Piece) (ts : List Term) : State :=
  if ps.isEmpty then s
  else { draft := s.draft.mention ts, current := some ((s.target n).merge (.ofTerms ts)) }

theorem State.reads_append {n : Nat} {s : State} {ps qs rs : List Piece} {ts us : List Term}
    (hps : ps = [] → ts = []) (hqs : qs = [] → us = [])
    (hrs : rs.isEmpty = (ps ++ qs).isEmpty) (h : ((ts ++ us).map Term.name).Nodup) :
    reads n (reads n s ps ts) qs us = reads n s rs (ts ++ us) := by
  have hcongr : reads n s rs (ts ++ us) = reads n s (ps ++ qs) (ts ++ us) := by
    unfold reads
    rw [hrs]
  rw [hcongr]
  cases ps with
  | nil =>
    rw [hps rfl]
    rfl
  | cons p ps =>
    cases qs with
    | nil =>
      rw [hqs rfl, List.append_nil, List.append_nil]
      rfl
    | cons q qs =>
      -- the first portion has begun a constraint if none was open
      have hmention : (s.draft.mention ts).mention us = s.draft.mention (ts ++ us) := by
        unfold Draft.mention
        rw [List.map_append, Table.registerAll_append]
      have hmerge : ((s.target n).merge (.ofTerms ts)).merge (.ofTerms us) =
          (s.target n).merge (.ofTerms (ts ++ us)) := by
        unfold Constraint.Open.merge
        dsimp only
        rw [Coefficients.merge_ofTerms_append _ h]
      show State.mk ((s.draft.mention ts).mention us)
        (some (((s.target n).merge (.ofTerms ts)).merge (.ofTerms us))) = _
      rw [hmention, hmerge]
      rfl

section

variable {n : Nat} {head u : Text} {s s' : State}

/-- What the head does, the whole line does before its body is read. -/
theorem Enters.append (h : Enters n head s [] s') (hhead : IsHead head) (hu : ':' ∉ u)
    (htrim : Text.IsTrimmed (head ++ u)) : Enters n (head ++ u) s u.trim s' := by
  have hsplit := splitName_head hhead hu htrim
  cases h with
  | unnamed _ hname =>
    rw [hname] at hsplit
    exact .unnamed _ hsplit
  | named name _ hname hcurrent =>
    rw [hname] at hsplit
    exact .named name _ hsplit hcurrent

theorem Enters.of_append {body : Text} (h : Enters n (head ++ u) s body s') (hhead : IsHead head)
    (hu : ':' ∉ u) (htrim : Text.IsTrimmed (head ++ u)) :
    body = u.trim ∧ Enters n head s [] s' := by
  have hsplit := splitName_head hhead hu htrim
  cases hname : ConstraintLine.splitName head with
  | error cause =>
    rw [hname] at hsplit
    cases h with
    | unnamed _ h =>
      rw [hsplit] at h
      cases h
    | named name _ h hcurrent =>
      rw [hsplit] at h
      cases h
  | ok split =>
    obtain ⟨name?, rest⟩ := split
    obtain rfl := splitName_head_nil hhead hname
    rw [hname] at hsplit
    cases h with
    | unnamed _ h =>
      rw [hsplit] at h
      cases h
      exact ⟨rfl, .unnamed _ hname⟩
    | named name _ h hcurrent =>
      rw [hsplit] at h
      cases h
      exact ⟨rfl, .named name _ hname hcurrent⟩

/-- Behind its name a line is its body. -/
theorem verdict_of_enters {text body : Text} (h : Enters n text s body s')
    (hsection : Keyword.section? text = none) :
    ∃ events, (line n text s).verdict =
      if body.isEmpty then .more s' else (addBody n text body s' events).verdict := by
  unfold line
  rw [hsection]
  cases h with
  | unnamed _ hname =>
    rw [hname]
    refine ⟨[], ?_⟩
    dsimp only
    cases body.isEmpty <;> rfl
  | named name _ hname hcurrent =>
    rw [hname, hcurrent]
    refine ⟨[.constraintNamed name], ?_⟩
    dsimp only
    cases body.isEmpty <;> rfl

variable {ps : List Piece} {t : Text}

/-- **A line of a constraint that does not end it adds the terms of its row.** -/
theorem step_lays (h : Lays ps t) (ho : Orderly ps) (hhead : IsHead head) (hne : head ++ t ≠ [])
    (htrim : Text.IsTrimmed (head ++ t)) (henters : Enters n head s [] s') {ts : List Term}
    (hts : Written.terms ps = (ts, none)) :
    (step n (head ++ t) s).verdict = .more (s'.reads n ps ts) := by
  have hsection := (h.not_keyword ho hhead hne htrim).2
  obtain ⟨events, hverdict⟩ :=
    verdict_of_enters (henters.append hhead h.not_mem_colon htrim) hsection
  rw [verdict_step hne, hverdict, h.isEmpty_trim]
  unfold State.reads
  cases ps with
  | nil => rfl
  | cons p ps =>
    rw [List.isEmpty_cons, if_neg Bool.false_ne_true, if_neg Bool.false_ne_true]
    unfold addBody
    dsimp only
    rw [h.read]
    dsimp only [target?]
    unfold contribute addExpression
    dsimp only
    rw [h.trim.terms ho, hts]
    rfl

theorem reads_of_step (h : Lays ps t) (ho : Orderly ps) (hhead : IsHead head) (hne : head ++ t ≠ [])
    (htrim : Text.IsTrimmed (head ++ t)) {s'' : State}
    (hstep : (step n (head ++ t) s).verdict = .more s'') :
    ∃ s' ts, Enters n head s [] s' ∧ Written.terms ps = (ts, none) := by
  have heffect := step_effect n (head ++ t) s
  rw [hstep] at heffect
  cases heffect with
  | blank h0 => exact absurd h0 hne
  | enters _ he =>
    -- nothing behind the name, so that there are no pieces
    obtain ⟨hbody, henters⟩ := he.of_append hhead h.not_mem_colon htrim
    have hempty := h.isEmpty_trim
    rw [← hbody] at hempty
    rw [List.isEmpty_iff.mp hempty.symm]
    exact ⟨_, [], henters, rfl⟩
  | contributes body s' _ he hv =>
    obtain ⟨rfl, henters⟩ := he.of_append hhead h.not_mem_colon htrim
    cases hv with
    | adds lhs terms hread hterms =>
      rw [h.read] at hread
      cases hread
      rw [h.trim.terms ho] at hterms
      exact ⟨s', terms, henters, hterms⟩
    | closes c d relation rhs said hread hc finished hclose =>
      rw [h.read] at hread
      cases hread
      rcases hc with ⟨hc, -⟩ | ⟨_, _, hc, -⟩ <;> cases hc

/-- The open constraint can be closed, and that leads to the other state. -/
def State.Closes (s : State) (e : Closing) (s' : State) : Prop :=
  ∃ c finished, s.current = some c ∧
    c.close e.operator.relation e.rhs.number = .ok finished ∧
    s' = { draft := s.draft.addConstraint finished }

theorem verdict_close {d : Draft} {c : Constraint.Open} {relation : Relation} {rhs : Float}
    {finished : Constraint} (h : c.close relation rhs = .ok finished) (events : List Event) :
    (close d c relation rhs events).verdict = .more { draft := d.addConstraint finished } := by
  unfold close
  rw [h]

/-- **The line with the operator adds the terms of its row and closes the constraint.** -/
theorem step_closes (h : Lays ps t) (ho : Orderly ps) (hhead : IsHead head) (e : Closing)
    (htrim : Text.IsTrimmed (head ++ (t ++ e.text))) (henters : Enters n head s [] s')
    {ts : List Term} (hts : Written.terms ps = (ts, none)) {s'' : State}
    (hcloses : (s'.reads n ps ts).Closes e s'') :
    (step n (head ++ (t ++ e.text)) s).verdict = .more s'' := by
  have hcolon : ':' ∉ t ++ e.text := by
    rw [List.mem_append, not_or]
    exact ⟨h.not_mem_colon, e.not_mem_colon⟩
  have hbody := h.read_closing e
  have hnonempty : List.isEmpty (t ++ e.text).trim = false := by
    cases hempty : (t ++ e.text).trim with
    | cons c u => rfl
    | nil =>
      rw [hempty] at hbody
      cases ps <;> cases hbody
  obtain ⟨c, finished, hc, hclose, rfl⟩ := hcloses
  obtain ⟨events, hverdict⟩ :=
    verdict_of_enters (henters.append hhead hcolon htrim) (e.not_section head t)
  rw [verdict_step (e.line_ne_nil head t), hverdict, hnonempty, if_neg Bool.false_ne_true]
  unfold addBody
  dsimp only
  rw [hbody]
  unfold State.reads at hc ⊢
  cases ps with
  | nil =>
    rw [List.isEmpty_nil, if_pos rfl] at hc
    rw [List.isEmpty_nil, if_pos rfl, if_pos rfl]
    dsimp only [target?]
    rw [hc]
    exact verdict_close hclose _
  | cons p ps =>
    rw [List.isEmpty_cons, if_neg Bool.false_ne_true] at hc
    rw [List.isEmpty_cons, if_neg Bool.false_ne_true, if_neg Bool.false_ne_true]
    cases hc
    dsimp only [target?]
    unfold contribute addExpression
    dsimp only
    rw [h.trim.terms ho, hts]
    exact verdict_close hclose _

theorem closes_of_step (h : Lays ps t) (ho : Orderly ps) (hhead : IsHead head) (e : Closing)
    (htrim : Text.IsTrimmed (head ++ (t ++ e.text))) {s'' : State}
    (hstep : (step n (head ++ (t ++ e.text)) s).verdict = .more s'') :
    ∃ s' ts, Enters n head s [] s' ∧ Written.terms ps = (ts, none) ∧
      (s'.reads n ps ts).Closes e s'' := by
  have hcolon : ':' ∉ t ++ e.text := by
    rw [List.mem_append, not_or]
    exact ⟨h.not_mem_colon, e.not_mem_colon⟩
  have hbody := h.read_closing e
  have heffect := step_effect n (head ++ (t ++ e.text)) s
  rw [hstep] at heffect
  cases heffect with
  | blank h0 => exact absurd h0 (e.line_ne_nil head t)
  | enters _ he =>
    obtain ⟨hnil, -⟩ := he.of_append hhead hcolon htrim
    rw [← hnil] at hbody
    cases ps <;> cases hbody
  | contributes body s' _ he hv =>
    obtain ⟨rfl, henters⟩ := he.of_append hhead hcolon htrim
    cases hv with
    | adds lhs terms hread hterms =>
      rw [hbody] at hread
      cases ps <;> cases hread
    | closes c d relation rhs said hread hc finished hclose =>
      rw [hbody] at hread
      cases ps with
      | nil =>
        cases hread
        rcases hc with ⟨hc, hcurrent, rfl⟩ | ⟨_, _, hc, -⟩
        · cases hc
          exact ⟨s', [], henters, rfl, c, finished, hcurrent, hclose, rfl⟩
        · cases hc
      | cons p ps =>
        cases hread
        rcases hc with ⟨hc, -⟩ | ⟨lhs, terms, hc, hterms, rfl, rfl⟩
        · cases hc
        · cases hc
          rw [h.trim.terms ho] at hterms
          exact ⟨s', terms, henters, hterms, _, finished, rfl, hclose, rfl⟩

end

end LinearProgram.Constraints

namespace LinearProgram.Written

/-- A line of a constraint that is taken and does not end it adds the terms of its row. -/
theorem reads_of_run_constraints {ps : List Piece} {head t : Text} (h : Lays ps t) (ho : Orderly ps)
    (hhead : IsHead head) (hne : head ++ t ≠ []) (htrim : Text.IsTrimmed (head ++ t)) {n : Nat}
    {s : Constraints.State} {rest : List Line} {m : Model}
    (hrun : Progress.run (.constraints s) (⟨n, head ++ t⟩ :: rest) = .ended (.ok m)) :
    ∃ s' ts, Constraints.Enters n head s [] s' ∧ terms ps = (ts, none) ∧
      Progress.run (.constraints (s'.reads n ps ts)) rest = .ended (.ok m) := by
  have hsection : (Line.mk n (head ++ t)).isSection = false := by
    unfold Line.isSection
    rw [(h.not_keyword ho hhead hne htrim).2]
    rfl
  obtain ⟨s₁, hmore, hrun⟩ := Progress.exists_more_of_constraint hsection hrun
  obtain ⟨s', ts, henters, hts⟩ := Constraints.reads_of_step h ho hhead hne htrim hmore
  have hsame := Constraints.step_lays h ho hhead hne htrim henters hts
  rw [hmore] at hsame
  cases hsame
  exact ⟨s', ts, henters, hts, hrun⟩

/-- Behind the line of a row the reading goes on with the terms of the row. -/
theorem run_constraints_lays {ps : List Piece} {head t : Text} (h : Lays ps t) (ho : Orderly ps)
    (hhead : IsHead head) (hne : head ++ t ≠ []) (htrim : Text.IsTrimmed (head ++ t)) {n : Nat}
    {s s' : Constraints.State} {ts : List Term} (henters : Constraints.Enters n head s [] s')
    (hts : terms ps = (ts, none)) (rest : List Line) :
    Progress.run (.constraints s) (⟨n, head ++ t⟩ :: rest) =
      Progress.run (.constraints (s'.reads n ps ts)) rest :=
  Progress.run_constraints_cons (Constraints.step_lays h ho hhead hne htrim henters hts) rest

/-- A constraint that is closed leads on to the next line. -/
def ClosesInto (e : Closing) (m : Model) (s : Constraints.State) (rest : List Line) : Prop :=
  ∃ s', s.Closes e s' ∧ Progress.run (.constraints s') rest = .ended (.ok m)

/-- A line that is taken and ends a constraint adds the terms of its row and closes it. -/
theorem closes_of_run_constraints {ps : List Piece} {head t : Text} (h : Lays ps t)
    (ho : Orderly ps) (hhead : IsHead head) (e : Closing)
    (htrim : Text.IsTrimmed (head ++ (t ++ e.text))) {n : Nat} {s : Constraints.State}
    {rest : List Line} {m : Model}
    (hrun : Progress.run (.constraints s) (⟨n, head ++ (t ++ e.text)⟩ :: rest) = .ended (.ok m)) :
    ∃ s' ts, Constraints.Enters n head s [] s' ∧ terms ps = (ts, none) ∧
      ClosesInto e m (s'.reads n ps ts) rest := by
  have hsection : (Line.mk n (head ++ (t ++ e.text))).isSection = false := by
    unfold Line.isSection
    rw [e.not_section head t]
    rfl
  obtain ⟨s₁, hmore, hrun⟩ := Progress.exists_more_of_constraint hsection hrun
  obtain ⟨s', ts, henters, hts, hcloses⟩ := Constraints.closes_of_step h ho hhead e htrim hmore
  exact ⟨s', ts, henters, hts, s₁, hcloses, hrun⟩

/-- Behind the line that ends a constraint the reading goes on. -/
theorem run_constraints_closes {ps : List Piece} {head t : Text} (h : Lays ps t) (ho : Orderly ps)
    (hhead : IsHead head) (e : Closing) (htrim : Text.IsTrimmed (head ++ (t ++ e.text)))
    {n : Nat} {s s' : Constraints.State} {ts : List Term}
    (henters : Constraints.Enters n head s [] s') (hts : terms ps = (ts, none))
    {rest : List Line} {m : Model} (hcloses : ClosesInto e m (s'.reads n ps ts) rest) :
    Progress.run (.constraints s) (⟨n, head ++ (t ++ e.text)⟩ :: rest) = .ended (.ok m) := by
  obtain ⟨s'', hcloses, hrun⟩ := hcloses
  rw [Progress.run_constraints_cons
    (Constraints.step_closes h ho hhead e htrim henters hts hcloses)]
  exact hrun

section

variable {head : Text} {rows : List (List Piece)} {lines : List Text} {e : Closing}
  (h : Spread e.text head rows lines) (hhead : IsHead head)
  (hlines : ∀ t ∈ lines, t ≠ [] ∧ t.IsTrimmed) (ho : Orderly rows.flatten)
  (hd : (mentions rows.flatten).Nodup) {n : Nat} {s : Constraints.State} {rest : List Line}
  {m : Model}
include h hhead hlines ho hd

/-- **Lines of a constraint that are all taken come to the same as one line.** -/
theorem run_constraints
    (hrun : Progress.run (.constraints s) (lines.map (Line.mk n) ++ rest) = .ended (.ok m)) :
    ∃ s' ts, Constraints.Enters n head s [] s' ∧ terms (heardRows rows) = (ts, none) ∧
      ClosesInto e m (s'.reads n (heardRows rows) ts) rest := by
  refine h.reads (fun head s s' => Constraints.Enters n head s [] s') (Constraints.State.reads n)
    (P := fun s rest => Progress.run (.constraints s) rest = .ended (.ok m)) (Q := ClosesInto e m)
    (fun h ho hhead hne htrim hrun => reads_of_run_constraints h ho hhead hne htrim hrun)
    (fun h ho hhead _ htrim hrun => closes_of_run_constraints h ho hhead e htrim hrun)
    ?_ Constraints.State.reads_append (fun _ => rfl) hhead hlines ho hd hrun
  intro s s' henters
  cases henters with
  | unnamed _ _ => rfl
  | named name _ hname _ => cases hname

/-- **Lines of a constraint that can be read alone are all taken** where one line is. -/
theorem run_constraints_of_reads (hrows : Detached rows) {s' : Constraints.State} {ts : List Term}
    (henters : Constraints.Enters n head s [] s') (hts : terms rows.flatten = (ts, none))
    (hcloses : ClosesInto e m (s'.reads n rows.flatten ts) rest) :
    Progress.run (.constraints s) (lines.map (Line.mk n) ++ rest) = .ended (.ok m) := by
  exact h.of_reads (fun head s s' => Constraints.Enters n head s [] s') (Constraints.State.reads n)
    (P := fun s rest => Progress.run (.constraints s) rest = .ended (.ok m)) (Q := ClosesInto e m)
    (fun h ho hhead hne htrim henters hts hrun =>
      (run_constraints_lays h ho hhead hne htrim henters hts _).trans hrun)
    (fun h ho hhead _ htrim henters hts hcloses =>
      run_constraints_closes h ho hhead e htrim henters hts hcloses)
    (fun s => .unnamed _ rfl) Constraints.State.reads_append (fun _ => rfl) hhead hlines ho hd
    hrows henters hts hcloses

end

end LinearProgram.Written

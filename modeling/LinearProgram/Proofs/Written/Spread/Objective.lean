/-
  Objective — objectives that are spread over lines.

  A line of an objective adds the terms of its row (`Objectives.step_lays`), or is refused. The terms
  of different variables may be added row by row as well as all at once, so that lines which are all
  taken come to the same as one line (`run_objectives`). They are all taken if one line is, and each
  of them can be read alone (`run_objectives_of_reads`).
-/

import LinearProgram.Proofs.Written.Spread.Basic

namespace LinearProgram.Objectives

open Written

/-- The head opens an objective if it says a name. -/
def Enters (head : Text) (s s' : State) : Prop :=
  ∃ name?, ConstraintLine.splitName head = .ok (name?, []) ∧ s' = s.named name?

/-- The state behind pieces that say these terms. No pieces do nothing; any others need an
    objective. -/
def State.reads (s : State) (ps : List Piece) (ts : List Term) : State :=
  if ps.isEmpty then s else s.opened.extended ts

/-- **Terms of different variables may be added in portions.** -/
theorem State.extended_append (s : State) {ts us : List Term}
    (h : ((ts ++ us).map Term.name).Nodup) :
    (s.extended ts).extended us = s.extended (ts ++ us) := by
  have htable : (s.draft.table.registerAll (ts.map Term.name)).registerAll (us.map Term.name) =
      s.draft.table.registerAll ((ts ++ us).map Term.name) := by
    rw [List.map_append, Table.registerAll_append]
  obtain ⟨d, isOpen⟩ := s
  unfold extended Draft.mergeLast Draft.mention
  dsimp only at htable ⊢
  cases hlast : d.objectives.getLast? with
  | none =>
    dsimp only
    rw [hlast, htable]
  | some o =>
    dsimp only
    rw [List.getLast?_concat]
    dsimp only
    rw [List.dropLast_concat, htable]
    unfold LinearProgram.Objective.merge
    dsimp only
    rw [Coefficients.merge_ofTerms_append _ h]

theorem State.reads_append {s : State} {ps qs rs : List Piece} {ts us : List Term}
    (hps : ps = [] → ts = []) (hqs : qs = [] → us = [])
    (hrs : rs.isEmpty = (ps ++ qs).isEmpty) (h : ((ts ++ us).map Term.name).Nodup) :
    (s.reads ps ts).reads qs us = s.reads rs (ts ++ us) := by
  have hcongr : s.reads rs (ts ++ us) = s.reads (ps ++ qs) (ts ++ us) := by
    unfold reads
    rw [hrs]
  rw [hcongr]
  cases ps with
  | nil =>
    rw [hps rfl]
    rfl
  | cons p ps =>
    cases qs with
    | nil =>
      rw [hqs rfl, List.append_nil, List.append_nil]
      rfl
    | cons q qs =>
      -- the first portion has opened an objective if none was open
      have hopen : (s.opened.extended ts).opened = s.opened.extended ts := by
        have hisOpen : (s.opened.extended ts).isOpen = true := by
          show s.opened.isOpen = true
          unfold opened
          split
          · assumption
          · rfl
        unfold opened
        rw [if_pos]
        exact hisOpen
      show (s.opened.extended ts).opened.extended us = s.opened.extended (ts ++ us)
      rw [hopen, State.extended_append _ h]

section

variable {ps : List Piece} {head t : Text}

/-- **A line of an objective adds the terms of its row.** -/
theorem step_lays (h : Lays ps t) (ho : Orderly ps) (hhead : IsHead head) (hne : head ++ t ≠ [])
    (htrim : Text.IsTrimmed (head ++ t)) {s s' : State} (henters : Enters head s s')
    {ts : List Term} (hts : Written.terms ps = (ts, none)) {n : Nat} :
    (step n (head ++ t) s).verdict = .more (s'.reads ps ts) := by
  obtain ⟨hopens, hsection⟩ := h.not_keyword ho hhead hne htrim
  obtain ⟨name?, hname, rfl⟩ := henters
  have hsplit : ConstraintLine.splitName (head ++ t) = .ok (name?, t.trim) := by
    rw [splitName_head hhead h.not_mem_colon htrim, hname]
    rfl
  rw [verdict_step hne]
  unfold line
  rw [hopens, if_neg Bool.false_ne_true, hsection]
  dsimp only
  rw [(hhead.plain.append h.plain).not_occursIn, if_neg Bool.false_ne_true, hsplit]
  dsimp only
  rw [h.isEmpty_trim]
  unfold State.reads
  cases ps with
  | nil => rfl
  | cons p ps =>
    rw [List.isEmpty_cons, if_neg Bool.false_ne_true, if_neg Bool.false_ne_true]
    unfold addBody
    rw [h.trim.terms ho, hts]
    rfl

/-- **A line that is taken has been read.** -/
theorem reads_of_step (h : Lays ps t) (ho : Orderly ps) (hhead : IsHead head)
    (hne : head ++ t ≠ []) (htrim : Text.IsTrimmed (head ++ t)) {n : Nat} {s s' : State}
    (hstep : (step n (head ++ t) s).verdict = .more s') :
    ∃ s' ts, Enters head s s' ∧ Written.terms ps = (ts, none) := by
  have hsplit := splitName_head hhead h.not_mem_colon htrim
  have heffect := step_effect n (head ++ t) s
  rw [hstep] at heffect
  cases hname : ConstraintLine.splitName head with
  | error cause =>
    rw [hname] at hsplit
    cases heffect with
    | blank h0 => exact absurd h0 hne
    | named name? h' =>
      rw [hsplit] at h'
      cases h'
    | adds name? body terms h' _ =>
      rw [hsplit] at h'
      cases h'
  | ok split =>
    obtain ⟨name?, body⟩ := split
    obtain rfl := splitName_head_nil hhead hname
    rw [hname] at hsplit
    cases heffect with
    | blank h0 => exact absurd h0 hne
    | named name?' h' =>
      -- nothing behind the name, so that there are no pieces
      rw [hsplit] at h'
      have hbody := h.isEmpty_trim
      have htrim' : t.trim = [] := (Prod.mk.inj (Except.ok.inj h')).2
      rw [htrim'] at hbody
      rw [List.isEmpty_iff.mp hbody.symm]
      exact ⟨_, [], ⟨name?, hname, rfl⟩, rfl⟩
    | adds name?' body terms h' hterms =>
      rw [hsplit] at h'
      have hbody : t.trim = body := (Prod.mk.inj (Except.ok.inj h')).2
      rw [← hbody, h.trim.terms ho] at hterms
      exact ⟨_, terms, ⟨name?, hname, rfl⟩, hterms⟩

end

end LinearProgram.Objectives

namespace LinearProgram.Written

/-- A line of an objective that is taken adds the terms of its row. -/
theorem reads_of_run_objectives {ps : List Piece} {head t : Text} (h : Lays ps t) (ho : Orderly ps)
    (hhead : IsHead head) (hne : head ++ t ≠ []) (htrim : Text.IsTrimmed (head ++ t)) {n : Nat}
    {s : Objectives.State} {rest : List Line} {m : Model}
    (hrun : Progress.run (.objectives s) (⟨n, head ++ t⟩ :: rest) = .ended (.ok m)) :
    ∃ s' ts, Objectives.Enters head s s' ∧ terms ps = (ts, none) ∧
      Progress.run (.objectives (s'.reads ps ts)) rest = .ended (.ok m) := by
  obtain ⟨hopens, hsection⟩ := h.not_keyword ho hhead hne htrim
  have hobjective : (Line.mk n (head ++ t)).isObjective = true := by
    unfold Line.isObjective Line.isSection
    dsimp only
    rw [hopens, hsection, (hhead.plain.append h.plain).not_occursIn]
    rfl
  obtain ⟨s₁, hmore, hrun⟩ := Progress.exists_more_of_objective hobjective hrun
  obtain ⟨s', ts, henters, hts⟩ := Objectives.reads_of_step h ho hhead hne htrim hmore
  have hsame := Objectives.step_lays h ho hhead hne htrim henters hts (n := n)
  rw [hmore] at hsame
  cases hsame
  exact ⟨s', ts, henters, hts, hrun⟩

/-- Behind the line of a row the reading goes on with the terms of the row. -/
theorem run_objectives_lays {ps : List Piece} {head t : Text} (h : Lays ps t) (ho : Orderly ps)
    (hhead : IsHead head) (hne : head ++ t ≠ []) (htrim : Text.IsTrimmed (head ++ t))
    {s s' : Objectives.State} {ts : List Term} (henters : Objectives.Enters head s s')
    (hts : terms ps = (ts, none)) {n : Nat} (rest : List Line) :
    Progress.run (.objectives s) (⟨n, head ++ t⟩ :: rest) =
      Progress.run (.objectives (s'.reads ps ts)) rest :=
  Progress.run_objectives_cons (Objectives.step_lays h ho hhead hne htrim henters hts) rest

section

variable {head : Text} {rows : List (List Piece)} {lines : List Text} (h : Spread [] head rows lines)
  (hhead : IsHead head) (hlines : ∀ t ∈ lines, t ≠ [] ∧ t.IsTrimmed) (ho : Orderly rows.flatten)
  (hd : (mentions rows.flatten).Nodup) {n : Nat} {s : Objectives.State} {rest : List Line}
  {m : Model}
include h hhead hlines ho hd

/-- **Lines of an objective that are all taken come to the same as one line.** -/
theorem run_objectives
    (hrun : Progress.run (.objectives s) (lines.map (Line.mk n) ++ rest) = .ended (.ok m)) :
    ∃ s' ts, Objectives.Enters head s s' ∧ terms (heardRows rows) = (ts, none) ∧
      Progress.run (.objectives (s'.reads (heardRows rows) ts)) rest = .ended (.ok m) := by
  refine h.reads Objectives.Enters Objectives.State.reads
    (P := fun s rest => Progress.run (.objectives s) rest = .ended (.ok m))
    (Q := fun s rest => Progress.run (.objectives s) rest = .ended (.ok m))
    (fun h ho hhead hne htrim hrun => reads_of_run_objectives h ho hhead hne htrim hrun) ?_ ?_
    Objectives.State.reads_append (fun _ => rfl) hhead hlines ho hd hrun
  · intro head t row s rest h ho hhead hne htrim hrun
    rw [List.append_nil] at hne htrim hrun
    exact reads_of_run_objectives h ho hhead hne htrim hrun
  · rintro s s' ⟨name?, hname, rfl⟩
    cases hname
    rfl

/-- **Lines of an objective that can be read alone are all taken** where one line is. -/
theorem run_objectives_of_reads (hrows : Detached rows) {s' : Objectives.State} {ts : List Term}
    (henters : Objectives.Enters head s s') (hts : terms rows.flatten = (ts, none))
    (hrun : Progress.run (.objectives (s'.reads rows.flatten ts)) rest = .ended (.ok m)) :
    Progress.run (.objectives s) (lines.map (Line.mk n) ++ rest) = .ended (.ok m) := by
  refine h.of_reads Objectives.Enters Objectives.State.reads
    (P := fun s rest => Progress.run (.objectives s) rest = .ended (.ok m))
    (Q := fun s rest => Progress.run (.objectives s) rest = .ended (.ok m))
    (fun h ho hhead hne htrim henters hts hrun =>
      (run_objectives_lays h ho hhead hne htrim henters hts _).trans hrun) ?_
    (fun s => ⟨none, rfl, rfl⟩) Objectives.State.reads_append (fun _ => rfl) hhead hlines ho hd
    hrows henters hts hrun
  intro head t row s s' ts rest h ho hhead hne htrim henters hts hrun
  rw [List.append_nil] at hne htrim ⊢
  exact (run_objectives_lays h ho hhead hne htrim henters hts rest).trans hrun

end

end LinearProgram.Written

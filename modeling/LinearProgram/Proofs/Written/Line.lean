/-
  Line — objectives and constraints, each written on one line and read by one step.

  1. **Lines** — a line without line feed and comment mark, and without blanks at its ends, is its
     own content.

  2. **Names** — a line that begins with a name and a colon is no keyword, and is split into the
     name and what follows it.

  3. **Steps** — the step of an objective's line adds the objective and registers its variables
     (`Objective.step_text`), the step of a constraint's line does the same for the constraint
     (`Constraint.step_text`).
-/

import LinearProgram.Proofs.Coefficients
import LinearProgram.Proofs.Document.Step
import LinearProgram.Proofs.Written.Value

namespace LinearProgram.Written

/-! ## Lines -/

/-- A text that is a line of a document, and its own content. -/
structure IsLine (t : Text) : Prop where
  isTrimmed : t.IsTrimmed
  unbroken : ∀ c ∈ t, c ≠ '\\' ∧ c ≠ '\n'

/-- Nothing is cut off a line: it has no comment and no outer blanks. -/
theorem IsLine.content {t : Text} (h : IsLine t) : t.content = t := by
  unfold Text.content
  rw [Text.before_of_not_mem fun hc => (h.unbroken _ hc).1 rfl, h.isTrimmed.trim_eq]

/-- Comments and line breaks begin with structural characters. -/
theorem unbroken_of_not_isStructural {c : Char} (h : isStructural c = false) :
    c ≠ '\\' ∧ c ≠ '\n' := by
  constructor
  · rintro rfl
    cases h
  · rintro rfl
    cases h

/-- What stands between two texts that are trimmed does not matter. -/
theorem isTrimmed_append {a b : Text} (m : Text) (ha : a.IsTrimmed) (hb : b.IsTrimmed)
    (hane : a ≠ []) (hbne : b ≠ []) : Text.IsTrimmed (a ++ (m ++ b)) where
  head c hc := by
    apply ha.head
    cases a with
    | nil => exact absurd rfl hane
    | cons d a => exact hc
  last c hc := by
    apply hb.last
    have hlast : (m ++ b).getLast? = b.getLast? := by
      rw [List.getLast?_append]
      cases hb' : b.getLast? with
      | none => exact absurd (List.getLast?_eq_none_iff.mp hb') hbne
      | some d => rfl
    rw [List.getLast?_append, hlast] at hc
    cases hb' : b.getLast? with
    | none => exact absurd (List.getLast?_eq_none_iff.mp hb') hbne
    | some d =>
      rw [hb'] at hc
      exact hc

/-! ## Expressions in lines -/

theorem GivenName.not_isStructural (x : GivenName) {c : Char} (h : c ∈ x.text) :
    isStructural c = false := by
  obtain ⟨-, -, hrelational, hcolon, hcomment, hfeed⟩ := inner_spec (x.isInner_of_mem h)
  simp [isStructural, hrelational, hcolon, hcomment, hfeed]

theorem not_isStructural_of_isPart {c : Char} (h : Numeral.IsPart c) : isStructural c = false := by
  apply not_isStructural_of_isLiteralChar
  rcases h with h | rfl | rfl | rfl | rfl | rfl
  · exact isLiteralChar_of_isDecimal (isDecimal_of_isDigit h)
  · decide
  · decide
  · decide
  · decide
  · decide

namespace SignedTerm

theorem not_isStructural (t : SignedTerm) {c : Char} (h : c ∈ ' ' :: t.text) :
    isStructural c = false := by
  rcases List.mem_cons.mp h with rfl | h
  · decide
  · rcases List.mem_cons.mp h with rfl | h
    · cases t.sign <;> decide
    · rcases List.mem_cons.mp h with rfl | h
      · decide
      · unfold addend at h
        cases hn : t.coefficient? with
        | none =>
          rw [hn] at h
          exact t.name.not_isStructural h
        | some n =>
          rw [hn] at h
          rcases List.mem_append.mp h with h | h
          · exact not_isStructural_of_isPart (n.isPart_of_mem_text h)
          · rcases List.mem_cons.mp h with rfl | h
            · decide
            · exact t.name.not_isStructural h

/-- A term begins with its sign and ends with its name. -/
theorem isTrimmed_text (t : SignedTerm) : t.text.IsTrimmed := by
  have hsign : Text.IsTrimmed [t.sign.toChar] :=
    Text.isTrimmed_singleton (by cases t.sign <;> decide)
  have hname := t.name.isWord
  have hshape : ∃ m, t.text = [t.sign.toChar] ++ (m ++ t.name.text) := by
    unfold text addend
    cases t.coefficient? with
    | none => exact ⟨[' '], rfl⟩
    | some n => exact ⟨' ' :: (n.text ++ [' ']), by simp⟩
  obtain ⟨m, hm⟩ := hshape
  rw [hm]
  exact isTrimmed_append m hsign hname.isTrimmed (List.cons_ne_nil _ _) hname.ne_nil

end SignedTerm

/-- **No structural character is part of an expression.** -/
theorem not_isStructural_behind (ts : List SignedTerm) {c : Char} (h : c ∈ behind ts) :
    isStructural c = false := by
  obtain ⟨t, -, hc⟩ := List.mem_flatMap.mp h
  exact t.not_isStructural hc

theorem behind_cons (t : SignedTerm) (ts : List SignedTerm) :
    behind (t :: ts) = ' ' :: expression (t :: ts) := by
  rw [expression_cons]
  rfl

theorem expression_cons_ne_nil (t : SignedTerm) (ts : List SignedTerm) :
    expression (t :: ts) ≠ [] := by
  rw [expression_cons]
  exact List.cons_ne_nil _ _

theorem isTrimmed_expression (ts : List SignedTerm) : Text.IsTrimmed (expression ts) := by
  induction ts with
  | nil => exact ⟨fun c hc => (nomatch hc), fun c hc => (nomatch hc)⟩
  | cons t ts ih =>
    cases ts with
    | nil =>
      have hsingle : expression [t] = t.text := rfl
      rw [hsingle]
      exact t.isTrimmed_text
    | cons u ts =>
      have hsplit : expression (t :: u :: ts) = t.text ++ ([' '] ++ expression (u :: ts)) := by
        rw [expression_cons, behind_cons]
        rfl
      rw [hsplit]
      exact isTrimmed_append [' '] t.isTrimmed_text ih (List.cons_ne_nil _ _)
        (expression_cons_ne_nil u ts)

/-- The blank behind the colon is cut off. -/
theorem trim_behind (ts : List SignedTerm) : (behind ts).trim = expression ts := by
  cases ts with
  | nil => rfl
  | cons t ts =>
    rw [behind_cons, Text.trim_cons_of_blank _ (by decide)]
    exact (isTrimmed_expression _).trim_eq

/-! ## Names in front of a colon -/

namespace GivenName

theorem ne_colon (x : GivenName) : ':' ∉ x.text := by
  intro h
  have := x.not_isStructural h
  cases this

theorem isBlankOnly_text (x : GivenName) : x.text.isBlankOnly = false := by
  obtain ⟨c, t, ht, -⟩ := x.eq_cons
  have hc := x.isWord.not_blank c (by rw [ht]; exact List.mem_cons_self)
  rw [ht]
  show (Text.isBlank c && _) = false
  rw [hc]
  rfl

/-- A line that begins with a name and a colon is split there. -/
theorem splitName (x : GivenName) (rest : Text) :
    ConstraintLine.splitName (x.text ++ ':' :: rest) = .ok (some x.text, rest.trim) := by
  have hoccurs : Relation.occursIn x.text = false := by
    unfold Relation.occursIn
    rw [List.any_eq_false]
    intro c hc
    simp [(inner_spec (x.isInner_of_mem hc)).2.2.1]
  unfold ConstraintLine.splitName
  rw [Text.cutAt?_append rest x.ne_colon]
  dsimp only
  rw [hoccurs, if_neg (by decide), x.read_text]

/-- **A line with a colon is no keyword.** -/
theorem not_keyword (x : GivenName) (rest : Text) :
    Keyword.opensConstraints (x.text ++ ':' :: rest) = false ∧
      Keyword.section? (x.text ++ ':' :: rest) = none := by
  have hcolon : ':' ∈ x.text ++ ':' :: rest := List.mem_append_right _ List.mem_cons_self
  have hcaseless : Text.IsCaseless ':' := Text.isCaseless_of_ascii (by decide) (by decide)
  exact Keyword.not_keyword_of_mem (Keyword.mem_normal hcaseless (by decide) hcolon) (by decide)

end GivenName

/-! ## Objectives -/

/-- The coefficients that terms sum up to, in the order of first mention. -/
def coefficients (ts : List SignedTerm) : Coefficients :=
  (ts.map fun t => t.name.text).eraseDups.map fun name =>
    (name, Coefficients.sumOf (ts.map SignedTerm.term) name)

/-- The program and the meaning sum up the same terms. -/
theorem ofTerms_term (ts : List SignedTerm) :
    Coefficients.ofTerms (ts.map SignedTerm.term) = coefficients ts := by
  rw [Coefficients.ofTerms_eq, List.map_map]
  rfl

/-- What an objective is opened with is nothing, to which its coefficients are added. -/
theorem merge_coefficients (ts : List SignedTerm) :
    Coefficients.merge [] (coefficients ts) = coefficients ts := by
  rw [← ofTerms_term]
  exact Coefficients.merge_nil_ofTerms _

/-- A name and terms, which may be none. -/
structure Objective where
  name : GivenName
  terms : List SignedTerm

namespace Objective

/-- The objective as it is written. -/
def text (o : Objective) : Text := o.name.text ++ ':' :: behind o.terms

/-- The objective that is meant. -/
def objective (direction : Direction) (o : Objective) : LinearProgram.Objective where
  name := o.name.text
  direction := direction
  coefficients := coefficients o.terms

/-- The names that the objective mentions. -/
def mentions (o : Objective) : List Text := o.terms.map fun t => t.name.text

theorem isLine (o : Objective) : IsLine o.text where
  isTrimmed := by
    have hname := o.name.isWord
    unfold text
    cases hterms : o.terms with
    | nil =>
      -- an objective without terms ends with the colon
      have hcolon : Text.IsTrimmed [':'] := Text.isTrimmed_singleton (by decide)
      exact isTrimmed_append [] hname.isTrimmed hcolon hname.ne_nil (List.cons_ne_nil _ _)
    | cons t ts =>
      rw [behind_cons]
      exact isTrimmed_append [':', ' '] hname.isTrimmed (isTrimmed_expression _) hname.ne_nil
        (expression_cons_ne_nil t ts)
  unbroken c hc := by
    rcases List.mem_append.mp hc with hc | hc
    · exact unbroken_of_not_isStructural (o.name.not_isStructural hc)
    · rcases List.mem_cons.mp hc with rfl | hc
      · decide
      · exact unbroken_of_not_isStructural (not_isStructural_behind _ hc)

/-- An objective has no operator, which would begin the constraints. -/
theorem not_occursIn (o : Objective) : Relation.occursIn o.text = false := by
  unfold Relation.occursIn
  rw [List.any_eq_false]
  have hplain : ∀ {c : Char}, isStructural c = false → Relation.isRelational c ≠ true := by
    intro c hc hr
    simp [isStructural, hr] at hc
  intro c hc
  rcases List.mem_append.mp hc with hc | hc
  · exact hplain (o.name.not_isStructural hc)
  · rcases List.mem_cons.mp hc with rfl | hc
    · decide
    · exact hplain (not_isStructural_behind _ hc)

/-- What becomes of a draft. -/
def added (direction : Direction) (o : Objective) (d : Draft) : Draft :=
  { d with
    objectives := d.objectives ++ [o.objective direction]
    table := d.table.registerAll o.mentions }

/-- **Opening an objective and merging its terms into it adds it whole.** -/
theorem mergeLast_openObjective {direction : Direction} (o : Objective) {d : Draft}
    (hd : d.direction = some direction) :
    ((d.openObjective o.name.text).mention (o.terms.map SignedTerm.term)).mergeLast
      (.ofTerms (o.terms.map SignedTerm.term)) = o.added direction d := by
  have hlast : ((d.openObjective o.name.text).mention (o.terms.map SignedTerm.term)).objectives =
      d.objectives ++ [{ name := o.name.text, direction := direction }] := by
    show d.objectives ++ [_] = _
    rw [hd]
    rfl
  have hmentions : (o.terms.map SignedTerm.term).map Term.name = o.mentions := List.map_map
  unfold Draft.mergeLast
  rw [hlast, List.getLast?_concat]
  dsimp only
  rw [List.dropLast_concat, ofTerms_term]
  unfold LinearProgram.Objective.merge
  dsimp only
  rw [merge_coefficients]
  show Draft.mk _ _ _ _ (d.table.registerAll ((o.terms.map SignedTerm.term).map Term.name)) = _
  rw [hmentions]
  rfl

/-- **The step of an objective's line adds the objective.** -/
theorem step_text {direction : Direction} (o : Objective) (n : Nat) {s : Objectives.State}
    (hs : s.draft.direction = some direction) :
    (Objectives.step n o.text s).verdict =
      .more { draft := o.added direction s.draft, isOpen := true } := by
  have hne : o.text ≠ [] := fun h => o.name.isWord.ne_nil (List.append_eq_nil_iff.mp h).1
  obtain ⟨hopens, hsection⟩ := o.name.not_keyword (behind o.terms)
  have hsplit := o.name.splitName (behind o.terms)
  rw [trim_behind] at hsplit
  rw [Objectives.verdict_step hne]
  unfold Objectives.line
  rw [show Keyword.opensConstraints o.text = false from hopens, if_neg (by decide),
    show Keyword.section? o.text = none from hsection]
  dsimp only
  rw [o.not_occursIn, if_neg (by decide), show ConstraintLine.splitName o.text = _ from hsplit]
  dsimp only
  have hadded := o.mergeLast_openObjective hs
  cases hterms : o.terms with
  | nil =>
    -- nothing behind the colon: the objective is opened, and has no terms
    have hempty : (expression []).isEmpty = true := rfl
    rw [hempty, if_pos rfl, ← hadded, hterms]
    show Cursor.Verdict.more (s.named (some o.name.text)) = _
    simp [Objectives.State.named, Draft.mergeLast, Draft.mention, Table.registerAll,
      Draft.openObjective, LinearProgram.Objective.merge, Coefficients.merge, Coefficients.ofTerms]
  | cons t ts =>
    rw [hterms] at hadded
    have hbody : (expression (t :: ts)).isEmpty = false :=
      List.isEmpty_eq_false_iff.mpr (expression_cons_ne_nil t ts)
    rw [hbody, if_neg (by decide)]
    unfold Objectives.addBody
    rw [terms_text]
    dsimp only
    rw [← hadded]
    rfl

end Objective

end LinearProgram.Written

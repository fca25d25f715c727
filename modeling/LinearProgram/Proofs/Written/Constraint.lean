/-
  Constraint — a constraint written on one line and read by one step.

  1. **Operators** — each of the seven operators is one relational character or two of them. In a
     line without further relational characters it is found as a whole, and the line comes apart at
     it into the left-hand side and the value.

  2. **Steps** — where no constraint is open, the step of a constraint's line opens one, adds its
     terms and closes it, all at once (`Constraint.step_text`).
-/

import LinearProgram.Proofs.Written.Line
import Mathlib.Data.List.Infix

namespace LinearProgram.Written

/-! ## Operators -/

/-- One of the seven operators, and the relation it stands for. -/
structure Operator where
  text : Text
  relation : Relation
  known : Relation.ofOperator? text = some relation

namespace Operator

/-- An operator is one relational character, or two. -/
theorem shape (op : Operator) :
    (∃ c, op.text = [c] ∧ Relation.isRelational c = true) ∨
      ∃ c d, op.text = [c, d] ∧ Relation.isRelational c = true ∧
        Relation.isRelational d = true := by
  have h := op.known
  unfold Relation.ofOperator? at h
  split at h
  · next heq => exact Or.inr ⟨_, _, heq, by decide, by decide⟩
  · next heq => exact Or.inr ⟨_, _, heq, by decide, by decide⟩
  · next heq => exact Or.inl ⟨_, heq, by decide⟩
  · next heq => exact Or.inl ⟨_, heq, by decide⟩
  · next heq => exact Or.inr ⟨_, _, heq, by decide, by decide⟩
  · next heq => exact Or.inr ⟨_, _, heq, by decide, by decide⟩
  · next heq => exact Or.inl ⟨_, heq, by decide⟩
  · cases h

/-- The two characters of an operator differ. -/
theorem ne_of_text (op : Operator) {c d : Char} (hop : op.text = [c, d]) : c ≠ d := by
  rintro rfl
  have hnone : Relation.ofOperator? [c, c] = none := by
    unfold Relation.ofOperator?
    split <;> grind
  have h := op.known
  rw [hop, hnone] at h
  cases h

/-- **A line comes apart at an operator** into the pieces that it is joined from, if the operator
    stands in none of them. -/
theorem piecesAround_eq_iff (op : Operator) {line : Text} {pieces : List Text} :
    Relation.piecesAround op.text line = pieces ↔
      pieces ≠ [] ∧ Text.join op.text pieces = line ∧ ∀ piece ∈ pieces, ¬ op.text <:+: piece := by
  rcases op.shape with ⟨c, hop, -⟩ | ⟨c, d, hop, -, -⟩
  · rw [hop]
    simp only [List.singleton_infix_iff]
    exact Text.splitAt_eq_iff
  · rw [hop]
    simp only [← Text.hasPair_eq_true_iff, Bool.not_eq_true]
    exact Text.splitAtPair_eq_iff (op.ne_of_text hop)

end Operator

/-- Without relational characters. -/
def Plain (t : Text) : Prop := ∀ c ∈ t, Relation.isRelational c = false

theorem Plain.not_mem {t : Text} (h : Plain t) {c : Char} (hc : Relation.isRelational c = true) :
    c ∉ t := by
  intro hmem
  rw [h c hmem] at hc
  cases hc

theorem Plain.append {t u : Text} (ht : Plain t) (hu : Plain u) : Plain (t ++ u) := by
  intro c hc
  rcases List.mem_append.mp hc with hc | hc
  · exact ht c hc
  · exact hu c hc

theorem plain_iff {t : Text} : Plain t ↔ Relation.occursIn t = false := by
  unfold Plain Relation.occursIn
  simp only [List.any_eq_false, Bool.not_eq_true]

theorem Plain.not_occursIn {t : Text} (h : Plain t) : Relation.occursIn t = false := plain_iff.mp h

/-- A relational character is no blank. -/
theorem not_isBlank_of_isRelational {c : Char} (h : Relation.isRelational c = true) :
    Text.isBlank c = false := by
  unfold Relation.isRelational at h
  simp only [Bool.or_eq_true, beq_iff_eq, or_assoc] at h
  rcases h with rfl | rfl | rfl <;> decide

/-- Blanks around a text do not matter. -/
theorem plain_trim_iff {t : Text} : Plain t.trim ↔ Plain t := by
  have hblank : ∀ c, Text.isBlank c = true → Relation.isRelational c = false := by
    intro c hc
    rw [← Bool.not_eq_true]
    intro h
    rw [not_isBlank_of_isRelational h] at hc
    cases hc
  rw [plain_iff, plain_iff]
  unfold Relation.occursIn
  rw [Text.any_trim hblank]

theorem plain_of_blankOnly {t : Text} (h : t.isBlankOnly = true) : Plain t := by
  rw [← plain_trim_iff, (Text.trim_eq_nil_iff t).mpr h]
  exact fun c hc => absurd hc List.not_mem_nil

theorem plain_of_not_isStructural {t : Text} (h : ∀ c ∈ t, isStructural c = false) : Plain t := by
  intro c hc
  have hs := h c hc
  unfold isStructural at hs
  simp only [Bool.or_eq_false_iff] at hs
  exact hs.2

theorem plain_space : Plain [' '] := by
  intro c hc
  rw [List.mem_singleton.mp hc]
  decide

theorem Value.plain (v : Value) : Plain v.text :=
  plain_of_not_isStructural fun _ => v.not_isStructural

/-- A text that is read as a quantity is a value with blanks around it. -/
theorem exists_value {t : Text} {x : Float} (h : Quantity.read t = .ok x) :
    ∃ v : Value, v.text = t.trim ∧ v.number = x := by
  rw [← Quantity.read_trim] at h
  exact ⟨⟨t.trim, x, Text.isTrimmed_trim t, h⟩, rfl, rfl⟩

/-- **A quantity has no relational characters.** -/
theorem plain_of_quantity {t : Text} {x : Float} (h : Quantity.read t = .ok x) : Plain t := by
  obtain ⟨v, hv, -⟩ := exists_value h
  rw [← plain_trim_iff, ← hv]
  exact v.plain

theorem not_blankOnly_of_quantity {t : Text} {x : Float} (h : Quantity.read t = .ok x) :
    t.isBlankOnly = false := by
  obtain ⟨v, hv, -⟩ := exists_value h
  rw [← Bool.not_eq_true, ← Text.trim_eq_nil_iff, ← hv]
  exact v.ne_nil

theorem GivenName.plain (x : GivenName) : Plain x.text :=
  plain_of_not_isStructural fun _ => x.not_isStructural

theorem plain_behind (ts : List SignedTerm) : Plain (behind ts) :=
  plain_of_not_isStructural fun _ => not_isStructural_behind ts

theorem plain_expression (ts : List SignedTerm) : Plain (expression ts) := by
  cases ts with
  | nil => exact fun c hc => absurd hc List.not_mem_nil
  | cons t ts =>
    have hbehind := plain_behind (t :: ts)
    rw [behind_cons] at hbehind
    exact fun c hc => hbehind c (List.mem_cons_of_mem _ hc)

/-- **The operator between two plain texts is the first one of the line.** -/
theorem Operator.firstOperator? (op : Operator) {t u : Text} (ht : Plain t) (hu : Plain u) :
    Relation.firstOperator? (t ++ (op.text ++ u)) = some op.text := by
  have hdrop : (t ++ (op.text ++ u)).dropWhile (! Relation.isRelational ·) =
      (op.text ++ u).dropWhile (! Relation.isRelational ·) :=
    List.dropWhile_append_of_pos fun c hc => by rw [ht c hc]; rfl
  unfold Relation.firstOperator?
  rw [hdrop]
  rcases op.shape with ⟨c, hop, hc⟩ | ⟨c, d, hop, hc, hd⟩
  · rw [hop, List.cons_append, List.nil_append, List.dropWhile_cons_of_neg (by simp [hc])]
    cases u with
    | nil => rfl
    | cons d u =>
      dsimp only
      rw [hu d List.mem_cons_self, if_neg Bool.false_ne_true]
  · rw [hop, List.cons_append, List.cons_append, List.nil_append,
      List.dropWhile_cons_of_neg (by simp [hc])]
    dsimp only
    rw [hd, if_pos rfl]

/-- **A line with one operator comes apart at it.** -/
theorem Operator.piecesAround (op : Operator) {t u : Text} (ht : Plain t) (hu : Plain u) :
    Relation.piecesAround op.text (t ++ (op.text ++ u)) = [t, u] := by
  rcases op.shape with ⟨c, hop, hc⟩ | ⟨c, d, hop, hc, -⟩
  · rw [hop]
    show Text.splitAt c (t ++ c :: u) = _
    rw [Text.splitAt_append u (ht.not_mem hc), Text.splitAt_of_not_mem (hu.not_mem hc)]
  · rw [hop]
    show Text.splitAtPair c d (t ++ c :: d :: u) = _
    rw [Text.splitAtPair_append u (ht.not_mem hc), Text.splitAtPair_of_not_mem (hu.not_mem hc)]

/-! ## Constraints -/

/-- A name, at least one term, an operator and a value. -/
structure Constraint where
  name : GivenName
  terms : List SignedTerm
  ne_nil : terms ≠ []
  operator : Operator
  rhs : Value

namespace Constraint

/-- What stands behind the name and the colon. -/
def body (c : Constraint) : Text :=
  expression c.terms ++ ' ' :: (c.operator.text ++ ' ' :: c.rhs.text)

/-- The constraint as it is written. -/
def text (c : Constraint) : Text := c.name.text ++ ':' :: (' ' :: c.body)

/-- The constraint that is meant, on the line of a number. -/
def constraint (c : Constraint) (n : Nat) : LinearProgram.Constraint where
  name := c.name.text
  line := n
  coefficients := coefficients c.terms
  relation := c.operator.relation
  rhs := c.rhs.number

/-- The names that the constraint mentions. -/
def mentions (c : Constraint) : List Text := c.terms.map fun t => t.name.text

theorem expression_ne_nil (c : Constraint) : expression c.terms ≠ [] := by
  cases hterms : c.terms with
  | nil => exact absurd hterms c.ne_nil
  | cons t ts => exact expression_cons_ne_nil t ts

theorem isTrimmed_body (c : Constraint) : c.body.IsTrimmed := by
  have hbody : c.body =
      expression c.terms ++ ((' ' :: c.operator.text ++ [' ']) ++ c.rhs.text) := by
    simp [body]
  rw [hbody]
  exact isTrimmed_append _ (isTrimmed_expression _) c.rhs.isTrimmed c.expression_ne_nil c.rhs.ne_nil

theorem body_ne_nil (c : Constraint) : c.body ≠ [] :=
  fun h => c.expression_ne_nil (List.append_eq_nil_iff.mp h).1

theorem isLine (c : Constraint) : IsLine c.text where
  isTrimmed :=
    isTrimmed_append [':', ' '] c.name.isWord.isTrimmed c.isTrimmed_body c.name.isWord.ne_nil
      c.body_ne_nil
  unbroken a ha := by
    have hoperator : ∀ a ∈ c.operator.text, a ≠ '\\' ∧ a ≠ '\n' := by
      have hrelational : ∀ {a : Char}, Relation.isRelational a = true → a ≠ '\\' ∧ a ≠ '\n' := by
        intro a h
        constructor <;> rintro rfl <;> exact absurd h (by decide)
      intro a ha
      rcases c.operator.shape with ⟨d, hop, hd⟩ | ⟨d, e, hop, hd, he⟩
      · rw [hop] at ha
        rw [List.mem_singleton.mp ha]
        exact hrelational hd
      · rw [hop] at ha
        rcases List.mem_cons.mp ha with rfl | ha
        · exact hrelational hd
        · rw [List.mem_singleton.mp ha]
          exact hrelational he
    have hterms : ∀ a ∈ expression c.terms, isStructural a = false := by
      intro a ha
      cases hts : c.terms with
      | nil => exact absurd hts c.ne_nil
      | cons t ts =>
        rw [hts] at ha
        apply not_isStructural_behind (t :: ts)
        rw [behind_cons]
        exact List.mem_cons_of_mem _ ha
    -- name, colon, space, terms, space, operator, space, value
    simp only [text, body, List.mem_append, List.mem_cons] at ha
    rcases ha with ha | rfl | rfl | ha | rfl | ha | rfl | ha
    · exact unbroken_of_not_isStructural (c.name.not_isStructural ha)
    · decide
    · decide
    · exact unbroken_of_not_isStructural (hterms a ha)
    · decide
    · exact hoperator a ha
    · decide
    · exact unbroken_of_not_isStructural (c.rhs.not_isStructural ha)

/-- **The body is read as terms, relation and value.** -/
theorem read_body (c : Constraint) :
    ConstraintLine.read c.body =
      .ok (.both (expression c.terms) c.operator.relation c.rhs.number) := by
  have hfront : Plain (expression c.terms ++ [' ']) := (plain_expression _).append plain_space
  have hback : Plain ([' '] ++ c.rhs.text) := plain_space.append c.rhs.plain
  have hbody : c.body =
      (expression c.terms ++ [' ']) ++ (c.operator.text ++ ([' '] ++ c.rhs.text)) := by
    simp [body]
  have htrimFront : (expression c.terms ++ [' ']).trim = expression c.terms := by
    rw [Text.trim_append_of_blank _ (by decide)]
    exact (isTrimmed_expression _).trim_eq
  have htrimBack : Text.trim ([' '] ++ c.rhs.text) = c.rhs.text := by
    rw [List.singleton_append, Text.trim_cons_of_blank _ (by decide)]
    exact c.rhs.isTrimmed.trim_eq
  have hexpression : (! (expression c.terms).isEmpty) = true := by
    rw [List.isEmpty_eq_false_iff.mpr c.expression_ne_nil]
    rfl
  have hrhs : (! c.rhs.text.isEmpty) = true := by
    rw [List.isEmpty_eq_false_iff.mpr c.rhs.ne_nil]
    rfl
  -- no piece is blank, so that none is dropped
  have hpieces : ConstraintLine.pieces c.operator.text c.body =
      [expression c.terms, c.rhs.text] := by
    unfold ConstraintLine.pieces
    rw [hbody, c.operator.piecesAround hfront hback, List.map_cons, List.map_cons, List.map_nil,
      htrimFront, htrimBack]
    simp only [List.filter_cons, hexpression, hrhs, if_true, List.filter_nil]
  have hfirst : Relation.firstOperator? c.body = some c.operator.text := by
    rw [hbody]
    exact c.operator.firstOperator? hfront hback
  unfold ConstraintLine.read
  rw [hfirst]
  dsimp only
  rw [c.operator.known]
  dsimp only
  rw [hpieces]
  unfold ConstraintLine.ofPieces
  dsimp only
  rw [c.rhs.read]

/-- What becomes of a draft, the constraint standing on the line of a number. -/
def added (c : Constraint) (n : Nat) (d : Draft) : Draft :=
  { d with
    constraints := d.constraints ++ [c.constraint n]
    table := d.table.registerAll c.mentions }

theorem coefficients_ne_nil (c : Constraint) : coefficients c.terms ≠ [] := by
  rw [← ofTerms_term]
  intro h
  have hnames := Coefficients.names_ofTerms (c.terms.map SignedTerm.term)
  rw [h] at hnames
  cases hterms : c.terms with
  | nil => exact c.ne_nil hterms
  | cons t ts =>
    have hmem : t.name.text ∈
        Mention.collect [] ((c.terms.map SignedTerm.term).map Term.name) := by
      rw [Mention.mem_collect, hterms]
      exact Or.inr List.mem_cons_self
    rw [← hnames] at hmem
    exact absurd hmem List.not_mem_nil

/-- The constraint can be closed: it has a name, a line and a left-hand side. -/
theorem close_eq (c : Constraint) {n : Nat} (hn : 0 < n) :
    Constraint.Open.close
        { name := c.name.text, line := n, coefficients := coefficients c.terms }
        c.operator.relation c.rhs.number = .ok (c.constraint n) := by
  have hline : ¬ ((n : Int) ≤ 0) := by omega
  have hcoefficients : (coefficients c.terms).isEmpty = false :=
    List.isEmpty_eq_false_iff.mpr c.coefficients_ne_nil
  unfold Constraint.Open.close
  dsimp only
  rw [c.name.isBlankOnly_text, if_neg (by decide), if_neg hline, hcoefficients, if_neg (by decide)]
  rfl

/-- **The step of a constraint's line adds the constraint**, if none is open. -/
theorem step_text (c : Constraint) {n : Nat} (hn : 0 < n) (d : Draft) :
    (Constraints.step n c.text { draft := d }).verdict = .more { draft := c.added n d } := by
  have hne : c.text ≠ [] := fun h => c.name.isWord.ne_nil (List.append_eq_nil_iff.mp h).1
  have hsection := (c.name.not_keyword (' ' :: c.body)).2
  have hsplit := c.name.splitName (' ' :: c.body)
  rw [Text.trim_cons_of_blank _ (by decide), c.isTrimmed_body.trim_eq] at hsplit
  have hbody : c.body.isEmpty = false := List.isEmpty_eq_false_iff.mpr c.body_ne_nil
  rw [Constraints.verdict_step hne]
  unfold Constraints.line
  rw [show Keyword.section? c.text = none from hsection]
  dsimp only
  rw [show ConstraintLine.splitName c.text = _ from hsplit]
  dsimp only
  rw [hbody, if_neg (by decide)]
  -- the name has opened a constraint, which the body adds to and closes
  unfold Constraints.addBody
  dsimp only
  rw [c.read_body]
  dsimp only [Constraints.target?, Option.getD_some]
  unfold Constraints.contribute Constraints.addExpression
  dsimp only
  rw [terms_text]
  dsimp only
  unfold Constraints.close Constraint.Open.merge
  dsimp only
  rw [ofTerms_term, merge_coefficients, c.close_eq hn]
  have hmentions : (c.terms.map SignedTerm.term).map Term.name = c.mentions := List.map_map
  unfold Draft.mention
  rw [hmentions]
  rfl

end Constraint

end LinearProgram.Written

/-
  Expression — signed terms, written and read.

  1. **Terms** — a term is a sign, a coefficient if one is written, and the name of a variable. All
     of its parts are separated by single spaces, and so are the terms of an expression.

  2. **Tokens** — the tokens of a written expression are, for each term, its sign and the rest of it
     (`ofExpression_text`). The proof goes from sign to sign: the scan passes over a coefficient and
     a name and stops at the next sign, or at the end, with nothing but this one term in between.

  3. **Terms again** — so the terms that are read are those that were written (`terms_text`).
-/

import LinearProgram.ConstraintLine
import LinearProgram.Expression.Term
import LinearProgram.Proofs.Written.Scan

namespace LinearProgram.Written

/-! ## Names -/

/-- A text that is a name. -/
structure GivenName where
  text : Text
  isName : Name.isName text = true

/-- A name that is not spelled, in any case, like a keyword that begins a section or like an
    infinity. -/
structure VariableName extends GivenName where
  unreserved : text.lower ∉ Keyword.sectionSpellings.map Prod.fst ++
    (Quantity.positiveInfinities ++ Quantity.negativeInfinities)

/-- A character of a name is neither blank nor a digit of a coefficient, nor one of the characters
    that documents are structured by. -/
theorem inner_spec {c : Char} (h : Name.isInner c = true) :
    Text.isBlank c = false ∧ Sign.ofChar? c = none ∧ Relation.isRelational c = false ∧
      c ≠ ':' ∧ c ≠ '\\' ∧ c ≠ '\n' := by
  have hlt := Name.toNat_lt_of_isInner h
  revert h
  exact Text.forall_ascii hlt (by decide)

theorem initial_spec {c : Char} (h : Name.isInitial c = true) :
    Text.isDigitLike c = false ∧ c ≠ '.' ∧ c ≠ '+' ∧ c ≠ '-' := by
  have hlt : c.toNat < 0x80 := Name.toNat_lt_of_isInner (by simp [Name.isInner, h])
  revert h
  exact Text.forall_ascii hlt (by decide)

namespace GivenName

theorem eq_cons (x : GivenName) :
    ∃ c t, x.text = c :: t ∧ Name.isInitial c = true ∧ t.all Name.isInner = true := by
  have h := x.isName
  cases ht : x.text with
  | nil =>
    rw [ht] at h
    cases h
  | cons c t =>
    rw [ht] at h
    have hand : (Name.isInitial c && t.all Name.isInner) = true := h
    rw [Bool.and_eq_true] at hand
    exact ⟨c, t, rfl, hand.1, hand.2⟩

theorem isInner_of_mem (x : GivenName) {c : Char} (h : c ∈ x.text) : Name.isInner c = true := by
  obtain ⟨d, t, ht, hd, hall⟩ := x.eq_cons
  rw [ht] at h
  rcases List.mem_cons.mp h with rfl | h
  · simp [Name.isInner, hd]
  · exact List.all_eq_true.mp hall c h

/-- A name is a word. -/
theorem isWord (x : GivenName) : x.text.IsWord where
  ne_nil h0 := by
    obtain ⟨c, t, ht, -⟩ := x.eq_cons
    rw [h0] at ht
    cases ht
  not_blank _ hc := (inner_spec (x.isInner_of_mem hc)).1

theorem ascii (x : GivenName) : ∀ c ∈ x.text, c.toNat < 0x80 :=
  fun _ hc => Name.toNat_lt_of_isInner (x.isInner_of_mem hc)

/-- A name is read as itself, with blanks around it or without. -/
theorem read_of_trim (x : GivenName) {t : Text} (h : t.trim = x.text) :
    Name.read t = .ok x.text := by
  unfold Name.read
  rw [h, if_pos x.isName]

theorem read_text (x : GivenName) : Name.read x.text = .ok x.text :=
  x.read_of_trim x.isWord.isTrimmed.trim_eq

theorem read_space_text (x : GivenName) : Name.read (' ' :: x.text) = .ok x.text := by
  apply x.read_of_trim
  rw [Text.trim_cons_of_blank _ (by decide)]
  exact x.isWord.isTrimmed.trim_eq

/-- No coefficient ends before the first character of a name. -/
theorem numericSplit?_text (x : GivenName) : Addend.numericSplit? x.text = some ([], x.text) := by
  obtain ⟨c, t, ht, hc, -⟩ := x.eq_cons
  obtain ⟨hdigit, hpoint, -, -⟩ := initial_spec hc
  unfold Addend.numericSplit?
  rw [ht, Addend.splitFrom]
  have hstep : Addend.Scan.step .opening c t = none := by
    unfold Addend.Scan.step
    rw [if_neg (by simp [hdigit]), if_neg hpoint, if_neg (by simp), if_neg (by simp)]
  rw [hstep]

theorem isNumeric_text (x : GivenName) : Addend.isNumeric x.text = false := by
  unfold Addend.isNumeric
  rw [x.numericSplit?_text]
  rfl

/-- A name alone is an addend with the coefficient one. -/
theorem read_addend (x : GivenName) : Addend.read x.text = .ok (1.0, x.text) := by
  unfold Addend.read
  rw [x.numericSplit?_text]
  dsimp only
  rw [x.read_text]

end GivenName

/-! ## Terms -/

/-- A sign, a coefficient if one is written, and a variable. -/
structure SignedTerm where
  sign : Sign
  coefficient? : Option Coefficient
  name : VariableName

namespace SignedTerm

/-- The term behind its sign. -/
def addend (t : SignedTerm) : Text :=
  match t.coefficient? with
  | none => t.name.text
  | some n => n.text ++ ' ' :: t.name.text

/-- The term as it is written. -/
def text (t : SignedTerm) : Text := t.sign.toChar :: ' ' :: t.addend

/-- The term that is meant; a coefficient that is not written is one. -/
def term (t : SignedTerm) : Term where
  value := t.sign.apply (t.coefficient?.elim 1.0 fun n => n.value)
  name := t.name.text

/-- The term's tokens. -/
def tokens (t : SignedTerm) : List Token := [.sign t.sign, .addend t.addend]

theorem read_addend (t : SignedTerm) :
    Addend.read t.addend = .ok (t.coefficient?.elim 1.0 fun n => n.value, t.name.text) := by
  unfold addend
  cases t.coefficient? with
  | none => exact t.name.read_addend
  | some n =>
    obtain ⟨c, u, hn, -⟩ := n.head_text
    unfold Addend.read
    dsimp only
    rw [n.numericSplit?_text, hn]
    dsimp only
    rw [← hn, n.read_text]
    dsimp only
    rw [t.name.read_space_text]
    rfl

/-- Between two signs a term is one addend, whether or not a blank stands behind it. -/
theorem addends_addend (t : SignedTerm) :
    Token.addends (' ' :: t.addend) = [.addend t.addend] ∧
      Token.addends (' ' :: t.addend ++ [' ']) = [.addend t.addend] := by
  have hname := t.name.isWord
  have hbehind : (t.name.text ++ [' ']).words = [t.name.text] :=
    hname.words_append (by decide) []
  unfold Token.addends
  rw [List.cons_append, Text.words_cons_of_blank _ (by decide),
    Text.words_cons_of_blank _ (by decide)]
  unfold addend
  cases t.coefficient? with
  | none =>
    dsimp only
    rw [hname.words, hbehind, Token.addendsFrom, t.name.isNumeric_text]
    exact ⟨rfl, rfl⟩
  | some n =>
    dsimp only
    rw [List.append_assoc, List.cons_append, n.isWord_text.words_append (by decide),
      n.isWord_text.words_append (by decide), hname.words, hbehind, Token.addendsFrom,
      n.isNumeric_text]
    exact ⟨rfl, rfl⟩

/-- The scan for signs passes over a term behind its sign. -/
theorem ofExpressionFrom_addend (t : SignedTerm) (rest : Text) :
    Token.ofExpressionFrom [] (' ' :: (t.addend ++ rest)) =
      Token.ofExpressionFrom (' ' :: t.addend) rest := by
  have hname : ∀ c ∈ ' ' :: t.name.text, Sign.ofChar? c = none := by
    intro c hc
    rcases List.mem_cons.mp hc with rfl | hc
    · decide
    · exact (inner_spec (t.name.isInner_of_mem hc)).2.1
  unfold addend
  cases t.coefficient? with
  | none => exact Token.ofExpressionFrom_append hname [] rest
  | some n =>
    dsimp only
    show Token.ofExpressionFrom [] ([' '] ++ (n.text ++ ' ' :: t.name.text ++ rest)) = _
    rw [Token.ofExpressionFrom_append ofChar?_space, List.nil_append, List.append_assoc,
      n.ofExpressionFrom_text rfl, Token.ofExpressionFrom_append hname]
    rfl

end SignedTerm

/-! ## Expressions -/

/-- Terms behind other text, each with a space in front. -/
def behind (ts : List SignedTerm) : Text := ts.flatMap fun t => ' ' :: t.text

/-- An expression as it is written. -/
def expression (ts : List SignedTerm) : Text := Text.join [' '] (ts.map SignedTerm.text)

theorem expression_cons (t : SignedTerm) (ts : List SignedTerm) :
    expression (t :: ts) = t.text ++ behind ts := by
  induction ts generalizing t with
  | nil => exact (List.append_nil _).symm
  | cons u ts ih =>
    show t.text ++ [' '] ++ expression (u :: ts) = t.text ++ behind (u :: ts)
    rw [ih, List.append_assoc]
    rfl

/-- From one sign to the next, and so on to the end. -/
theorem ofExpressionFrom_behind (t : SignedTerm) (ts : List SignedTerm) :
    Token.ofExpressionFrom [] (' ' :: (t.addend ++ behind ts)) =
      .addend t.addend :: ts.flatMap SignedTerm.tokens := by
  induction ts generalizing t with
  | nil =>
    rw [t.ofExpressionFrom_addend]
    exact t.addends_addend.1
  | cons u ts ih =>
    -- the blank behind a term keeps the next sign from it
    have hends : Token.endsInMark (' ' :: t.addend ++ [' ']) = false :=
      Token.endsInMark_append_blank _ (by decide)
    rw [t.ofExpressionFrom_addend]
    show Token.ofExpressionFrom (' ' :: t.addend)
      ([' '] ++ u.sign.toChar :: (' ' :: (u.addend ++ behind ts))) = _
    rw [Token.ofExpressionFrom_append ofChar?_space, Token.ofExpressionFrom_sign hends, t.addends_addend.2, ih]
    rfl

/-- **The tokens of a written expression are those of its terms.** -/
theorem ofExpression_text (ts : List SignedTerm) :
    Token.ofExpression (expression ts) = ts.flatMap SignedTerm.tokens := by
  cases ts with
  | nil => rfl
  | cons t ts =>
    rw [expression_cons]
    show Token.ofExpressionFrom [] (t.sign.toChar :: (' ' :: (t.addend ++ behind ts))) = _
    rw [Token.ofExpressionFrom, Sign.ofChar?_toChar]
    show Token.addends [] ++ .sign t.sign :: _ = _
    rw [ofExpressionFrom_behind]
    rfl

theorem termsFrom_tokens (ts : List SignedTerm) (sign : Option Sign) :
    Expression.termsFrom sign (ts.flatMap SignedTerm.tokens) = (ts.map SignedTerm.term, none) := by
  induction ts generalizing sign with
  | nil => cases sign <;> rfl
  | cons t ts ih =>
    show Expression.termsFrom sign
      (.sign t.sign :: .addend t.addend :: ts.flatMap SignedTerm.tokens) = _
    rw [Expression.termsFrom, Expression.termsFrom, t.read_addend]
    dsimp only
    rw [ih]
    rfl

/-- **The terms that are read are the terms that were written.** -/
theorem terms_text (ts : List SignedTerm) :
    Expression.terms (expression ts) = (ts.map SignedTerm.term, none) := by
  unfold Expression.terms
  rw [ofExpression_text, termsFrom_tokens]

end LinearProgram.Written

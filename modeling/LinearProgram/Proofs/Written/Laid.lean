/-
  Laid — expressions written with any blanks, or none, around their signs.

  1. **Terms** — a sign, a coefficient if one is written, and a name, which may be any name: one that
     begins like an exponent or is spelled like a keyword or an infinity as well. Only a coefficient
     is kept apart from its name. The first sign of an expression is left out if it is plus.

  2. **Tokens** — behind a term comes a sign, or nothing but blanks. The scan for signs goes from one
     of these signs to the next, and makes a sign and an addend of each term
     (`ofExpressionFrom_text`).

  3. **Reading** — so what is read is what was written: the names in the order of first mention, each
     with the sum of its signed coefficients (`Laid.read_text_eq_sums`). In `Meaning` this sum is one
     of additions and subtractions.
-/

import LinearProgram.Proofs.Written.Layout

namespace LinearProgram.Written

/-! ## Terms -/

/-- Any number of blanks, or none. -/
structure Blanks where
  text : Text
  isBlankOnly : text.isBlankOnly = true

/-- A coefficient, and the blanks that keep it apart from its name. -/
structure LaidCoefficient extends Coefficient where
  gap : Blanks
  apart : gap.text ≠ []

/-- A signed term, with the blanks in front of its sign and behind it. -/
structure LaidTerm where
  front : Blanks
  sign : Sign
  gap : Blanks
  coefficient? : Option LaidCoefficient
  name : GivenName

namespace LaidTerm

/-- The term behind its sign, as it is written. -/
def unsigned (t : LaidTerm) : Text :=
  match t.coefficient? with
  | none => t.name.text
  | some n => n.text ++ (n.gap.text ++ t.name.text)

/-- The term with the text of its sign, as it is written. -/
def textWith (t : LaidTerm) (sign : Text) : Text :=
  t.front.text ++ (sign ++ (t.gap.text ++ t.unsigned))

/-- The term as it is written behind another one. -/
def text (t : LaidTerm) : Text := t.textWith [t.sign.toChar]

/-- The term as it is written in front of all others: without its sign if that is plus. -/
def firstText (t : LaidTerm) : Text := t.textWith (if t.sign = .plus then [] else [t.sign.toChar])

/-- The term that is meant; a coefficient that is not written is one. -/
def term (t : LaidTerm) : Term where
  value := t.sign.apply (t.coefficient?.elim 1.0 fun n => n.value)
  name := t.name.text

/-- The addend that is made of the term: whatever blanks were written, one is left. -/
def addend (t : LaidTerm) : Text :=
  match t.coefficient? with
  | none => t.name.text
  | some n => n.text ++ ' ' :: t.name.text

/-- The term's tokens. -/
def tokens (t : LaidTerm) : List Token := [.sign t.sign, .addend t.addend]

theorem text_append (t : LaidTerm) (rest : Text) :
    t.text ++ rest =
      t.front.text ++ t.sign.toChar :: (t.gap.text ++ (t.unsigned ++ rest)) := by
  unfold text textWith
  simp only [List.append_assoc, List.cons_append, List.nil_append]

theorem read_addend (t : LaidTerm) :
    Addend.read t.addend = .ok (t.coefficient?.elim 1.0 fun n => n.value, t.name.text) := by
  unfold addend
  cases t.coefficient? with
  | none => exact t.name.read_addend
  | some n =>
    dsimp only
    rw [n.read_addend_name, n.read_text]
    rfl

end LaidTerm

/-- An expression: its terms, and the blanks behind the last one. -/
structure Laid where
  terms : List LaidTerm
  back : Blanks

namespace Laid

/-- The expression as it is written. -/
def text (e : Laid) : Text :=
  match e.terms with
  | [] => e.back.text
  | t :: ts => t.firstText ++ (ts.flatMap LaidTerm.text ++ e.back.text)

/-- The terms that are meant. -/
def meant (e : Laid) : List Term := e.terms.map LaidTerm.term

end Laid

/-! ## Tokens -/

open Token (ofExpressionFrom)

/-- Behind a term comes the sign of the next one, or the end. -/
theorem signNext_laid (ts : List LaidTerm) (back : Blanks) :
    SignNext (ts.flatMap LaidTerm.text ++ back.text) := by
  cases ts with
  | nil => exact ⟨back.text, back.isBlankOnly, Or.inl rfl⟩
  | cons t ts =>
    rw [List.flatMap_cons, List.append_assoc, t.text_append]
    exact ⟨t.front.text, t.front.isBlankOnly, Or.inr ⟨t.sign, _, rfl⟩⟩

namespace LaidTerm

/-- **The scan of one term**, from behind its sign up to the next sign or the end. -/
theorem ofExpressionFrom_unsigned (t : LaidTerm) {gap rest : Text} (hgap : gap.isBlankOnly = true)
    (hrest : SignNext rest) :
    ofExpressionFrom [] (gap ++ (t.unsigned ++ rest)) =
      .addend t.addend :: ofExpressionFrom [] rest := by
  unfold unsigned addend
  cases t.coefficient? with
  | none => exact ofExpressionFrom_name_rest t.name hgap hrest
  | some n =>
    dsimp only
    rw [List.append_assoc, List.append_assoc]
    exact ofExpressionFrom_literal_rest n.toNumeral t.name hgap n.gap.isBlankOnly n.apart hrest

theorem ofExpressionFrom_text (t : LaidTerm) {rest : Text} (hrest : SignNext rest) :
    ofExpressionFrom [] (t.text ++ rest) = t.tokens ++ ofExpressionFrom [] rest := by
  rw [t.text_append, ofExpressionFrom_gap_sign t.front.isBlankOnly,
    t.ofExpressionFrom_unsigned t.gap.isBlankOnly hrest]
  rfl

/-- A plus that is left out is no token. -/
theorem ofExpressionFrom_firstText (t : LaidTerm) {rest : Text} (hrest : SignNext rest) :
    ofExpressionFrom [] (t.firstText ++ rest) =
      (if t.sign = .plus then [.addend t.addend] else t.tokens) ++ ofExpressionFrom [] rest := by
  unfold firstText
  by_cases hsign : t.sign = .plus
  · have htext : t.textWith [] ++ rest =
        (t.front.text ++ t.gap.text) ++ (t.unsigned ++ rest) := by
      unfold textWith
      simp only [List.append_assoc, List.nil_append]
    have hgap : (t.front.text ++ t.gap.text).isBlankOnly = true := by
      unfold Text.isBlankOnly
      rw [List.all_append, Bool.and_eq_true]
      exact ⟨t.front.isBlankOnly, t.gap.isBlankOnly⟩
    rw [if_pos hsign, if_pos hsign, htext, t.ofExpressionFrom_unsigned hgap hrest]
    rfl
  · rw [if_neg hsign, if_neg hsign]
    exact t.ofExpressionFrom_text hrest

end LaidTerm

/-- **From sign to sign**: each term is a sign and an addend. -/
theorem ofExpressionFrom_laid (ts : List LaidTerm) (back : Blanks) :
    ofExpressionFrom [] (ts.flatMap LaidTerm.text ++ back.text) =
      ts.flatMap LaidTerm.tokens := by
  induction ts with
  | nil =>
    have hscan := Token.ofExpressionFrom_gap back.isBlankOnly [] []
    rw [List.append_nil, List.nil_append] at hscan
    exact hscan.trans (Token.addends_of_blankOnly back.isBlankOnly)
  | cons t ts ih =>
    rw [List.flatMap_cons, List.append_assoc, t.ofExpressionFrom_text (signNext_laid ts back), ih,
      List.flatMap_cons]

/-! ## Reading -/

open Expression (termsFrom termsFrom_addend_eq)

theorem termsFrom_laid (ts : List LaidTerm) (sign : Option Sign) :
    termsFrom sign (ts.flatMap LaidTerm.tokens) = (ts.map LaidTerm.term, none) := by
  induction ts generalizing sign with
  | nil => cases sign <;> rfl
  | cons t ts ih =>
    show termsFrom sign (.sign t.sign :: .addend t.addend :: ts.flatMap LaidTerm.tokens) = _
    rw [termsFrom, termsFrom_addend_eq t.read_addend, ih none]
    rfl

namespace Laid

/-- The terms that are read are the terms that are meant. -/
theorem terms_text (e : Laid) : Expression.terms e.text = (e.meant, none) := by
  unfold Expression.terms Token.ofExpression text meant
  cases e.terms with
  | nil =>
    have htokens := ofExpressionFrom_laid [] e.back
    rw [List.flatMap_nil, List.nil_append] at htokens
    dsimp only
    rw [htokens]
    rfl
  | cons t ts =>
    dsimp only
    rw [t.ofExpressionFrom_firstText (signNext_laid ts e.back), ofExpressionFrom_laid]
    by_cases hsign : t.sign = .plus
    · -- the sign that waits at the start is the one that is left out
      rw [if_pos hsign, List.singleton_append, ← hsign, termsFrom_addend_eq t.read_addend,
        termsFrom_laid]
      rfl
    · rw [if_neg hsign]
      exact termsFrom_laid (t :: ts) (some .plus)

/-- **Reading undoes writing**, in every layout: the coefficients are those of the names, in the
    order in which they are first written, and each is the sum of the signed coefficients that are
    written in front of that name, from left to right and beginning with zero. -/
theorem read_text_eq_sums (e : Laid) :
    Expression.read e.text =
      .ok ((e.terms.map fun t => t.name.text).eraseDups.map fun name =>
        (name, Coefficients.sumOf e.meant name)) := by
  have hnames : e.meant.map Term.name = e.terms.map fun t => t.name.text := List.map_map
  unfold Expression.read
  rw [e.terms_text, ← hnames, ← Coefficients.ofTerms_eq]

/-- A variable that is called like an exponent mark, and a minus directly behind its name. -/
example :
    let two : LaidCoefficient :=
      { whole := "2".toList
        fraction? := none
        exponent? := none
        isDigits_whole := List.forall_mem_singleton.mpr rfl
        isDigits_fraction := nofun
        ne_nil := List.cons_ne_nil _ _
        finite := by decide +kernel
        gap := ⟨" ".toList, by decide⟩
        apart := List.cons_ne_nil _ _ }
    let empty : Blanks := ⟨[], rfl⟩
    Laid.text
        { terms :=
            [⟨empty, .plus, empty, some two, ⟨"e".toList, by decide⟩⟩,
              ⟨empty, .minus, empty, some two, ⟨"x".toList, by decide⟩⟩]
          back := empty } = "2 e-2 x".toList ∧
      Expression.read "2 e-2 x".toList = .ok [("e".toList, 2.0), ("x".toList, -2.0)] := by
  decide +kernel

end Laid

end LinearProgram.Written

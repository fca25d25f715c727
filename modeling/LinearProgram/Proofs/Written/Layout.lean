/-
  Layout — expressions as they may be laid out: piece by piece, with any blanks in between.

  1. **Pieces** — signs, literals and names. Blanks may stand around each of them and need not,
     except that a literal is kept apart from what follows it.

  2. **Tokens** — whatever the blanks are, the pieces alone decide on the tokens, and so on the
     terms (`Lays.terms`). The scan for signs is followed from sign to sign.

  3. **Ends** — a sign that ends a text is forgotten. Pieces that are cut into two texts are
     therefore read as if the sign at the end of the first one, if there is one, were plus
     (`termsFrom_heard_append`). Of pieces that say terms the first part says terms as well, unless
     it ends with a literal (`exists_termsFrom_left`).
-/

import LinearProgram.Proofs.Expression.Meaning
import LinearProgram.Proofs.Written.Constraint
import Mathlib.Data.List.Chain

namespace LinearProgram.Written

/-! ## Pieces -/

/-- A name that is spelled, in any case, like none of the keywords behind the direction. -/
structure OrdinaryName extends GivenName where
  opensNothing : Keyword.opensConstraints text = false ∧ Keyword.section? text = none

/-- A piece of an expression. -/
inductive Piece where
  | sign (s : Sign)
  | literal (n : Numeral)
  | name (x : OrdinaryName)

namespace Piece

/-- The piece as it is written. -/
def text : Piece → Text
  | sign s => [s.toChar]
  | literal n => n.text
  | name x => x.text

/-- The variable that the piece names. -/
def mention? : Piece → Option Text
  | name x => some x.text
  | _ => none

/-- May the second piece follow the first one in a list of signed terms? -/
def precedes : Piece → Piece → Bool
  | sign _, sign _ => false
  | sign _, _ => true
  | literal _, name _ => true
  | literal _, _ => false
  | name _, sign _ => true
  | name _, _ => false

/-- The piece, a sign taken for plus. -/
def plussed : Piece → Piece
  | sign _ => sign .plus
  | p => p

/-- Does the text keep apart from the piece in front of it, if that is a literal? -/
def Apart : Piece → Text → Prop
  | literal _, t => ∀ c, t.head? = some c → Text.isBlank c = true
  | _, _ => True

/-- What is left of the text begins as it did, if anything is left. -/
theorem Apart.trimEnd {p : Piece} {t : Text} (h : p.Apart t) : p.Apart t.trimEnd := by
  cases p with
  | sign s => trivial
  | name x => trivial
  | literal n =>
    intro c hc
    obtain ⟨rest, hrest⟩ := Text.trimEnd_isPrefix t
    apply h c
    rw [← hrest, List.head?_append, hc]
    rfl

theorem isWord_text (p : Piece) : p.text.IsWord := by
  cases p with
  | sign s =>
    refine ⟨List.cons_ne_nil _ _, fun c hc => ?_⟩
    rw [List.mem_singleton.mp hc]
    cases s <;> decide
  | literal n => exact n.isWord_text
  | name x => exact x.isWord

theorem not_isStructural (p : Piece) {c : Char} (h : c ∈ p.text) : isStructural c = false := by
  cases p with
  | sign s =>
    rw [List.mem_singleton.mp h]
    cases s <;> decide
  | literal n => exact not_isStructural_of_isPart (n.isPart_of_mem_text h)
  | name x => exact x.not_isStructural h

end Piece

open Piece

/-- Each piece may follow the one in front of it. Lists of signed terms are orderly, and so is every
    stretch of one. -/
def Orderly (ps : List Piece) : Prop := ps.IsChain fun p q => p.precedes q = true

/-- The variables that pieces name. -/
def mentions (ps : List Piece) : List Text := ps.filterMap Piece.mention?

/-- The text lays out the pieces, with any blanks around them. -/
inductive Lays : List Piece → Text → Prop where
  | nil {gap : Text} (hgap : gap.isBlankOnly = true) : Lays [] gap
  | cons {p : Piece} {ps : List Piece} {gap t : Text} (hgap : gap.isBlankOnly = true)
      (hapart : p.Apart t) (h : Lays ps t) : Lays (p :: ps) (gap ++ (p.text ++ t))

namespace Lays

variable {ps : List Piece} {t : Text}

theorem isStructural_or_blank (h : Lays ps t) {c : Char} (hc : c ∈ t) :
    isStructural c = false ∨ Text.isBlank c = true := by
  induction h with
  | nil hgap => exact Or.inr (List.all_eq_true.mp hgap c hc)
  | @cons p ps gap t hgap hapart h ih =>
    rcases List.mem_append.mp hc with hc | hc
    · exact Or.inr (List.all_eq_true.mp hgap c hc)
    · rcases List.mem_append.mp hc with hc | hc
      · exact Or.inl (p.not_isStructural hc)
      · exact ih hc

/-- No colon stands among the pieces. -/
theorem not_mem_colon (h : Lays ps t) : ':' ∉ t := by
  intro hc
  rcases h.isStructural_or_blank hc with hs | hs <;> exact absurd hs (by decide)

/-- No relational character either. -/
theorem plain (h : Lays ps t) : Plain t := by
  intro c hc
  rcases h.isStructural_or_blank hc with hs | hs
  · unfold isStructural at hs
    simp only [Bool.or_eq_false_iff] at hs
    exact hs.2
  · cases hr : Relation.isRelational c with
    | false => rfl
    | true =>
      unfold Relation.isRelational at hr
      simp only [Bool.or_eq_true, beq_iff_eq, or_assoc] at hr
      rcases hr with rfl | rfl | rfl <;> exact absurd hs (by decide)

theorem mem_of_mem (h : Lays ps t) {p : Piece} (hp : p ∈ ps) {c : Char} (hc : c ∈ p.text) :
    c ∈ t := by
  induction h with
  | nil => exact absurd hp List.not_mem_nil
  | cons hgap hapart h ih =>
    rcases List.mem_cons.mp hp with rfl | hp
    · exact List.mem_append_right _ (List.mem_append_left _ hc)
    · exact List.mem_append_right _ (List.mem_append_right _ (ih hp))

theorem blankOnly (h : Lays [] t) : t.isBlankOnly = true := by
  cases h with
  | nil hgap => exact hgap

/-- Blanks are all there is exactly if there are no pieces. -/
theorem isEmpty_trim (h : Lays ps t) : t.trim.isEmpty = ps.isEmpty := by
  cases h with
  | nil hgap =>
    rw [(Text.trim_eq_nil_iff _).mpr hgap]
    rfl
  | cons hgap hapart h =>
    rename_i p _ _ _
    rw [p.isWord_text.trim_append]
    cases hp : p.text with
    | nil => exact absurd hp p.isWord_text.ne_nil
    | cons c u => simp

theorem trimEnd (h : Lays ps t) : Lays ps t.trimEnd := by
  induction h with
  | nil hgap =>
    rw [Text.trimEnd_of_blankOnly hgap]
    exact .nil rfl
  | @cons p ps gap t hgap hapart h ih =>
    rw [p.isWord_text.trimEnd_append]
    exact .cons hgap hapart.trimEnd ih

/-- Blanks at the ends do not belong to the layout. -/
theorem trim (h : Lays ps t) : Lays ps t.trim := by
  cases h with
  | nil hgap =>
    rw [(Text.trim_eq_nil_iff _).mpr hgap]
    exact .nil rfl
  | @cons p ps gap t hgap hapart h =>
    rw [p.isWord_text.trim_append, (Text.trimStart_eq_nil_iff gap).mpr hgap]
    exact .cons rfl hapart.trimEnd h.trimEnd

end Lays

/-! ## Tokens -/

/-- The tokens that pieces make up. -/
def tokens : List Piece → List Token
  | [] => []
  | .sign s :: ps => .sign s :: tokens ps
  | .name x :: ps => .addend x.text :: tokens ps
  | .literal n :: .name x :: ps => .addend (n.text ++ ' ' :: x.text) :: tokens ps
  | .literal n :: ps => .addend n.text :: tokens ps

open Token (ofExpressionFrom endsInMark ofExpressionFrom_gap ofExpressionFrom_append
  ofExpressionFrom_sign endsInMark_of_blankOnly endsInMark_of_mem addends_of_blankOnly)

theorem ofExpressionFrom_name (x : GivenName) (stretch rest : Text) :
    ofExpressionFrom stretch (x.text ++ rest) = ofExpressionFrom (stretch ++ x.text) rest :=
  ofExpressionFrom_append (fun _ hc => (inner_spec (x.isInner_of_mem hc)).2.1) _ _

/-- A blank stretch in front of a sign has no addends. -/
theorem ofExpressionFrom_gap_sign {gap : Text} (hgap : gap.isBlankOnly = true) (s : Sign)
    (rest : Text) :
    ofExpressionFrom [] (gap ++ s.toChar :: rest) = .sign s :: ofExpressionFrom [] rest := by
  rw [ofExpressionFrom_gap hgap, List.nil_append,
    ofExpressionFrom_sign (endsInMark_of_blankOnly hgap), addends_of_blankOnly hgap]
  rfl

/-- Blanks, and then a sign or nothing. -/
def SignNext (t : Text) : Prop :=
  ∃ gap, gap.isBlankOnly = true ∧ (t = gap ∨ ∃ (s : Sign) (rest : Text), t = gap ++ s.toChar :: rest)

/-- A stretch with an addend ends at the next sign, or where the text ends. -/
theorem ofExpressionFrom_rest {stretch addend : Text}
    (hmark : ∀ gap : Text, gap.isBlankOnly = true → endsInMark (stretch ++ gap) = false)
    (haddends : ∀ gap : Text, gap.isBlankOnly = true →
      Token.addends (stretch ++ gap) = [.addend addend])
    {t : Text} (h : SignNext t) :
    ofExpressionFrom stretch t = .addend addend :: ofExpressionFrom [] t := by
  obtain ⟨gap, hgap, rfl | ⟨s, rest, rfl⟩⟩ := h
  · have hscan : ∀ stretch : Text, ofExpressionFrom stretch t = Token.addends (stretch ++ t) := by
      intro stretch
      have happend := ofExpressionFrom_gap hgap stretch []
      rw [List.append_nil] at happend
      exact happend
    rw [hscan, hscan, haddends t hgap, List.nil_append, addends_of_blankOnly hgap]
  · rw [ofExpressionFrom_gap_sign hgap, ofExpressionFrom_gap hgap,
      ofExpressionFrom_sign (hmark gap hgap), haddends gap hgap]
    rfl

theorem Lays.signNext {ps : List Piece} {t : Text} (h : Lays ps t)
    (hps : ∀ p, ps.head? = some p → ∃ s, p = .sign s) : SignNext t := by
  cases h with
  | nil hgap => exact ⟨t, hgap, Or.inl rfl⟩
  | @cons p ps gap t hgap hapart h =>
    obtain ⟨s, rfl⟩ := hps p rfl
    exact ⟨gap, hgap, Or.inr ⟨s, t, rfl⟩⟩

theorem Orderly.tail {p : Piece} {ps : List Piece} (h : Orderly (p :: ps)) : Orderly ps :=
  List.IsChain.tail h

theorem Orderly.precedes {p q : Piece} {ps : List Piece} (h : Orderly (p :: q :: ps)) :
    p.precedes q = true := (List.isChain_cons_cons.mp h).1

/-- Behind a name comes a sign, or nothing. -/
theorem Orderly.head_of_name {x : OrdinaryName} {ps : List Piece} (h : Orderly (.name x :: ps)) :
    ∀ p, ps.head? = some p → ∃ s, p = .sign s := by
  intro p hp
  cases ps with
  | nil => cases hp
  | cons q ps =>
    have hq := h.precedes
    rw [← Option.some.inj hp]
    cases q with
    | sign s => exact ⟨s, rfl⟩
    | literal n => cases hq
    | name y => cases hq

/-- The scan of a name, in front of a sign or the end. -/
theorem ofExpressionFrom_name_rest (x : GivenName) {gap : Text} (hgap : gap.isBlankOnly = true)
    {t : Text} (h : SignNext t) :
    ofExpressionFrom [] (gap ++ (x.text ++ t)) = .addend x.text :: ofExpressionFrom [] t := by
  rw [ofExpressionFrom_gap hgap, ofExpressionFrom_name, List.nil_append]
  apply ofExpressionFrom_rest ?_ ?_ h
  · -- a name does not begin like a number
    intro gap' _
    obtain ⟨c, u, hx, hinitial, -⟩ := x.eq_cons
    obtain ⟨hdigit, hpoint, -, -⟩ := initial_spec hinitial
    have hdecimal : Text.isDecimal c = false := by
      unfold Text.isDigitLike at hdigit
      exact (Bool.or_eq_false_iff.mp hdigit).1
    have htrim : Text.trimStart (gap ++ x.text ++ gap') = c :: (u ++ gap') := by
      rw [List.append_assoc, x.isWord.trimStart_append,
        (Text.trimStart_eq_nil_iff gap).mpr hgap, hx]
      rfl
    unfold endsInMark
    rw [htrim]
    dsimp only
    rw [List.takeWhile_cons_of_neg (by simp [hdecimal]),
      List.dropWhile_cons_of_neg (by simp [hdecimal])]
    split
    · next heq => exact absurd (List.cons.inj heq).1 hpoint
    · rfl
    · next heq _ => cases heq
    · next heq _ => cases heq
  · intro gap' hgap'
    unfold Token.addends
    rw [List.append_assoc, Text.words_append_of_blankOnly _ hgap,
      x.isWord.words_append_of_blankOnly hgap', Token.addendsFrom, x.isNumeric_text]
    rfl

/-- The scan of a literal and a name. -/
theorem ofExpressionFrom_literal_rest (n : Numeral) (x : GivenName) {gap gap' : Text}
    (hgap : gap.isBlankOnly = true) (hgap' : gap'.isBlankOnly = true) (hapart : gap' ≠ [])
    {t : Text} (h : SignNext t) :
    ofExpressionFrom [] (gap ++ (n.text ++ (gap' ++ (x.text ++ t)))) =
      .addend (n.text ++ ' ' :: x.text) :: ofExpressionFrom [] t := by
  rw [ofExpressionFrom_gap hgap, List.nil_append, n.ofExpressionFrom_text hgap,
    ofExpressionFrom_gap hgap', ofExpressionFrom_name]
  cases gap' with
  | nil => exact absurd rfl hapart
  | cons b gap' =>
    have hb : Text.isBlank b = true ∧ Text.isBlankOnly gap' = true := by
      unfold Text.isBlankOnly at hgap' ⊢
      rw [List.all_cons, Bool.and_eq_true] at hgap'
      exact hgap'
    apply ofExpressionFrom_rest ?_ ?_ h
    · -- a blank stands between the literal and the name
      intro gap'' _
      have htrim : b ∈ Text.trimStart (gap ++ n.text ++ b :: gap' ++ x.text ++ gap'') := by
        simp only [List.append_assoc]
        rw [n.isWord_text.trimStart_append]
        simp
      exact endsInMark_of_mem htrim hb.1
    · intro gap'' hgap''
      unfold Token.addends
      simp only [List.append_assoc, List.cons_append]
      rw [Text.words_append_of_blankOnly _ hgap, n.isWord_text.words_append hb.1,
        Text.words_append_of_blankOnly _ hb.2, x.isWord.words_append_of_blankOnly hgap'',
        Token.addendsFrom, n.isNumeric_text]
      rfl

/-- **The pieces alone decide on the tokens.** -/
theorem Lays.ofExpression {ps : List Piece} {t : Text} (h : Lays ps t) (ho : Orderly ps) :
    Token.ofExpression t = tokens ps := by
  unfold Token.ofExpression
  induction ps using tokens.induct generalizing t with
  | case1 =>
    have hscan := ofExpressionFrom_gap h.blankOnly [] []
    rw [List.append_nil, List.nil_append] at hscan
    rw [hscan]
    exact addends_of_blankOnly h.blankOnly
  | case2 s ps ih =>
    cases h with
    | @cons _ _ gap t hgap _ h =>
      show ofExpressionFrom [] (gap ++ s.toChar :: t) = _
      rw [ofExpressionFrom_gap_sign hgap, ih h ho.tail]
      rfl
  | case3 x ps ih =>
    cases h with
    | cons hgap _ h =>
      show ofExpressionFrom [] (_ ++ (x.text ++ _)) = _
      rw [ofExpressionFrom_name_rest x.toGivenName hgap (h.signNext ho.head_of_name),
        ih h ho.tail]
      rfl
  | case4 n x ps ih =>
    cases h with
    | cons hgap hapart h =>
      cases h with
      | @cons _ _ gap' _ hgap' _ h =>
        have hne : gap' ≠ [] := by
          rintro rfl
          obtain ⟨c, u, hx, -⟩ := x.eq_cons
          have hc := hapart c (by
            show (x.text ++ _).head? = _
            rw [hx]
            rfl)
          rw [x.isWord.not_blank c (by rw [hx]; exact List.mem_cons_self)] at hc
          cases hc
        show ofExpressionFrom [] (_ ++ (n.text ++ (gap' ++ (x.text ++ _)))) = _
        rw [ofExpressionFrom_literal_rest n x.toGivenName hgap hgap' hne
          (h.signNext ho.tail.head_of_name), ih h ho.tail.tail]
        rfl
  | case5 n ps hps ih =>
    -- nothing but a name may follow a literal
    have hnil : ps = [] := by
      cases ps with
      | nil => rfl
      | cons q ps =>
        have hq := ho.precedes
        cases q with
        | sign s => cases hq
        | literal m => cases hq
        | name x => exact absurd rfl (hps x ps)
    subst hnil
    cases h with
    | @cons _ _ gap t hgap _ h =>
      have hscan := ofExpressionFrom_gap h.blankOnly (gap ++ n.text) []
      rw [List.append_nil] at hscan
      show ofExpressionFrom [] (gap ++ (n.text ++ t)) = _
      rw [ofExpressionFrom_gap hgap, List.nil_append, n.ofExpressionFrom_text hgap, hscan]
      show Token.addends _ = _
      unfold Token.addends
      rw [List.append_assoc, Text.words_append_of_blankOnly _ hgap,
        n.isWord_text.words_append_of_blankOnly h.blankOnly, Token.addendsFrom, n.isNumeric_text]
      rfl

/-! ## Terms -/

open Expression (termsFrom termsFrom_addend termsFrom_addend_eq)

/-- The terms that pieces say, up to the first cause. -/
def terms (ps : List Piece) : List Term × Option Cause := termsFrom (some .plus) (tokens ps)

/-- **The pieces alone decide on the terms.** -/
theorem Lays.terms {ps : List Piece} {t : Text} (h : Lays ps t) (ho : Orderly ps) :
    Expression.terms t = Written.terms ps := by
  unfold Expression.terms Written.terms
  rw [h.ofExpression ho]

theorem Numeral.read_addend (n : Numeral) : Addend.read n.text = .error (.noVariable n.text) := by
  have hnumeric := n.isNumeric_text
  unfold Addend.isNumeric at hnumeric
  unfold Addend.read
  rw [Option.isNone_iff_eq_none.mp hnumeric]

/-- A literal in front of a name is read as a quantity. -/
theorem Numeral.read_addend_name (n : Numeral) (x : GivenName) :
    Addend.read (n.text ++ ' ' :: x.text) =
      match Quantity.read n.text with
      | .error cause => .error cause
      | .ok v => .ok (v, x.text) := by
  obtain ⟨c, u, hn, -⟩ := n.head_text
  unfold Addend.read
  rw [n.numericSplit?_text, hn]
  dsimp only
  rw [← hn]
  cases Quantity.read n.text with
  | error cause => rfl
  | ok v =>
    dsimp only
    rw [x.read_space_text]

/-- A sign that ends the pieces is plus. -/
def heard : List Piece → List Piece
  | [] => []
  | [p] => [p.plussed]
  | p :: q :: ps => p :: heard (q :: ps)

/-- Pieces that do not end with a minus are heard as they are. -/
theorem heard_eq_self {ps : List Piece} (h : ps.getLast? ≠ some (.sign .minus)) :
    heard ps = ps := by
  induction ps using heard.induct with
  | case1 => rfl
  | case2 p =>
    cases p with
    | sign s =>
      cases s with
      | plus => rfl
      | minus => exact absurd rfl h
    | literal n => rfl
    | name x => rfl
  | case3 p q ps ih =>
    rw [heard, ih]
    rw [List.getLast?_cons_cons] at h
    exact h

/-- Only a sign is heard differently. -/
theorem heard_cons {p : Piece} (hp : p.plussed = p) (ps : List Piece) :
    heard (p :: ps) = p :: heard ps := by
  cases ps with
  | nil =>
    show [p.plussed] = [p]
    rw [hp]
  | cons q ps => rfl

/-- A sign takes the place of the sign that waits. -/
theorem termsFrom_sign (sign : Option Sign) (s : Sign) (ps : List Piece) :
    termsFrom sign (tokens (.sign s :: ps)) = termsFrom (some s) (tokens ps) := by
  rw [tokens, termsFrom]

/-- Where a sign is next, or nothing, the sign that waits does not matter. -/
theorem termsFrom_congr {ps : List Piece} (h : ∀ p, ps.head? = some p → ∃ s, p = .sign s)
    (sign sign' : Option Sign) : termsFrom sign (tokens ps) = termsFrom sign' (tokens ps) := by
  cases ps with
  | nil =>
    show termsFrom sign [] = termsFrom sign' []
    cases sign <;> cases sign' <;> rfl
  | cons p ps =>
    obtain ⟨s, rfl⟩ := h p rfl
    rw [termsFrom_sign, termsFrom_sign]

/-- **Of pieces that are cut in two, the first part is read as it is heard**: the terms of the whole
    are those of the parts, if the sign that the first part may end with is taken for plus. -/
theorem termsFrom_heard_append {row rest : List Piece} {sign : Option Sign} {ts : List Term}
    (ho : Orderly (row ++ rest)) (hrow : termsFrom sign (tokens row) = (ts, none))
    (hnil : row = [] → termsFrom sign (tokens rest) = terms rest) :
    termsFrom sign (tokens (heard row ++ rest)) = (ts ++ (terms rest).1, (terms rest).2) := by
  -- behind an addend no sign waits, but then a sign is next
  have haddend : ∀ {t : Text} {x : OrdinaryName} {ps : List Piece} {sign : Option Sign}
      {ts : List Term}, Orderly (.name x :: (ps ++ rest)) →
      (∀ {sign : Option Sign} {ts : List Term}, Orderly (ps ++ rest) →
        termsFrom sign (tokens ps) = (ts, none) →
        (ps = [] → termsFrom sign (tokens rest) = terms rest) →
        termsFrom sign (tokens (heard ps ++ rest)) = (ts ++ (terms rest).1, (terms rest).2)) →
      termsFrom sign (.addend t :: tokens ps) = (ts, none) →
      termsFrom sign (.addend t :: tokens (heard ps ++ rest)) =
        (ts ++ (terms rest).1, (terms rest).2) := by
    intro t x ps sign ts ho ih hrow
    obtain ⟨s, v, name, ts', rfl, hread, hps, rfl⟩ := termsFrom_addend hrow
    have hrest := ih ho.tail hps (by
      rintro rfl
      exact termsFrom_congr ho.head_of_name _ _)
    rw [termsFrom_addend_eq hread, hrest]
    rfl
  induction row using tokens.induct generalizing sign ts with
  | case1 =>
    have hts : ts = [] := by
      cases sign <;> cases hrow <;> rfl
    rw [hts]
    exact hnil rfl
  | case2 s ps ih =>
    cases ps with
    | nil =>
      have hts : ts = [] := by
        cases hrow
        rfl
      rw [hts]
      exact termsFrom_sign sign .plus rest
    | cons q ps =>
      have hrow' : termsFrom (some s) (tokens (q :: ps)) = (ts, none) := by
        rw [← hrow, termsFrom_sign]
      rw [heard, List.cons_append, termsFrom_sign]
      exact ih ho.tail hrow' fun h => absurd h (List.cons_ne_nil _ _)
  | case3 x ps ih =>
    rw [heard_cons rfl]
    exact haddend ho ih hrow
  | case4 n x ps ih =>
    rw [heard_cons rfl, heard_cons rfl]
    exact haddend ho.tail ih hrow
  | case5 n ps hps ih =>
    -- a literal without a name is no addend
    have hrow' : termsFrom sign (.addend n.text :: tokens ps) = (ts, none) := by
      rw [← hrow, tokens]
      exact hps
    obtain ⟨s, v, name, ts', -, hread, -⟩ := termsFrom_addend hrow'
    rw [n.read_addend] at hread
    cases hread

/-- Pieces say terms if they do so with others behind them, unless they end with a literal. -/
theorem exists_termsFrom_left {row rest : List Piece} {sign : Option Sign} {us : List Term}
    (ho : Orderly (row ++ rest)) (hlast : ∀ n, row.getLast? ≠ some (.literal n))
    (h : termsFrom sign (tokens (row ++ rest)) = (us, none)) :
    ∃ ts, termsFrom sign (tokens row) = (ts, none) := by
  have hbehind : ∀ {p : Piece} {ps : List Piece}, (∀ n, (p :: ps).getLast? ≠ some (.literal n)) →
      ∀ n, ps.getLast? ≠ some (.literal n) := by
    intro p ps h n hn
    apply h n
    rw [List.getLast?_cons, hn]
    rfl
  induction row using tokens.induct generalizing sign us with
  | case1 => exact ⟨[], by cases sign <;> rfl⟩
  | case2 s ps ih =>
    have h' : termsFrom (some s) (tokens (ps ++ rest)) = (us, none) := by
      rw [← h, List.cons_append, termsFrom_sign]
    obtain ⟨ts, hts⟩ := ih ho.tail (hbehind hlast) h'
    refine ⟨ts, ?_⟩
    rw [termsFrom_sign]
    exact hts
  | case3 x ps ih =>
    obtain ⟨s, v, name, ts', rfl, hread, hps, -⟩ := termsFrom_addend h
    obtain ⟨ts, hts⟩ := ih ho.tail (hbehind hlast) hps
    refine ⟨⟨s.apply v, name⟩ :: ts, ?_⟩
    show termsFrom (some s) (.addend x.text :: tokens ps) = _
    rw [termsFrom_addend_eq hread, hts]
  | case4 n x ps ih =>
    obtain ⟨s, v, name, ts', rfl, hread, hps, -⟩ := termsFrom_addend h
    obtain ⟨ts, hts⟩ := ih ho.tail.tail (hbehind (hbehind hlast)) hps
    refine ⟨⟨s.apply v, name⟩ :: ts, ?_⟩
    show termsFrom (some s) (.addend (n.text ++ ' ' :: x.text) :: tokens ps) = _
    rw [termsFrom_addend_eq hread, hts]
  | case5 n ps hps ih =>
    -- nothing but a name may follow the literal, and something does
    cases ps with
    | nil => exact absurd rfl (hlast n)
    | cons q ps =>
      have hq := ho.precedes
      cases q with
      | sign s => cases hq
      | literal n' => cases hq
      | name x => exact absurd rfl (hps x ps)

/-- The terms mention the variables that the pieces name, in order. -/
theorem map_name_termsFrom {ps : List Piece} {sign : Option Sign} {ts : List Term}
    (h : termsFrom sign (tokens ps) = (ts, none)) : ts.map Term.name = mentions ps := by
  induction ps using tokens.induct generalizing sign ts with
  | case1 => cases sign <;> cases h <;> rfl
  | case2 s ps ih =>
    have hps : termsFrom (some s) (tokens ps) = (ts, none) := by
      rw [← h, termsFrom_sign]
    exact ih hps
  | case3 x ps ih =>
    obtain ⟨s, v, name, ts', -, hread, hps, rfl⟩ := termsFrom_addend h
    rw [x.read_addend] at hread
    cases hread
    exact congrArg (x.text :: ·) (ih hps)
  | case4 n x ps ih =>
    obtain ⟨s, v, name, ts', -, hread, hps, rfl⟩ := termsFrom_addend h
    rw [n.read_addend_name] at hread
    have hname : name = x.text := by
      cases hn : Quantity.read n.text with
      | error cause =>
        rw [hn] at hread
        cases hread
      | ok w =>
        rw [hn] at hread
        cases hread
        rfl
    rw [hname]
    exact congrArg (x.text :: ·) (ih hps)
  | case5 n ps hps ih =>
    have h' : termsFrom sign (.addend n.text :: tokens ps) = (ts, none) := by
      rw [← h, tokens]
      exact hps
    obtain ⟨s, v, name, ts', -, hread, -⟩ := termsFrom_addend h'
    rw [n.read_addend] at hread
    cases hread

/-! ## Rows -/

/-- Pieces that are spread over rows, as they are heard: a sign that ends a row is plus. -/
def heardRows (rows : List (List Piece)) : List Piece := (rows.map heard).flatten

theorem map_plussed_heard (ps : List Piece) :
    (heard ps).map Piece.plussed = ps.map Piece.plussed := by
  have htwice : ∀ p : Piece, p.plussed.plussed = p.plussed := by
    intro p
    cases p <;> rfl
  induction ps using heard.induct with
  | case1 => rfl
  | case2 p => exact congrArg (fun q => [q]) (htwice p)
  | case3 p q ps ih =>
    show p.plussed :: (heard (q :: ps)).map Piece.plussed = _
    rw [ih]
    rfl

theorem map_plussed_heardRows (rows : List (List Piece)) :
    (heardRows rows).map Piece.plussed = rows.flatten.map Piece.plussed := by
  induction rows with
  | nil => rfl
  | cons row rows ih =>
    show (heard row ++ heardRows rows).map Piece.plussed = (row ++ rows.flatten).map Piece.plussed
    rw [List.map_append, List.map_append, map_plussed_heard, ih]

/-- Which sign it is does not matter for the order. -/
theorem Orderly.congr {ps qs : List Piece} (h : Orderly ps)
    (hpq : ps.map Piece.plussed = qs.map Piece.plussed) : Orderly qs := by
  have hplussed : ∀ p q : Piece, p.plussed.precedes q.plussed = p.precedes q := by
    intro p q
    cases p <;> cases q <;> rfl
  have hmap : ∀ ps : List Piece, Orderly (ps.map Piece.plussed) ↔ Orderly ps := by
    intro ps
    unfold Orderly
    rw [List.isChain_map]
    simp only [hplussed]
  rw [← hmap, ← hpq, hmap]
  exact h

theorem mentions_congr {ps qs : List Piece} (h : ps.map Piece.plussed = qs.map Piece.plussed) :
    mentions ps = mentions qs := by
  have hmap : ∀ ps : List Piece, mentions (ps.map Piece.plussed) = mentions ps := by
    intro ps
    unfold mentions
    rw [List.filterMap_map]
    congr 1
    funext p
    cases p <;> rfl
  rw [← hmap, h, hmap]

theorem isEmpty_heardRows_cons (row : List Piece) (rows : List (List Piece)) :
    (heardRows (row :: rows)).isEmpty = (row ++ heardRows rows).isEmpty := by
  cases row with
  | nil => rfl
  | cons p ps => cases ps <;> rfl

/-- Where no row ends with a minus, what is heard is what is written. -/
theorem heardRows_eq_flatten {rows : List (List Piece)}
    (h : ∀ row ∈ rows, row.getLast? ≠ some (.sign .minus)) : heardRows rows = rows.flatten := by
  have hmap : rows.map heard = rows := by
    conv_rhs => rw [← List.map_id rows]
    exact List.map_congr_left fun row hrow => heard_eq_self (h row hrow)
  unfold heardRows
  rw [hmap]

/-- **Rows are read one after the other**, each up to its end. -/
theorem terms_heardRows_cons {row : List Piece} {rows : List (List Piece)} {ts : List Term}
    (ho : Orderly (row :: rows).flatten) (hrow : terms row = (ts, none)) :
    terms (heardRows (row :: rows)) =
      (ts ++ (terms (heardRows rows)).1, (terms (heardRows rows)).2) := by
  have hheard : (row ++ rows.flatten).map Piece.plussed =
      (row ++ heardRows rows).map Piece.plussed := by
    rw [List.map_append, List.map_append, map_plussed_heardRows]
  exact termsFrom_heard_append (ho.congr hheard) hrow fun _ => rfl

/-- The terms of several rows are those of the first one and those of the others, if the first one
    ends neither with a minus nor with a literal. -/
theorem exists_terms_of_flatten_cons {row : List Piece} {rows : List (List Piece)} {ts : List Term}
    (ho : Orderly (row :: rows).flatten) (hminus : row.getLast? ≠ some (.sign .minus))
    (hliteral : ∀ n, row.getLast? ≠ some (.literal n))
    (h : terms (row :: rows).flatten = (ts, none)) :
    ∃ us vs, terms row = (us, none) ∧ terms rows.flatten = (vs, none) ∧ ts = us ++ vs := by
  obtain ⟨us, hus⟩ := exists_termsFrom_left ho hliteral h
  have hsplit := termsFrom_heard_append ho hus fun _ => rfl
  rw [heard_eq_self hminus] at hsplit
  have hsame := h.symm.trans hsplit
  exact ⟨us, (terms rows.flatten).1, hus, Prod.ext rfl (congrArg Prod.snd hsame).symm,
    congrArg Prod.fst hsame⟩

end LinearProgram.Written

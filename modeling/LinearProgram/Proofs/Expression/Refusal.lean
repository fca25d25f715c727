/-
  Refusal — at which addend an expression is refused, and what is left of it in the table.

  1. **Addends** — what can be wrong with an addend, in the order in which it is looked for: it has
     no name, its coefficient is no number, its name is none (`Addend.read_eq_error_iff_wrong`).

  2. **Shares** — behind another addend, a sign has to stand in front, and that is looked for before
     everything else (`Share.Wrong`).

  3. **Reading** — the shares are read one after the other, up to the first that is wrong
     (`Expression.read_outcome`). The state of reading is the last of the signs that wait.

  4. **The table** — it gets a fresh column for each name that was read and is new, behind the
     columns that it has; so it does whether the expression is read to its end or refused
     (`Draft.mention_read`).
-/

import LinearProgram.Document.Draft
import LinearProgram.Proofs.Expression.Meaning

namespace LinearProgram

/-! ## Addends -/

/-- What is wrong with an addend: the first of the three that is. -/
inductive Addend.Wrong (a : Text) : Cause → Prop where
  /-- There is no character at which a name could begin. -/
  | noVariable (hsplit : numericSplit? a = none) : Wrong a (.noVariable a)
  /-- What stands in front of the name is no quantity. -/
  | number {front back : Text} (hsplit : numericSplit? a = some (front, back)) (hne : front ≠ [])
      (hfront : ∀ x, Quantity.read front ≠ .ok x) : Wrong a (.invalidNumber front.trim)
  /-- What stands behind the coefficient, if there is one, is no name. -/
  | name {front back : Text} (hsplit : numericSplit? a = some (front, back))
      (hfront : front = [] ∨ ∃ x, Quantity.read front = .ok x)
      (hback : Name.isName back.trim = false) : Wrong a (.invalidName back.trim)

theorem Quantity.read_eq_error_iff (t : Text) (cause : Cause) :
    read t = .error cause ↔ cause = .invalidNumber t.trim ∧ ∀ x, read t ≠ .ok x := by
  constructor
  · intro h
    refine ⟨eq_invalidNumber_of_read h, fun x hx => ?_⟩
    rw [h] at hx
    cases hx
  · rintro ⟨rfl, hx⟩
    cases h : read t with
    | ok x => exact absurd h (hx x)
    | error cause => rw [eq_invalidNumber_of_read h]

/-- **An addend is refused for what is wrong with it.** -/
theorem Addend.read_eq_error_iff_wrong (a : Text) (cause : Cause) :
    read a = .error cause ↔ Wrong a cause := by
  unfold read
  constructor
  · intro h
    split at h
    · next hsplit =>
      cases h
      exact .noVariable hsplit
    · next back hsplit =>
      split at h
      · next hname =>
        cases h
        obtain ⟨rfl, hback⟩ := (Name.read_eq_error_iff back cause).mp hname
        exact .name hsplit (Or.inl rfl) hback
      · cases h
    · next front back hnil hsplit =>
      split at h
      · next hnumber =>
        cases h
        obtain ⟨rfl, hfront⟩ := (Quantity.read_eq_error_iff front cause).mp hnumber
        exact .number hsplit (fun hfront => hnil hfront) hfront
      · next x hnumber =>
        split at h
        · next hname =>
          cases h
          obtain ⟨rfl, hback⟩ := (Name.read_eq_error_iff back cause).mp hname
          exact .name hsplit (Or.inr ⟨x, hnumber⟩) hback
        · cases h
  · intro h
    cases h with
    | noVariable hsplit => rw [hsplit]
    | @number front back hsplit hne hfront =>
      have hnumber := (Quantity.read_eq_error_iff front _).mpr ⟨rfl, hfront⟩
      rw [hsplit]
      cases front with
      | nil => exact absurd rfl hne
      | cons c front =>
        dsimp only
        rw [hnumber]
    | @name front back hsplit hfront hback =>
      have hname := (Name.read_eq_error_iff back _).mpr ⟨rfl, hback⟩
      rw [hsplit]
      cases front with
      | nil =>
        dsimp only
        rw [hname]
      | cons c front =>
        rcases hfront with hnil | ⟨x, hnumber⟩
        · cases hnil
        · dsimp only
          rw [hnumber]
          dsimp only
          rw [hname]

namespace Expression

/-! ## Shares -/

/-- What is wrong with a share, where a sign is needed if it is `behind` another one. -/
inductive Share.Wrong (behind : Bool) (share : Share) : Cause → Prop where
  | missingSign (hbehind : behind = true) (hsigns : share.signs = []) :
      Wrong behind share (.missingSign share.addend)
  | addend {cause : Cause} (hsigns : behind = true → share.signs ≠ [])
      (haddend : Addend.Wrong share.addend cause) : Wrong behind share cause

/-! ## Reading -/

/-- The state of reading: the last of the signs that wait. Without any, the first addend counts as
    having a plus, and a further one as having none. -/
def stateOf (behind : Bool) (signs : List Sign) : Option Sign :=
  if behind then signs.getLast? else some (Sign.last signs)

theorem stateOf_concat (behind : Bool) (signs : List Sign) (s : Sign) :
    stateOf behind (signs ++ [s]) = some s := by
  cases behind with
  | false => exact congrArg some (Sign.last_append_singleton signs s)
  | true => exact List.getLast?_concat

theorem stateOf_eq_none {behind : Bool} {signs : List Sign} (h : stateOf behind signs = none) :
    behind = true ∧ signs = [] := by
  cases behind with
  | false => cases h
  | true => exact ⟨rfl, List.getLast?_eq_none_iff.mp h⟩

theorem stateOf_eq_some {behind : Bool} {signs : List Sign} {s : Sign}
    (h : stateOf behind signs = some s) :
    (behind = true → signs ≠ []) ∧ Sign.last signs = s := by
  cases behind with
  | false => exact ⟨by simp, Option.some.inj h⟩
  | true =>
    have hlast : signs.getLast? = some s := h
    refine ⟨?_, ?_⟩
    · rintro - rfl
      cases hlast
    · unfold Sign.last
      rw [hlast]
      rfl

/-- Shares are read up to one that is wrong; those in front of it say these terms. -/
def RefusedAt (behind : Bool) (shares : List Share) (terms : List Term) (cause : Cause) : Prop :=
  ∃ front share back, shares = front ++ share :: back ∧
    (∀ earlier ∈ if behind then front else front.tail, earlier.signs ≠ []) ∧
    List.Forall₂ (Share.Says Sign.last) front terms ∧ share.Wrong (behind || ! front.isEmpty) cause

theorem RefusedAt.first {behind : Bool} {share : Share} {cause : Cause}
    (h : share.Wrong behind cause) (rest : List Share) :
    RefusedAt behind (share :: rest) [] cause := by
  refine ⟨[], share, rest, rfl, by simp, .nil, ?_⟩
  rw [List.isEmpty_nil, Bool.not_true, Bool.or_false]
  exact h

theorem RefusedAt.next {behind : Bool} {share : Share} {term : Term} {rest : List Share}
    {terms : List Term} {cause : Cause} (hsigns : behind = true → share.signs ≠ [])
    (hterm : share.Says Sign.last term) (h : RefusedAt true rest terms cause) :
    RefusedAt behind (share :: rest) (term :: terms) cause := by
  obtain ⟨front, wrong, back, rfl, hfront, hterms, hwrong⟩ := h
  refine ⟨share :: front, wrong, back, rfl, ?_, .cons hterm hterms, ?_⟩
  · cases behind with
    | false => exact hfront
    | true => exact List.forall_mem_cons.mpr ⟨hsigns rfl, hfront⟩
  · rw [List.isEmpty_cons, Bool.not_false, Bool.or_true]
    exact hwrong

/-- **A refusal is due to the first share that is wrong.** By induction on the tokens; `signs` are
    those that wait. -/
theorem refusedAt_of_termsFrom {behind : Bool} {signs : List Sign} {tokens : List Token}
    {terms : List Term} {cause : Cause}
    (h : termsFrom (stateOf behind signs) tokens = (terms, some cause)) :
    RefusedAt behind (sharesFrom signs tokens) terms cause := by
  induction tokens generalizing behind signs terms with
  | nil => cases hstate : stateOf behind signs <;> rw [hstate] at h <;> cases h
  | cons token tokens ih =>
    cases token with
    | sign s =>
      rw [termsFrom, ← stateOf_concat behind signs s] at h
      rw [sharesFrom]
      exact ih h
    | addend a =>
      rw [sharesFrom]
      cases hstate : stateOf behind signs with
      | none =>
        obtain ⟨hbehind, hsigns⟩ := stateOf_eq_none hstate
        rw [hstate] at h
        cases h
        exact .first (.missingSign hbehind hsigns) _
      | some s =>
        obtain ⟨hsigns, hlast⟩ := stateOf_eq_some hstate
        rw [hstate] at h
        cases hread : Addend.read a with
        | error cause' =>
          rw [termsFrom, hread] at h
          cases h
          have hwrong := (Addend.read_eq_error_iff_wrong a cause).mp hread
          exact .first (.addend hsigns hwrong) _
        | ok read =>
          obtain ⟨x, name⟩ := read
          rw [termsFrom_addend_eq hread] at h
          rcases hrest : termsFrom none tokens with ⟨rest, cause?⟩
          rw [hrest] at h
          cases h
          have hterm : Share.Says Sign.last ⟨signs, a⟩ ⟨s.apply x, name⟩ :=
            ⟨x, (Addend.read_eq_ok_iff a x name).mp hread, by rw [hlast]⟩
          exact .next hsigns hterm (ih hrest)

/-- What comes of reading an expression, where `terms` are what is read of it. -/
inductive Outcome (t : Text) (terms : List Term) : Except Cause Coefficients → Prop where
  /-- Each share says a term, and all but the first have signs. -/
  | read (hsigns : ∀ share ∈ (shares t).tail, share.signs ≠ [])
      (hterms : List.Forall₂ (Share.Says Sign.last) (shares t) terms) :
      Outcome t terms (.ok (.ofTerms terms))
  /-- So it is with the shares in front of the first one that is wrong. -/
  | refused {front back : List Share} {share : Share} {cause : Cause}
      (hshares : shares t = front ++ share :: back)
      (hsigns : ∀ earlier ∈ front.tail, earlier.signs ≠ [])
      (hterms : List.Forall₂ (Share.Says Sign.last) front terms)
      (hwrong : share.Wrong (! front.isEmpty) cause) : Outcome t terms (.error cause)

/-- **What comes of an expression** is settled by its shares. -/
theorem read_outcome (t : Text) : Outcome t (terms t).1 (read t) := by
  unfold read
  rcases hterms : terms t with ⟨ts, cause?⟩
  cases cause? with
  | none =>
    obtain ⟨hsigns, hsays⟩ := (termsFrom_start_iff [] (Token.ofExpression t) ts).mp hterms
    exact .read hsigns hsays
  | some cause =>
    have hrefused : RefusedAt false (shares t) ts cause := refusedAt_of_termsFrom hterms
    obtain ⟨front, share, back, hshares, hsigns, hsays, hwrong⟩ := hrefused
    exact .refused hshares hsigns hsays hwrong

end Expression

/-! ## The table -/

/-- **Reading an expression only adds to the table.** Behind the columns that are there, it gets a
    fresh column for each name that is not registered, in the order of first mention. These are the
    names of all the addends if the expression is read, and then the names of its coefficients;
    otherwise those of the addends in front of the first one that is wrong. -/
theorem Draft.mention_read (d : Draft) (t : Text) :
    ∃ terms : List Term,
      Expression.Outcome t terms (Expression.read t) ∧
      d.mention (Expression.terms t).1 =
        { d with table := d.table ++
            Table.fresh ((terms.map Term.name).eraseDups.removeAll d.table.names) } ∧
      (Coefficients.ofTerms terms).names = (terms.map Term.name).eraseDups := by
  refine ⟨(Expression.terms t).1, Expression.read_outcome t, ?_, ?_⟩
  · unfold mention
    rw [Table.registerAll_eq]
  · rw [Coefficients.names_ofTerms, Mention.collect_nil]

end LinearProgram

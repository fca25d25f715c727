/-
  Meaning — what an expression says, addend by addend.

  1. **Addends** — an addend says a name, and in front of it a quantity, or nothing, which counts as
     one (`Addend.read_eq_ok_iff`).

  2. **Shares** — the addends of an expression, each with the signs between the previous addend, or
     the start, and itself. Signs at the end belong to no addend (`exists_signs_behind`).

  3. **Reading** — a state of reading knows the last of these signs only, and whether there is one.
     So an expression is read exactly if every share but the first has a sign and every addend says
     something; and what is read are the sums of what the addends say, each under the last of its
     signs (`read_eq_ok_iff_means`). Signs in a row are not multiplied.
-/

import LinearProgram.Expression.Term
import LinearProgram.Proofs.Coefficients
import Mathlib.Data.List.Forall2

namespace LinearProgram

/-! ## Addends -/

/-- The addend says the name and the number in front of it, which is one if nothing is there. -/
def Addend.Says (a : Text) (x : Float) (name : Text) : Prop :=
  ∃ front back, numericSplit? a = some (front, back) ∧
    ((front = [] ∧ x = 1.0) ∨ (front ≠ [] ∧ Quantity.read front = .ok x)) ∧
    Name.read back = .ok name

/-- **An addend is read as what it says.** -/
theorem Addend.read_eq_ok_iff (a : Text) (x : Float) (name : Text) :
    read a = .ok (x, name) ↔ Says a x name := by
  unfold Says read
  constructor
  · intro h
    split at h
    · cases h
    · next back hsplit =>
      split at h
      · cases h
      · next hname =>
        cases h
        exact ⟨[], back, hsplit, Or.inl ⟨rfl, rfl⟩, hname⟩
    · next front back hne hsplit =>
      have hfront : front ≠ [] := by
        rintro rfl
        exact hne rfl
      split at h
      · cases h
      · next hquantity =>
        split at h
        · cases h
        · next hname =>
          cases h
          exact ⟨front, back, hsplit, Or.inr ⟨hfront, hquantity⟩, hname⟩
  · rintro ⟨front, back, hsplit, ⟨rfl, rfl⟩ | ⟨hfront, hquantity⟩, hname⟩
    · rw [hsplit]
      dsimp only
      rw [hname]
    · rw [hsplit]
      cases front with
      | nil => exact absurd rfl hfront
      | cons c front =>
        dsimp only
        rw [hquantity]
        dsimp only
        rw [hname]

/-! ## Shares -/

namespace Sign

/-- The last of the signs; plus if there is none. -/
def last (signs : List Sign) : Sign := signs.getLast?.getD plus

/-- The product of the signs. -/
def product (signs : List Sign) : Sign :=
  signs.foldr (fun s t => if s = t then plus else minus) plus

theorem last_append_singleton (signs : List Sign) (s : Sign) : last (signs ++ [s]) = s := by
  unfold last
  rw [List.getLast?_concat]
  rfl

end Sign

namespace Expression

/-- An addend, and the signs between the previous addend, or the start, and itself. -/
structure Share where
  signs : List Sign
  addend : Text
deriving DecidableEq

/-- The share as tokens. -/
def Share.tokens (share : Share) : List Token := share.signs.map .sign ++ [.addend share.addend]

/-- The shares of tokens, with signs in front of them. -/
def sharesFrom (signs : List Sign) : List Token → List Share
  | [] => []
  | .sign s :: tokens => sharesFrom (signs ++ [s]) tokens
  | .addend a :: tokens => ⟨signs, a⟩ :: sharesFrom [] tokens

/-- The shares of an expression. -/
def shares (t : Text) : List Share := sharesFrom [] (Token.ofExpression t)

theorem exists_signs_behind_from (signs : List Sign) (tokens : List Token) :
    ∃ left : List Sign, signs.map Token.sign ++ tokens =
      (sharesFrom signs tokens).flatMap Share.tokens ++ left.map Token.sign := by
  induction tokens generalizing signs with
  | nil => exact ⟨signs, List.append_nil _⟩
  | cons token tokens ih =>
    cases token with
    | sign s =>
      obtain ⟨left, hleft⟩ := ih (signs ++ [s])
      refine ⟨left, ?_⟩
      rw [sharesFrom, ← hleft, List.map_append, List.append_assoc]
      rfl
    | addend a =>
      obtain ⟨left, hleft⟩ := ih []
      refine ⟨left, ?_⟩
      rw [sharesFrom, List.flatMap_cons, List.append_assoc, ← hleft, Share.tokens,
        List.append_assoc]
      rfl

/-- **The shares are all there is**, but for signs at the end. -/
theorem exists_signs_behind (t : Text) :
    ∃ left : List Sign,
      Token.ofExpression t = (shares t).flatMap Share.tokens ++ left.map Token.sign :=
  exists_signs_behind_from [] (Token.ofExpression t)

/-! ## Reading -/

/-- The term is what the addend of the share says, under the sign that its signs combine to. -/
def Share.Says (combine : List Sign → Sign) (share : Share) (term : Term) : Prop :=
  ∃ x, Addend.Says share.addend x term.name ∧ term.value = (combine share.signs).apply x

/-- The coefficients are, for each name in the order of first mention, the sum of what the shares
    with that name say, from left to right and beginning with zero. -/
def Means (combine : List Sign → Sign) (t : Text) (cs : Coefficients) : Prop :=
  ∃ terms : List Term, List.Forall₂ (Share.Says combine) (shares t) terms ∧
    cs = (terms.map Term.name).eraseDups.map fun name => (name, Coefficients.sumOf terms name)

/-- An addend that is taken had a sign in front of it, and says a term. -/
theorem termsFrom_addend {sign : Option Sign} {t : Text} {rest : List Token} {ts : List Term}
    (h : termsFrom sign (.addend t :: rest) = (ts, none)) :
    ∃ s v name ts', sign = some s ∧ Addend.read t = .ok (v, name) ∧
      termsFrom none rest = (ts', none) ∧ ts = ⟨s.apply v, name⟩ :: ts' := by
  cases sign with
  | none => cases h
  | some s =>
    rw [termsFrom] at h
    cases hread : Addend.read t with
    | error cause =>
      rw [hread] at h
      cases h
    | ok read =>
      obtain ⟨v, name⟩ := read
      rw [hread] at h
      dsimp only at h
      rcases hrest : termsFrom none rest with ⟨ts', cause?⟩
      rw [hrest] at h
      cases h
      exact ⟨s, v, name, ts', rfl, rfl, rfl, rfl⟩

theorem termsFrom_addend_eq {s : Sign} {t name : Text} {v : Float} (h : Addend.read t = .ok (v, name))
    (rest : List Token) :
    termsFrom (some s) (.addend t :: rest) =
      (⟨s.apply v, name⟩ :: (termsFrom none rest).1, (termsFrom none rest).2) := by
  rw [termsFrom, h]

/-- A share is taken under the last of its signs, if it is taken at all. -/
theorem termsFrom_share_iff {s : Sign} {signs : List Sign} (hs : Sign.last signs = s) {a : Text}
    {tokens : List Token}
    (htokens : ∀ rest, termsFrom none tokens = (rest, none) ↔
      (∀ share ∈ sharesFrom [] tokens, share.signs ≠ []) ∧
        List.Forall₂ (Share.Says Sign.last) (sharesFrom [] tokens) rest) (terms : List Term) :
    termsFrom (some s) (.addend a :: tokens) = (terms, none) ↔
      (∀ share ∈ sharesFrom [] tokens, share.signs ≠ []) ∧
        List.Forall₂ (Share.Says Sign.last) (⟨signs, a⟩ :: sharesFrom [] tokens) terms := by
  constructor
  · intro h
    obtain ⟨s', x, name, rest, hs', hread, hrest, rfl⟩ := termsFrom_addend h
    obtain ⟨hsigns, hsays⟩ := (htokens rest).mp hrest
    have hterm : Share.Says Sign.last ⟨signs, a⟩ ⟨s'.apply x, name⟩ := by
      refine ⟨x, (Addend.read_eq_ok_iff a x name).mp hread, ?_⟩
      rw [← Option.some.inj hs', ← hs]
    exact ⟨hsigns, .cons hterm hsays⟩
  · rintro ⟨hsigns, hsays⟩
    cases hsays with
    | @cons _ term _ rest hterm hrest =>
      obtain ⟨value, name⟩ := term
      obtain ⟨x, haddend, rfl⟩ := hterm
      have hread := (Addend.read_eq_ok_iff a x name).mpr haddend
      rw [termsFrom_addend_eq hread, (htokens rest).mpr ⟨hsigns, hrest⟩, ← hs]

/-- Nothing is read as no terms. -/
theorem termsFrom_nil_iff (sign : Option Sign) (combine : List Sign → Sign) (terms : List Term) :
    termsFrom sign [] = (terms, none) ↔ List.Forall₂ (Share.Says combine) [] terms := by
  rw [List.forall₂_nil_left_iff]
  cases sign with
  | none => exact ⟨fun h => (congrArg Prod.fst h).symm, fun h => h ▸ rfl⟩
  | some s => exact ⟨fun h => (congrArg Prod.fst h).symm, fun h => h ▸ rfl⟩

/-- **Behind an addend** every share needs a sign. By induction on the tokens: the state is the last
    of the signs that wait, if any do. -/
theorem termsFrom_behind_iff (signs : List Sign) (tokens : List Token) (terms : List Term) :
    termsFrom signs.getLast? tokens = (terms, none) ↔
      (∀ share ∈ sharesFrom signs tokens, share.signs ≠ []) ∧
        List.Forall₂ (Share.Says Sign.last) (sharesFrom signs tokens) terms := by
  induction tokens generalizing signs terms with
  | nil => simp only [sharesFrom, termsFrom_nil_iff _ Sign.last, List.not_mem_nil, false_implies,
      implies_true, true_and]
  | cons token tokens ih =>
    cases token with
    | sign s =>
      have hnext := ih (signs ++ [s]) terms
      rw [List.getLast?_concat] at hnext
      rw [termsFrom, sharesFrom]
      exact hnext
    | addend a =>
      rw [sharesFrom, List.forall_mem_cons]
      cases hlast : signs.getLast? with
      | none =>
        have hnil : signs = [] := List.getLast?_eq_none_iff.mp hlast
        constructor
        · intro h
          cases h
        · rintro ⟨⟨hsigns, -⟩, -⟩
          exact absurd hnil hsigns
      | some s =>
        have hne : signs ≠ [] := by
          rintro rfl
          cases hlast
        have hs : Sign.last signs = s := by
          unfold Sign.last
          rw [hlast]
          rfl
        rw [termsFrom_share_iff hs (ih [])]
        exact ⟨fun h => ⟨⟨hne, h.1⟩, h.2⟩, fun h => ⟨h.1.2, h.2⟩⟩

/-- **At the start** the first share does without a sign, which is plus then. -/
theorem termsFrom_start_iff (signs : List Sign) (tokens : List Token) (terms : List Term) :
    termsFrom (some (Sign.last signs)) tokens = (terms, none) ↔
      (∀ share ∈ (sharesFrom signs tokens).tail, share.signs ≠ []) ∧
        List.Forall₂ (Share.Says Sign.last) (sharesFrom signs tokens) terms := by
  induction tokens generalizing signs with
  | nil => simp only [sharesFrom, termsFrom_nil_iff _ Sign.last, List.tail_nil, List.not_mem_nil,
      false_implies, implies_true, true_and]
  | cons token tokens ih =>
    cases token with
    | sign s =>
      have hnext := ih (signs ++ [s])
      rw [Sign.last_append_singleton] at hnext
      rw [termsFrom, sharesFrom]
      exact hnext
    | addend a => exact termsFrom_share_iff rfl (termsFrom_behind_iff [] tokens) terms

theorem read_eq_ok_iff (t : Text) (cs : Coefficients) :
    read t = .ok cs ↔ ∃ ts, terms t = (ts, none) ∧ cs = .ofTerms ts := by
  unfold read
  constructor
  · intro h
    split at h
    · next ts hts =>
      cases h
      exact ⟨ts, hts, rfl⟩
    · cases h
  · rintro ⟨ts, hts, rfl⟩
    rw [hts]

/-- **What an expression means.** It is accepted exactly if every addend but the first has a sign in
    front of it and every addend says something. Then the coefficient of each variable is the sum of
    what the addends say that name it, each of them under the last sign in front of it. -/
theorem read_eq_ok_iff_means (t : Text) (cs : Coefficients) :
    read t = .ok cs ↔
      (∀ share ∈ (shares t).tail, share.signs ≠ []) ∧ Means Sign.last t cs := by
  have hterms : ∀ ts, terms t = (ts, none) ↔
      (∀ share ∈ (shares t).tail, share.signs ≠ []) ∧
        List.Forall₂ (Share.Says Sign.last) (shares t) ts :=
    termsFrom_start_iff [] (Token.ofExpression t)
  rw [read_eq_ok_iff]
  constructor
  · rintro ⟨ts, hts, rfl⟩
    obtain ⟨hsigns, hsays⟩ := (hterms ts).mp hts
    exact ⟨hsigns, ts, hsays, Coefficients.ofTerms_eq ts⟩
  · rintro ⟨hsigns, ts, hsays, rfl⟩
    exact ⟨ts, (hterms ts).mpr ⟨hsigns, hsays⟩, (Coefficients.ofTerms_eq ts).symm⟩

/-- Two minus signs in a row are one minus and not plus. -/
theorem read_two_minus_signs :
    read "- - x".toList = .ok [("x".toList, -1.0)] ∧
      ¬ Means Sign.product "- - x".toList [("x".toList, -1.0)] := by
  refine ⟨by decide +kernel, ?_⟩
  rintro ⟨terms, hsays, hcs⟩
  have hshares : shares "- - x".toList = [⟨[.minus, .minus], "x".toList⟩] := by decide
  have hread : Addend.read "x".toList = .ok (1.0, "x".toList) := by decide +kernel
  rw [hshares] at hsays
  cases hsays with
  | @cons _ term _ rest hterm hrest =>
    cases hrest
    obtain ⟨value, name⟩ := term
    obtain ⟨x, hsays, hvalue⟩ := hterm
    -- the addend says one, and the product of its signs is plus
    rw [← Addend.read_eq_ok_iff, hread] at hsays
    cases hsays
    have hone : value = 1.0 := hvalue
    rw [hone] at hcs
    exact absurd hcs (by decide +kernel)

end Expression

end LinearProgram

/-
  Scan — how a numeral passes the two scans of an expression.

  A numeral is a mantissa and perhaps an exponent (`Numeral.isMantissa`, `Numeral.isExponent`), so
  both scans pass over it. The scan for the end of a coefficient stops at a blank behind it
  (`Numeral.numericSplit?_text`); without anything behind it a numeral is a mere number
  (`Numeral.isNumeric_text`).
-/

import LinearProgram.Proofs.Written.Numeral

namespace LinearProgram.Written

open Addend (Scan splitFrom prepend)
open Token (ofExpressionFrom)

/-- A space is no sign. -/
theorem ofChar?_space : ∀ c ∈ [' '], Sign.ofChar? c = none :=
  List.forall_mem_singleton.mpr (by decide)

namespace Numeral

/-! ## Parts -/

/-- What stands in front of the exponent. -/
def mantissa (n : Numeral) : Text := n.whole ++ n.fractionText

theorem text_eq (n : Numeral) : n.text = n.mantissa ++ n.exponentText :=
  (List.append_assoc ..).symm

theorem isMantissa (n : Numeral) : Addend.Mantissa Text.isDecimal n.mantissa := by
  have hne := n.ne_nil
  have hfraction := n.isDigits_fraction
  have hdecimal : ∀ c : Char, c.isDigit = true → Text.isDecimal c = true :=
    fun _ hc => isDecimal_of_isDigit hc
  unfold mantissa fractionText
  cases hf : n.fraction? with
  | none =>
    rw [hf, Option.getD_none, List.append_nil] at hne
    dsimp only
    rw [List.append_nil]
    exact (Addend.Mantissa.whole n.isDigits_whole hne).imp hdecimal
  | some f =>
    rw [hf, Option.getD_some] at hfraction hne
    exact (Addend.Mantissa.point n.isDigits_whole hfraction hne).imp hdecimal

theorem isExponent (n : Numeral) : n.exponentText = [] ∨ Addend.Exponent n.exponentText := by
  unfold exponentText
  cases n.exponent? with
  | none => exact Or.inl rfl
  | some e =>
    have hdigits : ∀ c ∈ e.digits, Text.isDigitLike c = true :=
      fun c hc => isDigitLike_of_isDigit (e.isDigits c hc)
    dsimp only
    unfold Exponent.text Exponent.signText
    cases e.sign? with
    | none => exact Or.inr (.unsigned e.isMark hdigits e.ne_nil)
    | some s => exact Or.inr (.signed e.isMark s hdigits e.ne_nil)

/-! ## The scan for the end of a coefficient -/

/-- The scan passes over a numeral, and goes on behind it. -/
theorem splitFrom_text (n : Numeral) : ∃ state, ∀ rest,
    splitFrom .opening (n.text ++ rest) = (splitFrom state rest).map (prepend n.text) := by
  have hmantissa := n.isMantissa.imp fun c hc => Text.isDigitLike_of_isDecimal hc
  rw [n.text_eq]
  rcases n.isExponent with hnil | hexponent
  · refine ⟨.digits, fun rest => ?_⟩
    rw [hnil, List.append_nil, Addend.splitFrom_mantissa hmantissa]
  · refine ⟨.exponent, fun rest => ?_⟩
    rw [List.append_assoc, Addend.splitFrom_mantissa hmantissa,
      Addend.splitFrom_exponent hexponent, Addend.map_prepend_append]

/-- **A numeral is a mere number.** -/
theorem isNumeric_text (n : Numeral) : Addend.isNumeric n.text = true := by
  obtain ⟨state, h⟩ := n.splitFrom_text
  have hnil := h []
  rw [List.append_nil] at hnil
  unfold Addend.isNumeric Addend.numericSplit?
  rw [hnil]
  rfl

/-- **A numeral is cut off at a blank.** -/
theorem numericSplit?_text (n : Numeral) (rest : Text) :
    Addend.numericSplit? (n.text ++ ' ' :: rest) = some (n.text, ' ' :: rest) := by
  obtain ⟨state, h⟩ := n.splitFrom_text
  unfold Addend.numericSplit?
  rw [h, splitFrom, Addend.step_blank state (by decide)]
  show some (n.text ++ [], ' ' :: rest) = _
  rw [List.append_nil]

/-! ## The scan for signs -/

/-- **The scan for signs passes over a numeral**, with blanks in front of it or without. -/
theorem ofExpressionFrom_text (n : Numeral) {gap : Text} (hgap : gap.isBlankOnly = true)
    (rest : Text) :
    ofExpressionFrom gap (n.text ++ rest) = ofExpressionFrom (gap ++ n.text) rest := by
  rw [n.text_eq]
  rcases n.isExponent with hnil | hexponent
  · rw [hnil, List.append_nil]
    apply Token.ofExpressionFrom_append
    intro c hc
    exact ((n.isMantissa.imp fun c hc => Text.isDigitLike_of_isDecimal hc).not_blank c hc).2
  · rw [List.append_assoc, Token.ofExpressionFrom_literal hgap n.isMantissa hexponent]

end Numeral

end LinearProgram.Written

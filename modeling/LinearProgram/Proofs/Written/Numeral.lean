/-
  Numeral — unsigned decimal literals, written and read.

  1. **Notation** — digits, possibly a point and further digits, possibly an exponent: a mark, a
     sign if there is one, digits. There is a digit in front of the point or behind it.

  2. **Reading** — a numeral is read as the literal that its parts spell (`Numeral.read?_text`), and
     as a quantity if that literal is finite (`Coefficient.read_text`).
-/

import LinearProgram.Proofs.Expression.Scan
import LinearProgram.Proofs.Text.Lower

namespace LinearProgram.Written

/-! ## Digits -/

/-- Nothing but ASCII digits. -/
def IsDigits (t : Text) : Prop := ∀ c ∈ t, c.isDigit = true

/-- The values of the digits. -/
def digitValues (t : Text) : List Nat := t.map fun c => c.toNat - 0x30

theorem IsDigits.head {c : Char} {t : Text} (h : IsDigits (c :: t)) : c.isDigit = true :=
  h c List.mem_cons_self

theorem IsDigits.tail {c : Char} {t : Text} (h : IsDigits (c :: t)) : IsDigits t :=
  fun d hd => h d (List.mem_cons_of_mem c hd)

theorem digit_bounds {c : Char} (h : c.isDigit = true) : 0x30 ≤ c.toNat ∧ c.toNat ≤ 0x39 := by
  simp only [Char.isDigit, Bool.and_eq_true, decide_eq_true_eq] at h
  exact h

/-- The digits of ASCII are digits of all scripts, with the value that they have. -/
theorem decimalValue?_of_isDigit {c : Char} (h : c.isDigit = true) :
    Text.decimalValue? c = some (c.toNat - 0x30) := by
  obtain ⟨h₁, h₂⟩ := digit_bounds h
  have hascii : c.toNat < 0x80 := by omega
  simp [Text.decimalValue?, hascii, h₁, h₂]

theorem isDecimal_of_isDigit {c : Char} (h : c.isDigit = true) : Text.isDecimal c = true := by
  unfold Text.isDecimal
  rw [decimalValue?_of_isDigit h]
  rfl

theorem isDigitLike_of_isDigit {c : Char} (h : c.isDigit = true) : Text.isDigitLike c = true :=
  Text.isDigitLike_of_isDecimal (isDecimal_of_isDigit h)

theorem digit_ne {c d : Char} (h : c.isDigit = true) (hd : d.isDigit = false) : c ≠ d := by
  intro hcd
  rw [hcd, hd] at h
  cases h

theorem isBlank_of_isDigit {c : Char} (h : c.isDigit = true) : Text.isBlank c = false :=
  Text.isBlank_of_isDecimal (isDecimal_of_isDigit h)

/-! ## Runs of digits -/

/-- What stands behind a run of digits does not carry it on. -/
def EndsRun (rest : Text) : Prop := ∀ c, rest.head? = some c → Text.isDecimal c = false ∧ c ≠ '_'

theorem endsRun_nil : EndsRun [] := fun _ h => nomatch h

/-- A run of digits ends in front of what is neither a digit nor an underscore. -/
theorem endsRun_cons {c : Char} (rest : Text) (h : Text.isDecimal c = false) (hc : c ≠ '_') :
    EndsRun (c :: rest) := by
  intro d hd
  cases hd
  exact ⟨h, hc⟩

/-- A digit without an underscore behind it adds itself to the run. -/
theorem digitRun_cons {c : Char} {t : Text} {d : Nat} (h : Text.decimalValue? c = some d)
    (ht : t.head? ≠ some '_') :
    Decimal.digitRun (c :: t) = (d :: (Decimal.digitRun t).1, (Decimal.digitRun t).2) := by
  rw [Decimal.digitRun, h]
  dsimp only
  split
  · exact absurd rfl ht
  · rfl

/-- **A run of digits is read to its end.** -/
theorem digitRun_append {ds rest : Text} (h : IsDigits ds) (hrest : EndsRun rest) :
    Decimal.digitRun (ds ++ rest) = (digitValues ds, rest) := by
  induction ds with
  | nil =>
    cases rest with
    | nil => rfl
    | cons c rest =>
      have hnone : Text.decimalValue? c = none := by
        have := (hrest c rfl).1
        unfold Text.isDecimal at this
        simpa using this
      show Decimal.digitRun (c :: rest) = _
      rw [Decimal.digitRun, hnone]
      rfl
  | cons c ds ih =>
    have hnext : (ds ++ rest).head? ≠ some '_' := by
      intro hhead
      cases ds with
      | nil => exact (hrest '_' hhead).2 rfl
      | cons d ds =>
        have hd : d = '_' := Option.some.inj hhead
        exact digit_ne h.tail.head (by decide) hd
    rw [List.cons_append, digitRun_cons (decimalValue?_of_isDigit h.head) hnext, ih h.tail]
    rfl

/-! ## Numerals -/

/-- An exponent: its mark, its sign if one is written, and its digits. -/
structure Exponent where
  mark : Char
  sign? : Option Sign
  digits : Text
  isMark : Addend.isMark mark = true
  isDigits : IsDigits digits
  ne_nil : digits ≠ []

/-- An unsigned decimal literal by its parts. -/
structure Numeral where
  /-- The digits in front of the point. -/
  whole : Text
  /-- The digits behind the point, if a point is written. -/
  fraction? : Option Text
  exponent? : Option Exponent
  isDigits_whole : IsDigits whole
  isDigits_fraction : IsDigits (fraction?.getD [])
  ne_nil : whole ++ fraction?.getD [] ≠ []

namespace Exponent

/-- The sign as it is written. -/
def signText (e : Exponent) : Text :=
  match e.sign? with
  | none => []
  | some s => [s.toChar]

/-- The exponent as it is written. -/
def text (e : Exponent) : Text := e.mark :: (e.signText ++ e.digits)

/-- The number that the exponent is. -/
def value (e : Exponent) : Int :=
  if e.sign? = some .minus then -(Decimal.ofDigits (digitValues e.digits) : Int)
  else Decimal.ofDigits (digitValues e.digits)

theorem mark_eq (e : Exponent) : e.mark = 'e' ∨ e.mark = 'E' := by
  have h := e.isMark
  unfold Addend.isMark at h
  simpa using h

end Exponent

namespace Numeral

/-- The digits behind the point. -/
def fraction (n : Numeral) : Text := n.fraction?.getD []

/-- The fraction as it is written. -/
def fractionText (n : Numeral) : Text :=
  match n.fraction? with
  | none => []
  | some f => '.' :: f

/-- The exponent as it is written. -/
def exponentText (n : Numeral) : Text :=
  match n.exponent? with
  | none => []
  | some e => e.text

/-- The numeral as it is written. -/
def text (n : Numeral) : Text := n.whole ++ (n.fractionText ++ n.exponentText)

/-- The literal that the numeral spells. -/
def literal (n : Numeral) : Decimal.Literal where
  negative := false
  significand := Decimal.ofDigits (digitValues (n.whole ++ n.fraction))
  exponent := (n.exponent?.elim 0 Exponent.value) - n.fraction.length

/-- The nearest binary64 number. -/
def value (n : Numeral) : Float := n.literal.value

/-! ### Reading -/

/-- An exponent begins with its mark, which ends the digits in front of it. -/
theorem endsRun_exponentText (n : Numeral) : EndsRun n.exponentText := by
  unfold exponentText
  cases n.exponent? with
  | none => exact endsRun_nil
  | some e =>
    rcases e.mark_eq with h | h
    · refine endsRun_cons _ ?_ ?_ <;> rw [h] <;> decide
    · refine endsRun_cons _ ?_ ?_ <;> rw [h] <;> decide

/-- So does a point. -/
theorem endsRun_fractionText (n : Numeral) : EndsRun (n.fractionText ++ n.exponentText) := by
  unfold fractionText
  cases n.fraction? with
  | none => exact n.endsRun_exponentText
  | some f => exact endsRun_cons _ (by decide) (by decide)

/-- **An exponent is read as its value.** -/
theorem readExponent?_exponentText (n : Numeral) :
    Decimal.readExponent? n.exponentText = some (n.exponent?.elim 0 Exponent.value) := by
  unfold exponentText
  cases n.exponent? with
  | none => rfl
  | some e =>
    have hrun : Decimal.digitRun e.digits = (digitValues e.digits, []) := by
      have := digitRun_append e.isDigits endsRun_nil
      rwa [List.append_nil] at this
    -- a digit in the place of the sign is no sign
    have hsign : Decimal.readSign (e.signText ++ e.digits) =
        (decide (e.sign? = some .minus), e.digits) := by
      unfold Exponent.signText
      cases e.sign? with
      | none =>
        cases hdigits : e.digits with
        | nil => exact absurd hdigits e.ne_nil
        | cons c t =>
          have hc : c.isDigit = true := e.isDigits c (by rw [hdigits]; exact List.mem_cons_self)
          show Decimal.readSign (c :: t) = _
          unfold Decimal.readSign
          split
          · next heq => exact absurd (List.cons.inj heq).1 (digit_ne hc (by decide))
          · next heq => exact absurd (List.cons.inj heq).1 (digit_ne hc (by decide))
          · rfl
      | some s => cases s <;> rfl
    have hvalues : digitValues e.digits ≠ [] := fun h => e.ne_nil (List.map_eq_nil_iff.mp h)
    have hmark : e.mark = 'e' ∨ e.mark = 'E' := e.mark_eq
    show Decimal.readExponent? e.text = some e.value
    unfold Exponent.text Decimal.readExponent? Exponent.value
    dsimp only
    rw [if_pos hmark, hsign]
    dsimp only
    rw [hrun]
    cases hds : digitValues e.digits with
    | nil => exact absurd hds hvalues
    | cons d ds => simp only [decide_eq_true_eq]

/-- **The digits behind the point are read up to the exponent.** -/
theorem readFraction_fractionText (n : Numeral) :
    Decimal.readFraction (n.fractionText ++ n.exponentText) =
      (digitValues n.fraction, n.exponentText) := by
  have hdigits := n.isDigits_fraction
  unfold fractionText fraction
  cases hf : n.fraction? with
  | none =>
    have hexponent := n.endsRun_exponentText
    show Decimal.readFraction n.exponentText = _
    unfold Decimal.readFraction
    split
    · next rest heq =>
      -- a mark is no point
      unfold exponentText at heq
      cases he : n.exponent? with
      | none =>
        rw [he] at heq
        cases heq
      | some e =>
        rw [he] at heq
        have hmark : e.mark = '.' := (List.cons.inj heq).1
        rcases e.mark_eq with h | h <;> rw [h] at hmark <;> exact absurd hmark (by decide)
    · rfl
  | some f =>
    rw [hf] at hdigits
    exact digitRun_append hdigits n.endsRun_exponentText

/-- The first character of a numeral is a digit or the point. -/
theorem head_text (n : Numeral) : ∃ c t, n.text = c :: t ∧ (c.isDigit = true ∨ c = '.') := by
  have hdigits := n.isDigits_whole
  have hne := n.ne_nil
  unfold text
  cases hw : n.whole with
  | cons c t =>
    rw [hw] at hdigits
    exact ⟨c, _, rfl, Or.inl hdigits.head⟩
  | nil =>
    -- without digits in front of the point, there are some behind it, and so there is a point
    unfold fractionText
    cases hf : n.fraction? with
    | none =>
      rw [hw, hf] at hne
      exact absurd rfl hne
    | some f => exact ⟨'.', _, rfl, Or.inr rfl⟩

/-- A numeral has no sign of its own; signs belong to terms. -/
theorem readSign_text (n : Numeral) : Decimal.readSign n.text = (false, n.text) := by
  obtain ⟨c, t, htext, hc⟩ := n.head_text
  have hplus : c ≠ '+' := by
    rcases hc with hc | rfl
    · exact digit_ne hc (by decide)
    · decide
  have hminus : c ≠ '-' := by
    rcases hc with hc | rfl
    · exact digit_ne hc (by decide)
    · decide
  rw [htext]
  unfold Decimal.readSign
  split
  · next heq => exact absurd (List.cons.inj heq).1 hplus
  · next heq => exact absurd (List.cons.inj heq).1 hminus
  · rfl

/-- **A numeral is read as the literal that it spells.** -/
theorem read?_text (n : Numeral) : Decimal.Literal.read? n.text = some n.literal := by
  have hvalues : ¬ (digitValues n.whole = [] ∧ digitValues n.fraction = []) := by
    rintro ⟨hwhole, hfraction⟩
    apply n.ne_nil
    rw [List.map_eq_nil_iff.mp hwhole]
    exact List.map_eq_nil_iff.mp hfraction
  have hwhole : Decimal.digitRun n.text = (digitValues n.whole, n.fractionText ++ n.exponentText) :=
    digitRun_append n.isDigits_whole n.endsRun_fractionText
  unfold Decimal.Literal.read?
  rw [n.readSign_text]
  dsimp only
  rw [hwhole]
  dsimp only
  rw [n.readFraction_fractionText]
  dsimp only
  rw [if_neg hvalues, n.readExponent?_exponentText]
  unfold literal digitValues
  rw [List.map_append, List.length_map]
  rfl

/-! ### Characters -/

/-- The characters that numerals are made of. -/
def IsPart (c : Char) : Prop :=
  c.isDigit = true ∨ c = '.' ∨ c = 'e' ∨ c = 'E' ∨ c = '+' ∨ c = '-'

theorem isPart_of_mem_exponentText (n : Numeral) {c : Char} (h : c ∈ n.exponentText) :
    IsPart c := by
  unfold exponentText at h
  cases he : n.exponent? with
  | none =>
    rw [he] at h
    exact absurd h List.not_mem_nil
  | some e =>
    rw [he] at h
    rcases List.mem_cons.mp h with rfl | h
    · rcases e.mark_eq with h | h
      · exact Or.inr (Or.inr (Or.inl h))
      · exact Or.inr (Or.inr (Or.inr (Or.inl h)))
    · rcases List.mem_append.mp h with h | h
      · unfold Exponent.signText at h
        cases hs : e.sign? with
        | none =>
          rw [hs] at h
          exact absurd h List.not_mem_nil
        | some s =>
          rw [hs] at h
          rw [List.mem_singleton.mp h]
          cases s with
          | plus => exact Or.inr (Or.inr (Or.inr (Or.inr (Or.inl rfl))))
          | minus => exact Or.inr (Or.inr (Or.inr (Or.inr (Or.inr rfl))))
      · exact Or.inl (e.isDigits c h)

/-- The characters of a numeral are digits, a point, a mark or a sign of an exponent. -/
theorem isPart_of_mem_text (n : Numeral) {c : Char} (h : c ∈ n.text) : IsPart c := by
  rcases List.mem_append.mp h with h | h
  · exact Or.inl (n.isDigits_whole c h)
  · rcases List.mem_append.mp h with h | h
    · have hdigits := n.isDigits_fraction
      unfold fractionText at h
      cases hf : n.fraction? with
      | none =>
        rw [hf] at h
        exact absurd h List.not_mem_nil
      | some f =>
        rw [hf] at h hdigits
        rcases List.mem_cons.mp h with rfl | h
        · exact Or.inr (Or.inl rfl)
        · exact Or.inl (hdigits c h)
    · exact n.isPart_of_mem_exponentText h

theorem IsPart.not_blank {c : Char} (h : IsPart c) : Text.isBlank c = false := by
  rcases h with h | rfl | rfl | rfl | rfl | rfl
  · exact isBlank_of_isDigit h
  · decide
  · decide
  · decide
  · decide
  · decide

theorem IsPart.ascii {c : Char} (h : IsPart c) : c.toNat < 0x80 := by
  rcases h with h | rfl | rfl | rfl | rfl | rfl
  · have := (digit_bounds h).2
    omega
  · decide
  · decide
  · decide
  · decide
  · decide

/-- A numeral is a word. -/
theorem isWord_text (n : Numeral) : n.text.IsWord where
  ne_nil h0 := by
    obtain ⟨c, t, htext, -⟩ := n.head_text
    rw [h0] at htext
    cases htext
  not_blank _ hc := (n.isPart_of_mem_text hc).not_blank

/-- A numeral spells no infinity: those begin with a letter or a sign. -/
theorem infinity?_text (n : Numeral) : Quantity.infinity? n.text = none := by
  have hspellings : ∀ s ∈ Quantity.positiveInfinities ++ Quantity.negativeInfinities,
      s.head?.all (fun c => ! c.isDigit && c != '.') = true := by
    decide
  have hlower : Text.lower n.text ∉ Quantity.positiveInfinities ++ Quantity.negativeInfinities := by
    intro hmem
    obtain ⟨c, t, htext, hc⟩ := n.head_text
    have hsame : Text.asciiLower c = c := by
      rcases hc with hc | rfl
      · unfold Text.asciiLower
        rw [if_neg]
        have := (digit_bounds hc).2
        simp only [Bool.and_eq_true, decide_eq_true_eq]
        omega
      · decide
    have hhead : (Text.lower n.text).head? = some c := by
      rw [Text.lower_ascii fun d hd => (n.isPart_of_mem_text hd).ascii, htext, List.map_cons,
        hsame]
      rfl
    have hinitial := hspellings _ hmem
    rw [hhead] at hinitial
    rcases hc with hc | rfl
    · simp [hc] at hinitial
    · exact absurd hinitial (by decide)
  rw [List.mem_append, not_or] at hlower
  unfold Quantity.infinity?
  dsimp only
  rw [if_neg (by simpa using hlower.1), if_neg (by simpa using hlower.2)]

end Numeral

/-- A numeral that a finite number is nearest to. -/
structure Coefficient extends Numeral where
  finite : toNumeral.value.isFinite = true

/-- **A coefficient is read as its nearest number.** -/
theorem Coefficient.read_text (n : Coefficient) : Quantity.read n.text = .ok n.value := by
  have hfinite : Quantity.finite? n.text = some n.value := by
    unfold Quantity.finite?
    rw [n.read?_text]
    exact if_pos n.finite
  unfold Quantity.read
  rw [n.isWord_text.isTrimmed.trim_eq, n.infinity?_text, hfinite]

end LinearProgram.Written

/-
  Value — the texts of bounds and right-hand sides.

  A value is any text that is read as a quantity, with digits of any script and underscores among
  them, or a spelling of infinity. Two things about such texts matter where they stand in a line.

  1. **Structure** — none of the characters that structure a document is part of a value
     (`Value.not_isStructural`): not of a literal, whose characters are digits, underscores, points,
     marks and signs, and not of an infinity.

  2. **Names** — no value is the name of a variable (`Value.text_ne`), since names do not begin like
     literals and variables are not named like infinities.
-/

import LinearProgram.Proofs.Written.Expression

namespace LinearProgram

/-- Blanks around a quantity do not matter. -/
theorem Quantity.read_trim (t : Text) : Quantity.read t.trim = Quantity.read t := by
  unfold Quantity.read
  rw [(Text.isTrimmed_trim t).trim_eq]

namespace Written

/-! ## Structure -/

/-- The characters by which a document is cut into lines, names, sides and comments. -/
def isStructural (c : Char) : Bool :=
  c == ':' || c == '\\' || c == '\n' || Relation.isRelational c

/-- The characters of a literal. -/
def isLiteralChar (c : Char) : Bool :=
  Text.isDecimal c || c == '_' || c == '.' || Addend.isMark c || (Sign.ofChar? c).isSome

theorem not_isStructural_of_isLiteralChar {c : Char} (h : isLiteralChar c = true) :
    isStructural c = false := by
  cases hs : isStructural c with
  | false => rfl
  | true =>
    -- each of the six structural characters is no character of a literal
    unfold isStructural Relation.isRelational at hs
    simp only [Bool.or_eq_true, beq_iff_eq, or_assoc] at hs
    rcases hs with rfl | rfl | rfl | rfl | rfl | rfl <;> exact absurd h (by decide)

/-! ### Literals -/

theorem isLiteralChar_of_isDecimal {c : Char} (h : Text.isDecimal c = true) :
    isLiteralChar c = true := by
  unfold isLiteralChar
  rw [h]
  rfl

theorem mem_digitRun {t : Text} {c : Char} (h : c ∈ t) :
    isLiteralChar c = true ∨ c ∈ (Decimal.digitRun t).2 := by
  have hdigit : ∀ {d : Char} {n : Nat}, Text.decimalValue? d = some n → isLiteralChar d = true := by
    intro d n hd
    apply isLiteralChar_of_isDecimal
    unfold Text.isDecimal
    rw [hd]
    rfl
  -- a run passes over digits, and over an underscore between two of them
  fun_induction Decimal.digitRun t with
  | case1 => exact absurd h List.not_mem_nil
  | case2 => exact Or.inr h
  | case3 d n hd e rest he ds tail hrun ih =>
    rw [hrun] at ih
    rcases List.mem_cons.mp h with rfl | h
    · exact Or.inl (hdigit hd)
    · rcases List.mem_cons.mp h with rfl | h
      · exact Or.inl (by decide)
      · exact ih h
  | case4 d n hd e rest he =>
    rcases List.mem_cons.mp h with rfl | h
    · exact Or.inl (hdigit hd)
    · exact Or.inr h
  | case5 d n hd rest hrest ds tail hrun ih =>
    rw [hrun] at ih
    rcases List.mem_cons.mp h with rfl | h
    · exact Or.inl (hdigit hd)
    · exact ih h

theorem mem_readSign {t : Text} {c : Char} (h : c ∈ t) :
    isLiteralChar c = true ∨ c ∈ (Decimal.readSign t).2 := by
  unfold Decimal.readSign
  split
  · rcases List.mem_cons.mp h with rfl | h
    · exact Or.inl (by decide)
    · exact Or.inr h
  · rcases List.mem_cons.mp h with rfl | h
    · exact Or.inl (by decide)
    · exact Or.inr h
  · exact Or.inr h

theorem mem_readFraction {t : Text} {c : Char} (h : c ∈ t) :
    isLiteralChar c = true ∨ c ∈ (Decimal.readFraction t).2 := by
  unfold Decimal.readFraction
  split
  · rcases List.mem_cons.mp h with rfl | h
    · exact Or.inl (by decide)
    · exact mem_digitRun h
  · exact Or.inr h

theorem isLiteralChar_of_readExponent? {t : Text} {e : Int}
    (h : Decimal.readExponent? t = some e) {c : Char} (hc : c ∈ t) : isLiteralChar c = true := by
  unfold Decimal.readExponent? at h
  split at h
  · exact absurd hc List.not_mem_nil
  · next m rest =>
    split at h
    · next hmark =>
      rcases List.mem_cons.mp hc with rfl | hc
      · rcases hmark with rfl | rfl <;> decide
      · rcases mem_readSign hc with hc | hc
        · exact hc
        · rcases mem_digitRun hc with hc | hc
          · exact hc
          · -- nothing is left behind the digits of an exponent
            rcases hrun : Decimal.digitRun (Decimal.readSign rest).2 with ⟨ds, tail⟩
            rw [hrun] at hc
            dsimp only at h hc
            rw [hrun] at h
            cases tail with
            | nil => exact absurd hc List.not_mem_nil
            | cons d tail => cases ds <;> cases h
    · cases h

/-- Literals are made of their characters only. -/
theorem isLiteralChar_of_read? {t : Text} {l : Decimal.Literal}
    (h : Decimal.Literal.read? t = some l) {c : Char} (hc : c ∈ t) : isLiteralChar c = true := by
  unfold Decimal.Literal.read? at h
  dsimp only at h
  split at h
  · cases h
  · -- sign, digits, fraction and exponent take their characters, and leave the others to the next
    obtain ⟨e, he, -⟩ := Option.map_eq_some_iff.mp h
    rcases mem_readSign hc with hc | hc
    · exact hc
    · rcases mem_digitRun hc with hc | hc
      · exact hc
      · rcases mem_readFraction hc with hc | hc
        · exact hc
        · exact isLiteralChar_of_readExponent? he hc

/-! ### Infinities -/

theorem isCaseless_of_isStructural {c : Char} (h : isStructural c = true) :
    Text.IsCaseless c := by
  unfold isStructural Relation.isRelational at h
  simp only [Bool.or_eq_true, beq_iff_eq, or_assoc] at h
  rcases h with rfl | rfl | rfl | rfl | rfl | rfl <;>
    exact Text.isCaseless_of_ascii (by decide) (by decide)

/-- Structural characters are caseless: those of a text are in its lower-case form as well. -/
theorem not_isStructural_of_lower {t : Text} (h : ∀ c ∈ t.lower, isStructural c = false) :
    ∀ c ∈ t, isStructural c = false := by
  intro c hc
  cases hs : isStructural c with
  | false => rfl
  | true =>
    rw [h c (Text.mem_lower (isCaseless_of_isStructural hs) hc)] at hs
    cases hs

theorem mem_of_infinity? {t : Text} {x : Float} (h : Quantity.infinity? t = some x) :
    t.lower ∈ Quantity.positiveInfinities ++ Quantity.negativeInfinities := by
  unfold Quantity.infinity? at h
  dsimp only at h
  split at h
  · next hmem => exact List.mem_append_left _ (List.contains_iff_mem.mp hmem)
  · split at h
    · next hmem => exact List.mem_append_right _ (List.contains_iff_mem.mp hmem)
    · cases h

theorem not_isStructural_of_infinity? {t : Text} {x : Float}
    (h : Quantity.infinity? t = some x) {c : Char} (hc : c ∈ t) : isStructural c = false := by
  have hspellings : ∀ s ∈ Quantity.positiveInfinities ++ Quantity.negativeInfinities,
      (s.all fun c => isStructural c = false) = true := by
    decide
  have hlower := List.all_iff_forall_prop.mp (hspellings _ (mem_of_infinity? h))
  exact not_isStructural_of_lower hlower c hc

/-! ## Values -/

/-- A text without blanks around it that is read as a quantity. -/
structure Value where
  text : Text
  number : Float
  isTrimmed : text.IsTrimmed
  read : Quantity.read text = .ok number

namespace Value

/-- **No structural character is part of a value.** -/
theorem not_isStructural (v : Value) {c : Char} (h : c ∈ v.text) : isStructural c = false := by
  have hread := v.read
  unfold Quantity.read at hread
  rw [v.isTrimmed.trim_eq] at hread
  split at hread
  · next x hx => exact not_isStructural_of_infinity? hx h
  · split at hread
    · next x hx =>
      unfold Quantity.finite? at hx
      obtain ⟨l, hl, -⟩ := Option.bind_eq_some_iff.mp hx
      exact not_isStructural_of_isLiteralChar (isLiteralChar_of_read? hl h)
    · cases hread

/-- A value is not empty. -/
theorem ne_nil (v : Value) : v.text ≠ [] := by
  intro h
  have hread := v.read
  have herror : Quantity.read [] = .error (.invalidNumber []) := rfl
  rw [h, herror] at hread
  cases hread

/-- A value is read as its number, with blanks around it or without. -/
theorem read_of_trim (v : Value) {t : Text} (h : t.trim = v.text) :
    Quantity.read t = .ok v.number := by
  have hsame : Quantity.read t = Quantity.read v.text := by
    unfold Quantity.read
    rw [v.isTrimmed.trim_eq, h]
  rw [hsame, v.read]

end Value

theorem GivenName.read?_text (x : GivenName) : Decimal.Literal.read? x.text = none := by
  obtain ⟨c, t, ht, hc, -⟩ := x.eq_cons
  obtain ⟨hdigit, hpoint, hplus, hminus⟩ := initial_spec hc
  have hnone : Text.decimalValue? c = none := by
    unfold Text.isDigitLike Text.isDecimal at hdigit
    simp only [Bool.or_eq_false_iff, Option.isSome_eq_false_iff, Option.isNone_iff_eq_none]
      at hdigit
    exact hdigit.1
  have hsign : Decimal.readSign (c :: t) = (false, c :: t) := by
    unfold Decimal.readSign
    split
    · next heq => exact absurd (List.cons.inj heq).1 hplus
    · next heq => exact absurd (List.cons.inj heq).1 hminus
    · rfl
  have hrun : Decimal.digitRun (c :: t) = ([], c :: t) := by
    rw [Decimal.digitRun, hnone]
  have hfraction : Decimal.readFraction (c :: t) = ([], c :: t) := by
    unfold Decimal.readFraction
    split
    · next heq => exact absurd (List.cons.inj heq).1 hpoint
    · rfl
  unfold Decimal.Literal.read?
  rw [ht, hsign]
  dsimp only
  rw [hrun]
  dsimp only
  rw [hfraction]
  exact if_pos ⟨rfl, rfl⟩

/-- **No value is the name of a variable.** -/
theorem Value.text_ne (v : Value) (x : VariableName) : v.text ≠ x.text := by
  intro h
  have hread := v.read
  have hinfinity : Quantity.infinity? x.text = none := by
    cases hx : Quantity.infinity? x.text with
    | none => rfl
    | some y => exact absurd (List.mem_append_right _ (mem_of_infinity? hx)) x.unreserved
  have hfinite : Quantity.finite? x.text = none := by
    unfold Quantity.finite?
    rw [x.read?_text]
    rfl
  rw [h] at hread
  unfold Quantity.read at hread
  rw [x.isWord.isTrimmed.trim_eq, hinfinity, hfinite] at hread
  cases hread

end Written

end LinearProgram

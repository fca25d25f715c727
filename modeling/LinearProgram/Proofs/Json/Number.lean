/-
  Number — finite numbers, as other programs expect them.

  1. **Grammar** — numbers as RFC 8259 has them: an optional minus sign, a whole part without
     leading zeros, an optional fraction and an optional exponent (`Json.IsNumber`).

  2. **Digits** — the shortest digits of a magnitude other than zero do not begin with a zero
     (`Shortest.Proper`). The crux: no grid point that rounds to such a magnitude is zero.

  3. **Layout** — so every finite number is set out as a number of the grammar
     (`Json.isNumber_render`), in positional and in scientific notation.
-/

import LinearProgram.Json
import LinearProgram.Proofs.Binary64.Order

namespace LinearProgram

/-! ## Grammar -/

namespace Json

/-- At least one digit. -/
def AreDigits (ds : Text) : Prop := ds ≠ [] ∧ ∀ c ∈ ds, c.isDigit = true

/-- The digits of a whole number, which begin with a zero only if there are no others. -/
inductive IsWhole : Text → Prop where
  | zero : IsWhole ['0']
  | digits {d : Char} {ds : Text} (hd : d ≠ '0') (hds : AreDigits (d :: ds)) : IsWhole (d :: ds)

/-- An optional fraction. -/
inductive IsFraction : Text → Prop where
  | absent : IsFraction []
  | digits {ds : Text} (h : AreDigits ds) : IsFraction ('.' :: ds)

/-- An optional exponent. -/
inductive IsExponent : Text → Prop where
  | absent : IsExponent []
  | digits {mark : Char} {sign ds : Text} (hmark : mark = 'e' ∨ mark = 'E')
      (hsign : sign = [] ∨ sign = ['+'] ∨ sign = ['-']) (h : AreDigits ds) :
      IsExponent (mark :: (sign ++ ds))

/-- A number without a sign. -/
inductive IsMagnitude : Text → Prop where
  | parts {whole fraction exponent : Text} (hwhole : IsWhole whole)
      (hfraction : IsFraction fraction) (hexponent : IsExponent exponent) :
      IsMagnitude (whole ++ fraction ++ exponent)

/-- A number. -/
inductive IsNumber : Text → Prop where
  | plain {t : Text} (h : IsMagnitude t) : IsNumber t
  | negative {t : Text} (h : IsMagnitude t) : IsNumber ('-' :: t)

end Json

open Json

/-! ## Digits -/

namespace Decimal

theorem areDigits_digits (n : Nat) : AreDigits (digits n) :=
  ⟨digits_ne_nil n, fun _ hc => Nat.isDigit_of_mem_toDigits (by decide) (by decide) hc⟩

/-- **No number other than zero begins with a zero.** -/
theorem digits_eq_cons {n : Nat} (h : 0 < n) : ∃ d ds, digits n = d :: ds ∧ d ≠ '0' := by
  induction n using Nat.strongRecOn with
  | ind n ih =>
    unfold digits at ih ⊢
    by_cases hn : n < 10
    · rw [Nat.toDigits_of_lt_base hn]
      have hall : ∀ m < 10, 0 < m → Nat.digitChar m ≠ '0' := by decide
      exact ⟨_, [], rfl, hall n hn h⟩
    · -- the leading digit is that of the number without its last digit
      have hten : 10 ≤ n := Nat.le_of_not_lt hn
      obtain ⟨d, ds, hds, hd⟩ := ih (n / 10) (Nat.div_lt_self h (by decide))
        (Nat.div_pos hten (by decide))
      rw [Nat.toDigits_of_base_le (by decide) hten, hds]
      exact ⟨d, _, rfl, hd⟩

theorem isWhole_digits (n : Nat) : IsWhole (digits n) := by
  cases n with
  | zero => exact .zero
  | succ n =>
    obtain ⟨d, ds, hds, hd⟩ := digits_eq_cons (Nat.succ_pos n)
    have hdigits := areDigits_digits (n + 1)
    rw [hds] at hdigits ⊢
    exact .digits hd hdigits

theorem areDigits_paddedDigits (width n : Nat) : AreDigits (paddedDigits width n) := by
  obtain ⟨hne, hdigits⟩ := areDigits_digits n
  refine ⟨fun h => hne (List.append_eq_nil_iff.mp h).2, ?_⟩
  intro c hc
  rcases List.mem_append.mp hc with hc | hc
  · rw [List.eq_of_mem_replicate hc]
    decide
  · exact hdigits c hc

/-- Zeros are dropped behind a first digit that is none. -/
theorem dropTrailingZeros_cons {d : Char} (hd : d ≠ '0') (ds : Text) :
    dropTrailingZeros (d :: ds) = d :: dropTrailingZeros ds := by
  have hlast : [d].dropWhile (· = '0') = [d] := List.dropWhile_cons_of_neg (by simpa using hd)
  unfold dropTrailingZeros
  rw [List.reverse_cons, List.dropWhile_append, hlast]
  split
  · next h =>
    rw [List.isEmpty_iff] at h
    rw [h]
    rfl
  · rw [List.reverse_append]
    rfl

theorem mem_of_mem_dropTrailingZeros {c : Char} {ds : Text} (h : c ∈ dropTrailingZeros ds) :
    c ∈ ds := by
  rw [dropTrailingZeros, List.mem_reverse] at h
  exact List.mem_reverse.mp ((List.dropWhile_suffix _).subset h)

/-- Digits that do not begin with a zero. -/
structure Shortest.Proper (d : Shortest) : Prop where
  digits : AreDigits d.digits
  head : d.digits.head? ≠ some '0'

/-! ### The search -/

/-- Zero does not round to a magnitude other than zero. -/
theorem Magnitude.roundsFrom_zero {v : Magnitude} (hv : v.significand ≠ 0) {s : Scale}
    (hs : 0 < s.unitFactor) : v.roundsFrom s 0 = false := by
  have hlow : 0 < (4 * v.significand - if v.isLowerClose then 1 else 2) * s.unitFactor := by
    refine Nat.mul_pos ?_ hs
    split <;> omega
  unfold roundsFrom
  simp only [Nat.zero_mul]
  split
  · rw [Bool.and_eq_false_iff, decide_eq_false_iff_not]
    exact Or.inl (Nat.not_le.mpr hlow)
  · rw [Bool.and_eq_false_iff, decide_eq_false_iff_not]
    exact Or.inl (Nat.not_lt_zero _)

/-- **No grid point that names a magnitude other than zero is zero.** -/
theorem Magnitude.onGrid?_pos {v : Magnitude} (hv : v.significand ≠ 0) {e : Int} {c : Nat}
    (h : v.onGrid? e = some c) : 0 < c := by
  have hunit : 0 < (Scale.between e v.exponent).unitFactor :=
    Nat.mul_pos (Nat.pow_pos (by decide)) (Nat.pow_pos (by decide))
  have hpos : ∀ {k}, v.roundsFrom (Scale.between e v.exponent) k = true → 0 < k := by
    intro k hk
    rcases Nat.eq_zero_or_pos k with rfl | hk'
    · rw [roundsFrom_zero hv hunit] at hk
      cases hk
    · exact hk'
  unfold onGrid? at h
  dsimp only at h
  split at h
  · cases h
  · next hc _ =>
    cases h
    exact hpos hc
  · cases h
    exact Nat.succ_pos _
  · next hc _ =>
    have hquotient := hpos hc
    split at h
    · cases h
      exact hquotient
    · split at h
      · cases h
        exact Nat.succ_pos _
      · cases h
        omega

theorem Magnitude.proper_shortestFrom {v : Magnitude} (hv : v.significand ≠ 0) (point : Int)
    (left count : Nat) : (v.shortestFrom point left count).Proper := by
  induction left generalizing count with
  | zero =>
    obtain ⟨d, ds, hds, hd⟩ := digits_eq_cons (Nat.pos_of_ne_zero hv)
    have hdigits := areDigits_digits v.significand
    refine ⟨hdigits, ?_⟩
    show (digits v.significand).head? ≠ _
    rw [hds]
    simpa using hd
  | succ left ih =>
    unfold shortestFrom
    split
    · next c hc =>
      obtain ⟨d, ds, hds, hd⟩ := digits_eq_cons (onGrid?_pos hv hc)
      have hdigits := (areDigits_digits c).2
      dsimp only
      rw [hds] at hdigits ⊢
      rw [dropTrailingZeros_cons hd]
      refine ⟨⟨List.cons_ne_nil _ _, ?_⟩, by simpa using hd⟩
      intro a ha
      rw [← dropTrailingZeros_cons hd] at ha
      exact hdigits a (mem_of_mem_dropTrailingZeros ha)
    · exact ih (count + 1)

theorem Magnitude.proper_shortest {v : Magnitude} (hv : v.significand ≠ 0) : v.shortest.Proper :=
  proper_shortestFrom hv _ _ _

/-! ## Layout -/

theorem areDigits_zero : AreDigits ['0'] :=
  ⟨List.cons_ne_nil _ _, List.forall_mem_singleton.mpr rfl⟩

theorem isDigit_of_mem_zeros {n : Nat} {c : Char} (h : c ∈ List.replicate n '0') :
    c.isDigit = true := by
  rw [List.eq_of_mem_replicate h]
  decide

/-- Digits that do not begin with a zero are a whole number, and so are those at their front with
    others behind. -/
theorem isWhole_of_head {d : Char} {ds : Text} (hd : d ≠ '0') (hdigit : d.isDigit = true)
    (hds : ∀ c ∈ ds, c.isDigit = true) : IsWhole (d :: ds) := by
  refine .digits hd ⟨List.cons_ne_nil _ _, ?_⟩
  intro c hc
  rcases List.mem_cons.mp hc with rfl | hc
  · exact hdigit
  · exact hds c hc

theorem isMagnitude_of_fraction {whole ds : Text} (hwhole : IsWhole whole) (hds : AreDigits ds) :
    IsMagnitude (whole ++ '.' :: ds) := by
  have h := IsMagnitude.parts hwhole (.digits hds) .absent
  rw [List.append_nil] at h
  exact h

theorem Shortest.Proper.cons {d : Shortest} (h : d.Proper) :
    ∃ c cs, d.digits = c :: cs ∧ c ≠ '0' ∧ c.isDigit = true ∧ ∀ a ∈ cs, a.isDigit = true := by
  obtain ⟨⟨hne, hdigits⟩, hhead⟩ := h
  cases hcs : d.digits with
  | nil => exact absurd hcs hne
  | cons c cs =>
    rw [hcs] at hdigits hhead
    exact ⟨c, cs, rfl, fun hc => hhead (by rw [hc]; rfl), hdigits c List.mem_cons_self,
      fun a ha => hdigits a (List.mem_cons_of_mem c ha)⟩

theorem isMagnitude_positional {d : Shortest} (h : d.Proper) : IsMagnitude (positional d) := by
  obtain ⟨c, cs, hdigits, hc, hcdigit, hcs⟩ := h.cons
  unfold positional
  rw [hdigits]
  by_cases hpoint : d.point ≤ 0
  · rw [if_pos hpoint]
    have hzeros : AreDigits (List.replicate (-d.point).toNat '0' ++ c :: cs) := by
      refine ⟨fun h0 => List.cons_ne_nil c cs (List.append_eq_nil_iff.mp h0).2, ?_⟩
      intro a ha
      rcases List.mem_append.mp ha with ha | ha
      · exact isDigit_of_mem_zeros ha
      · rcases List.mem_cons.mp ha with rfl | ha
        · exact hcdigit
        · exact hcs a ha
    exact isMagnitude_of_fraction .zero hzeros
  · rw [if_neg hpoint]
    dsimp only
    split
    · -- the digits end in front of the point
      have hwhole :
          IsWhole (c :: (cs ++ List.replicate (d.point.toNat - (c :: cs).length) '0')) := by
        refine isWhole_of_head hc hcdigit fun a ha => ?_
        rcases List.mem_append.mp ha with ha | ha
        · exact hcs a ha
        · exact isDigit_of_mem_zeros ha
      exact isMagnitude_of_fraction hwhole areDigits_zero
    · next hlength =>
      -- the point stands between two digits
      obtain ⟨w, hw⟩ : ∃ w, d.point.toNat = w + 1 := ⟨d.point.toNat - 1, by omega⟩
      rw [hw] at hlength ⊢
      rw [List.length_cons, Nat.succ_le_succ_iff, Nat.not_le] at hlength
      have hwhole : IsWhole ((c :: cs).take (w + 1)) :=
        isWhole_of_head hc hcdigit fun a ha => hcs a (List.mem_of_mem_take ha)
      refine isMagnitude_of_fraction hwhole ⟨?_, fun a ha => hcs a (List.mem_of_mem_drop ha)⟩
      rw [List.drop_succ_cons, Ne, List.drop_eq_nil_iff]
      omega

theorem isMagnitude_scientific {d : Shortest} (h : d.Proper) (width : Nat) :
    IsMagnitude (scientific width d) := by
  obtain ⟨c, cs, hdigits, hc, hcdigit, hcs⟩ := h.cons
  have hwhole : IsWhole [c] := isWhole_of_head hc hcdigit nofun
  have hexponent : IsExponent
      ('e' :: ([if d.point - 1 < 0 then '-' else '+'] ++
        paddedDigits width (d.point - 1).natAbs)) := by
    refine .digits (Or.inl rfl) ?_ (areDigits_paddedDigits width _)
    split
    · exact Or.inr (Or.inr rfl)
    · exact Or.inr (Or.inl rfl)
  unfold scientific
  rw [hdigits]
  cases cs with
  | nil => exact .parts hwhole .absent hexponent
  | cons a cs => exact .parts hwhole (.digits ⟨List.cons_ne_nil _ _, hcs⟩) hexponent

theorem Layout.isMagnitude_unsigned (layout : Layout) (x : Float) :
    IsMagnitude (layout.unsigned x) := by
  unfold unsigned
  dsimp only
  split
  · exact isMagnitude_of_fraction .zero areDigits_zero
  · next hsignificand =>
    have hproper := Magnitude.proper_shortest hsignificand
    split
    · exact isMagnitude_positional hproper
    · exact isMagnitude_scientific hproper _

end Decimal

/-- What is not finite is the missing number or an infinity. -/
theorem Binary64.isFinite_eq (x : Float) : x.isFinite = !(x.isNaN || x.isInf) := by
  show (Binary64.parts x).isFinite = !((Binary64.parts x).isNaN || (Binary64.parts x).isInf)
  cases Binary64.parts x <;> rfl

/-- **A finite number is set out as a number.** -/
theorem Json.isNumber_render {x : Float} (h : x.isFinite = true) :
    IsNumber (numberLayout.render x) := by
  have hmagnitude := numberLayout.isMagnitude_unsigned x
  rw [Binary64.isFinite_eq, Bool.not_eq_true', Bool.or_eq_false_iff] at h
  unfold Decimal.Layout.render
  rw [h.1, if_neg Bool.false_ne_true, h.2, if_neg Bool.false_ne_true]
  dsimp only
  split
  · exact .negative hmagnitude
  · exact .plain hmagnitude

end LinearProgram

/-
  Sum — sums of binary64 numbers that start from zero.

  1. **Zero in front** — `0.0 + x` is `x`, unless `x` is the negative zero; for this a number must
     be recovered from its parts (`ofParts_parts`).

  2. **No negative zero** — a sum whose first summand is not the negative zero is not the negative
     zero either. The one way to it would be a sum of two finite numbers that rounding loses; but
     the exponent of such a sum is never below the smallest one, so that rounding keeps at least
     one digit (`keepsZero_round`).

  So a sum that starts from zero may be started from zero once more, as happens when a line's
  coefficients are added to those of the lines before it.
-/

import LinearProgram.Proofs.Binary64.Order

namespace LinearProgram.Binary64

open Float.Model (UnpackedFloat Format)
open Float.Model.UnpackedFloat

/-! ## Words and their fields -/

theorem toNat_append {v w : Nat} (x : BitVec v) (y : BitVec w) :
    (x ++ y).toNat = (x.toNat <<< w) + y.toNat := by
  rw [BitVec.toNat_append, ← Nat.shiftLeft_add_eq_or_of_lt y.isLt]

theorem toNat_packComponents (s : UnpackedFloat.Sign) (e : BitVec 11) (m : BitVec 52) :
    (packComponents .binary64 s e m).toNat =
      s.toBitVec.toNat * 9223372036854775808 + e.toNat * 4503599627370496 + m.toNat := by
  rw [packComponents, toNat_append, toNat_append, Nat.shiftLeft_eq, Nat.shiftLeft_eq]
  omega

theorem toNat_unpackSign (b : BitVec Format.binary64.numBits) :
    (unpackSign b).toNat = b.toNat / 9223372036854775808 % 2 := by
  delta unpackSign
  rw [BitVec.toNat_cast, BitVec.extractLsb_toNat, Nat.shiftRight_eq_div_pow]
  rfl

theorem toNat_unpackExponent (b : BitVec Format.binary64.numBits) :
    (unpackExponent b).toNat = b.toNat / 4503599627370496 % 2048 := by
  rw [unpackExponent, BitVec.toNat_cast, BitVec.extractLsb_toNat, Nat.shiftRight_eq_div_pow]
  rfl

theorem toNat_unpackMantissa (b : BitVec Format.binary64.numBits) :
    (unpackMantissa b).toNat = b.toNat % 4503599627370496 := by
  rw [unpackMantissa, BitVec.toNat_cast, BitVec.extractLsb_toNat, Nat.shiftRight_zero]
  rfl

theorem unpackSign_packComponents (s : UnpackedFloat.Sign) (e : BitVec 11) (m : BitVec 52) :
    unpackSign (packComponents .binary64 s e m) = s.toBitVec := by
  apply BitVec.eq_of_toNat_eq
  rw [toNat_unpackSign, toNat_packComponents]
  have he := e.isLt
  have hm := m.isLt
  have hs := s.toBitVec.isLt
  omega

theorem toBitVec_ofBitVec (v : BitVec 1) : (UnpackedFloat.Sign.ofBitVec v).toBitVec = v := by
  revert v
  decide

theorem ofBitVec_toBitVec (s : UnpackedFloat.Sign) :
    UnpackedFloat.Sign.ofBitVec s.toBitVec = s := by
  cases s <;> rfl

/-- A word is made of its sign, its exponent and its significand. -/
theorem packComponents_unpack (b : BitVec Format.binary64.numBits) :
    packComponents .binary64 (UnpackedFloat.Sign.ofBitVec (unpackSign b)) (unpackExponent b)
        (unpackMantissa b)
      = b := by
  apply BitVec.eq_of_toNat_eq
  rw [toNat_packComponents, toBitVec_ofBitVec, toNat_unpackSign, toNat_unpackExponent,
    toNat_unpackMantissa]
  have hb : b.toNat < 18446744073709551616 := b.isLt
  omega

/-- The significand of a normal number, with the digit that its word leaves out. -/
theorem toNat_one_append (m : BitVec 52) : (1#1 ++ m).toNat = 4503599627370496 + m.toNat := by
  rw [toNat_append, Nat.shiftLeft_eq]
  rfl

/-! ## Numbers and their parts -/

/-- The number with the given parts. -/
def ofParts (u : UnpackedFloat) : Float := .ofModel (.pack u)

theorem add_eq (x y : Float) : x + y = ofParts (UnpackedFloat.add .binary64 (parts x) (parts y)) :=
  rfl

theorem parts_ofParts (u : UnpackedFloat) :
    parts (ofParts u) = unpack .binary64 (pack .binary64 u) := rfl

/-- The word of a finite number: its exponent is 0 if the significand lacks the leading digit. -/
theorem pack_finite (s : UnpackedFloat.Sign) (m : Nat) (e : Int) (hm : 0 < m) :
    pack .binary64 (.finite s m e hm) =
      if 2047 ≤ (e + 1075).toNat then packedInfinity .binary64 s
      else if m.log2 = 52 then
        packComponents .binary64 s (BitVec.ofNat 11 (e + 1075).toNat) (BitVec.ofNat 52 m)
      else packComponents .binary64 s 0#11 (BitVec.ofNat 52 m) := by
  have hbias : e + (1023 : Nat) + (52 : Nat) = e + 1075 := by omega
  show (if 2048 ≤ (e + (1023 : Nat) + (52 : Nat)).toNat + 1 then packedInfinity .binary64 s
    else if m.log2 + 1 = 53 then
      packComponents .binary64 s (BitVec.ofNat 11 (e + (1023 : Nat) + (52 : Nat)).toNat)
        (BitVec.ofNat 52 m)
    else packComponents .binary64 s 0#11 (BitVec.ofNat 52 m)) = _
  rw [hbias]
  simp only [Nat.reduceLeDiff, Nat.reduceEqDiff]

/-- What the fields of a word say of its parts: an exponent of ones belongs to the infinities and to
    the missing number, one of zeros to zero and to the numbers without a leading digit. -/
inductive Unpacked (b : BitVec Format.binary64.numBits) : UnpackedFloat → Prop where
  | infinity (he : unpackExponent b = -1#11) (hm : unpackMantissa b = 0#52) :
      Unpacked b (.infinity (.ofBitVec (unpackSign b)))
  | notANumber (he : unpackExponent b = -1#11) (hm : unpackMantissa b ≠ 0#52) :
      Unpacked b .notANumber
  | zero (he : unpackExponent b = 0#11) (hm : unpackMantissa b = 0#52) :
      Unpacked b (.zero (.ofBitVec (unpackSign b)))
  | subnormal (he : unpackExponent b = 0#11) (hm : 0 < (unpackMantissa b).toNat) :
      Unpacked b (.finite (.ofBitVec (unpackSign b)) (unpackMantissa b).toNat (-1074) hm)
  | normal (he : 0 < (unpackExponent b).toNat) (he' : (unpackExponent b).toNat < 2047)
      (hm : 0 < (1#1 ++ unpackMantissa b).toNat) :
      Unpacked b (.finite (.ofBitVec (unpackSign b)) (1#1 ++ unpackMantissa b).toNat
        ((unpackExponent b).toNat - 1075) hm)

theorem unpack_spec (b : BitVec Format.binary64.numBits) : Unpacked b (unpack .binary64 b) := by
  unfold unpack
  dsimp only
  by_cases he : unpackExponent b = -1#11
  · rw [if_pos he]
    by_cases hm : unpackMantissa b = 0#52
    · rw [if_pos hm]
      exact .infinity he hm
    · rw [if_neg hm]
      exact .notANumber he hm
  · rw [if_neg he]
    by_cases hz : unpackExponent b = 0#11
    · rw [if_pos hz]
      by_cases hm : unpackMantissa b = 0#52
      · rw [dif_pos hm]
        exact .zero hz hm
      · rw [dif_neg hm, hz]
        exact .subnormal hz _
    · -- neither all ones nor all zeros
      rw [if_neg hz]
      have h0 : (unpackExponent b).toNat ≠ 0 := fun h => hz (BitVec.eq_of_toNat_eq h)
      have h1 : (unpackExponent b).toNat ≠ 2047 := fun h => he (BitVec.eq_of_toNat_eq h)
      have hexp : (unpackExponent b).toNat < 2048 := (unpackExponent b).isLt
      exact .normal (by omega) (by omega) _

/-- The parts with another sign. -/
def withSign (t : UnpackedFloat.Sign) : UnpackedFloat → UnpackedFloat
  | .notANumber => .notANumber
  | .infinity _ => .infinity t
  | .zero _ => .zero t
  | .finite _ m e hm => .finite t m e hm

/-- The parts of a word with another sign make the word with that sign. -/
theorem pack_withSign {b : BitVec Format.binary64.numBits} {u : UnpackedFloat}
    (t : UnpackedFloat.Sign) (h : Unpacked b u) (hu : u ≠ .notANumber) :
    pack .binary64 (withSign t u) =
      packComponents .binary64 t (unpackExponent b) (unpackMantissa b) := by
  have hman : (unpackMantissa b).toNat < 4503599627370496 := (unpackMantissa b).isLt
  cases h with
  | infinity he hm =>
    rw [he, hm]
    rfl
  | notANumber he hm => exact absurd rfl hu
  | zero he hm =>
    rw [he, hm]
    rfl
  | subnormal he hm =>
    have hlog : (unpackMantissa b).toNat.log2 < 52 := (Nat.log2_lt (by omega)).mpr hman
    show pack .binary64 (.finite t (unpackMantissa b).toNat (-1074) hm) = _
    rw [pack_finite, if_neg (by decide), if_neg (by omega), BitVec.ofNat_toNat, BitVec.setWidth_eq,
      he]
  | normal he he' hm =>
    have hsum := toNat_one_append (unpackMantissa b)
    have hlog : (1#1 ++ unpackMantissa b).toNat.log2 = 52 := by
      rw [Nat.log2_eq_iff (by omega), hsum]
      omega
    have hbias : (((unpackExponent b).toNat : Int) - 1075 + 1075).toNat =
        (unpackExponent b).toNat := by
      omega
    -- the leading one, which is not stored, falls out of the stored digits
    have hmantissa : BitVec.ofNat 52 (1#1 ++ unpackMantissa b).toNat = unpackMantissa b := by
      have hmod : (4503599627370496 + (unpackMantissa b).toNat) % 4503599627370496
          = (unpackMantissa b).toNat := by omega
      apply BitVec.eq_of_toNat_eq
      rw [BitVec.toNat_ofNat, hsum]
      exact hmod
    show pack .binary64 (.finite t (1#1 ++ unpackMantissa b).toNat _ hm) = _
    rw [pack_finite, hbias, if_neg (by omega), if_pos hlog, hmantissa, BitVec.ofNat_toNat,
      BitVec.setWidth_eq]

/-- Packing the parts of a word gives back the word. -/
theorem pack_unpack {b : BitVec Format.binary64.numBits} (hb : Format.binary64.Valid b) :
    pack .binary64 (unpack .binary64 b) = b := by
  have hspec := unpack_spec b
  generalize unpack .binary64 b = u at hspec
  by_cases hu : u = .notANumber
  · subst hu
    cases hspec with
    | notANumber he hm => exact (hb.eq_packedNaN he hm).symm
  · have hself : withSign (.ofBitVec (unpackSign b)) u = u := by
      cases hspec <;> rfl
    rw [← hself, pack_withSign _ hspec hu, packComponents_unpack]

/-- **A number is recovered from its parts.** -/
theorem ofParts_parts (x : Float) : ofParts (parts x) = x := by
  obtain ⟨⟨bits, hvalid⟩⟩ := x
  show Float.ofModel ⟨UInt64.ofBitVec (pack .binary64 (unpack .binary64 bits.toBitVec)), _⟩ = _
  congr 2
  rw [pack_unpack hvalid]

/-! ## Zero in front -/

theorem parts_zero : parts 0.0 = .zero .positive := rfl

/-- **Adding to zero changes nothing but the negative zero.** -/
theorem zero_add {x : Float} (h : parts x ≠ .zero .negative) : 0.0 + x = x := by
  have hadd : UnpackedFloat.add .binary64 (parts 0.0) (parts x) = parts x := by
    rw [parts_zero]
    cases hx : parts x with
    | notANumber => rfl
    | infinity s => rfl
    | finite s m e hm => rfl
    | zero s =>
      cases s
      · exact absurd hx h
      · rfl
  rw [add_eq, hadd, ofParts_parts]

/-! ## Rounding keeps a digit -/

/-- Parts that do not become the negative zero in a word. -/
def KeepsZero : UnpackedFloat → Prop
  | .zero s => s = .positive
  | .finite _ m e _ => m < 9007199254740992 ∧ -1074 ≤ e
  | _ => True

/-- The fields of a word of zero. -/
theorem fields_of_unpack_eq_zero {b : BitVec Format.binary64.numBits} {s : UnpackedFloat.Sign}
    (h : unpack .binary64 b = .zero s) :
    unpackExponent b = 0#11 ∧ unpackMantissa b = 0#52 ∧
      UnpackedFloat.Sign.ofBitVec (unpackSign b) = s := by
  have hspec := unpack_spec b
  rw [h] at hspec
  cases hspec with
  | zero he hm => exact ⟨he, hm, rfl⟩

theorem fields_of_packComponents {s t : UnpackedFloat.Sign} {e : BitVec 11} {m : BitVec 52}
    (h : unpack .binary64 (packComponents .binary64 s e m) = .zero t) :
    e = 0#11 ∧ m = 0#52 ∧ s = t := by
  obtain ⟨he, hm, hs⟩ := fields_of_unpack_eq_zero h
  refine ⟨?_, ?_, ?_⟩
  · exact unpackExponent_packComponents.symm.trans he
  · exact unpackMantissa_packComponents.symm.trans hm
  · rw [unpackSign_packComponents, ofBitVec_toBitVec] at hs
    exact hs

theorem unpack_pack_ne {u : UnpackedFloat} (h : KeepsZero u) :
    unpack .binary64 (pack .binary64 u) ≠ .zero .negative := by
  intro hzero
  -- the exponent or the significand of the word would have to be zero, and is not
  cases u with
  | notANumber =>
    have := (fields_of_packComponents hzero).1
    exact absurd this (by decide)
  | infinity s =>
    have := (fields_of_packComponents hzero).1
    exact absurd this (by decide)
  | zero s =>
    have := (fields_of_packComponents hzero).2.2
    rw [h] at this
    cases this
  | finite s m e hm =>
    obtain ⟨hlt, hge⟩ := h
    rw [pack_finite] at hzero
    split at hzero
    · have := (fields_of_packComponents hzero).1
      exact absurd this (by decide)
    · split at hzero
      · -- a normal number has an exponent between 1 and 2046
        have := congrArg BitVec.toNat (fields_of_packComponents hzero).1
        rw [BitVec.toNat_ofNat] at this
        have : (e + 1075).toNat % 2048 = 0 := this
        omega
      · next hlog =>
        -- without the leading digit, all of the significand is stored
        have := congrArg BitVec.toNat (fields_of_packComponents hzero).2.1
        rw [BitVec.toNat_ofNat] at this
        have : m % 4503599627370496 = 0 := this
        have hlog' : m.log2 < 53 := (Nat.log2_lt (by omega)).mpr hlt
        have hlog'' : m.log2 < 52 := by omega
        have hm' : m < 4503599627370496 := (Nat.log2_lt (by omega)).mp hlog''
        omega

/-- Shifting a significand that is to be rounded drops its last digits. -/
theorem mantissa_shiftRight (em : ExtendedMantissa) (n : Nat) :
    (em >>> n).mantissa = em.mantissa >>> n := by
  show (Nat.repeat ExtendedMantissa.shiftRightOne n em).mantissa = _
  induction n with
  | zero => rfl
  | succ n ih =>
    show (Nat.repeat ExtendedMantissa.shiftRightOne n em).mantissa / 2 = _
    rw [ih]
    rfl

/-- Rounding never goes down. -/
theorem mantissa_le_roundedMantissa (em : ExtendedMantissa) :
    em.mantissa ≤ em.roundedMantissa := by
  obtain ⟨m, r, s⟩ := em
  cases r <;> cases s <;>
    simp only [ExtendedMantissa.roundedMantissa, ExtendedMantissa.accuracy,
      Accuracy.roundToNearestEven] <;> omega

/-- How many digits of a significand are too many. -/
def surplus (m : Nat) (e : Int) : Nat :=
  (Format.binary64.targetExponent (Float.Model.totalExponent m e) - e).toNat

theorem surplus_eq {m : Nat} {e : Int} (he : -1074 ≤ e) : surplus m e = m.log2 - 52 := by
  show (max ((m.log2 : Int) + 1 + e - (53 : Nat)) (-1074) - e).toNat = m.log2 - 52
  omega

/-- Without its surplus digits a significand has a digit left, and at most 53 of them. -/
theorem shiftRight_surplus {m : Nat} {e : Int} (hm : 0 < m) (he : -1074 ≤ e) :
    0 < m >>> surplus m e ∧ m >>> surplus m e < 9007199254740992 := by
  have hm0 : m ≠ 0 := by omega
  have hlow : 2 ^ m.log2 ≤ m := Nat.log2_self_le hm0
  have hhigh : m < 2 ^ (m.log2 + 1) := Nat.lt_log2_self
  rw [surplus_eq he, Nat.shiftRight_eq_div_pow]
  rcases Nat.le_total m.log2 52 with h | h
  · have hlt : m < 9007199254740992 := (Nat.log2_lt hm0).mp (Nat.lt_succ_of_le h)
    rw [Nat.sub_eq_zero_of_le h, Nat.pow_zero, Nat.div_one]
    exact ⟨hm, hlt⟩
  · have hsplit : m.log2 = 52 + (m.log2 - 52) := by omega
    have hpos : 0 < 2 ^ (m.log2 - 52) := Nat.two_pow_pos _
    constructor
    · apply Nat.div_pos _ hpos
      exact Nat.le_trans (Nat.pow_le_pow_right (by decide) (Nat.sub_le _ _)) hlow
    · rw [Nat.div_lt_iff_lt_mul hpos]
      have hsum : m.log2 + 1 = 53 + (m.log2 - 52) := by omega
      rw [hsum, Nat.pow_add] at hhigh
      exact hhigh

/-- **Rounding a finite number keeps a digit**, so that the word is not that of a zero. -/
theorem keepsZero_roundWithAccuracy {m : Nat} {e : Int} (s : UnpackedFloat.Sign) (hm : 0 < m)
    (he : -1074 ≤ e) : KeepsZero (roundWithAccuracy .binary64 s m e .exact) := by
  -- The digits are cut to 53, rounded up or not, and cut again where rounding made one more.
  let em := (⟨m, false, false⟩ : ExtendedMantissa) >>> surplus m e
  have hem : em.mantissa = m >>> surplus m e := mantissa_shiftRight _ _
  have hround : 0 < em.roundedMantissa := by
    have := (shiftRight_surplus hm he).1
    have := mantissa_le_roundedMantissa em
    omega
  have he' : -1074 ≤ e + (surplus m e : Nat) := by omega
  obtain ⟨hpos, hlt⟩ := shiftRight_surplus hround he'
  let cut := (⟨em.roundedMantissa, false, false⟩ : ExtendedMantissa) >>>
    surplus em.roundedMantissa (e + (surplus m e : Nat))
  have hmantissa : cut.mantissa = _ := mantissa_shiftRight _ _
  show KeepsZero (if h : cut.mantissa = 0 then _ else _)
  rw [dif_neg (by rw [hmantissa]; exact Nat.pos_iff_ne_zero.mp hpos)]
  refine ⟨?_, ?_⟩
  · show cut.mantissa < _
    rw [hmantissa]
    exact hlt
  · omega

theorem keepsZero_round {m : Nat} {e : Int} (s : UnpackedFloat.Sign) (hm : 0 < m)
    (he : -1074 ≤ e) :
    KeepsZero (UnpackedFloat.round .binary64 s m e) := by
  refine keepsZero_roundWithAccuracy s ?_ ?_
  · rw [Nat.shiftLeft_eq]
    exact Nat.mul_pos hm (Nat.two_pow_pos _)
  · have : -1074 ≤ Format.binary64.targetExponent (Float.Model.totalExponent m e) :=
      Int.le_max_right _ _
    omega

theorem keepsZero_normalize (m : Int) {e : Int} (he : -1074 ≤ e) :
    KeepsZero (UnpackedFloat.normalize .binary64 m e .positive) := by
  unfold UnpackedFloat.normalize
  split
  · next h =>
    have := Int.compare_eq_lt.mp h
    exact keepsZero_round _ (by omega) he
  · rfl
  · next h =>
    have := Int.compare_eq_gt.mp h
    exact keepsZero_round _ (by omega) he

/-! ## Sums -/

/-- The exponent of a finite number is not below the smallest one. -/
theorem exponent_ge_of_parts {x : Float} {s : UnpackedFloat.Sign} {m : Nat} {e : Int} {hm : 0 < m}
    (h : parts x = .finite s m e hm) : -1074 ≤ e := by
  have hunpack : unpack .binary64 x.toModel.toBits.toBitVec = .finite s m e hm := h
  have hspec := unpack_spec x.toModel.toBits.toBitVec
  rw [hunpack] at hspec
  cases hspec with
  | subnormal he hm => decide
  | normal he he' hm => omega

/-- **A sum is the negative zero only if its first summand is.** -/
theorem parts_add_ne {x y : Float} (hx : parts x ≠ .zero .negative) :
    parts (x + y) ≠ .zero .negative := by
  -- A sum with a summand that is not finite and not zero, or with one zero, is one of the parts.
  have hself : ∀ {z : Float} {u : UnpackedFloat}, parts z = u → u ≠ .zero .negative →
      unpack .binary64 (pack .binary64 u) ≠ .zero .negative := by
    intro z u hz hu
    rw [← parts_ofParts, ← hz, ofParts_parts, hz]
    exact hu
  rw [add_eq, parts_ofParts]
  cases hpx : parts x with
  | notANumber => exact unpack_pack_ne trivial
  | infinity s =>
    cases hpy : parts y with
    | notANumber => exact unpack_pack_ne trivial
    | infinity t =>
      show unpack .binary64 (pack .binary64 (if s == t then _ else _)) ≠ _
      split
      · exact unpack_pack_ne trivial
      · exact unpack_pack_ne trivial
    | zero t => exact unpack_pack_ne trivial
    | finite t n f hn => exact unpack_pack_ne trivial
  | zero s =>
    have hs : s = .positive := by
      cases s
      · exact absurd hpx hx
      · rfl
    subst hs
    cases hpy : parts y with
    | notANumber => exact unpack_pack_ne trivial
    | infinity t => exact unpack_pack_ne trivial
    | zero t => cases t <;> exact unpack_pack_ne rfl
    | finite t n f hn => exact hself hpy UnpackedFloat.noConfusion
  | finite s m e hm =>
    cases hpy : parts y with
    | notANumber => exact unpack_pack_ne trivial
    | infinity t => exact unpack_pack_ne trivial
    | zero t => exact hself hpx UnpackedFloat.noConfusion
    | finite t n f hn =>
      have he := exponent_ge_of_parts hpx
      have hf := exponent_ge_of_parts hpy
      exact unpack_pack_ne (keepsZero_normalize _ (Int.le_min.mpr ⟨he, hf⟩))

end LinearProgram.Binary64

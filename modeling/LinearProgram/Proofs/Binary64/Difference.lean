/-
  Difference — subtraction of binary64 numbers, and the other sign.

  1. **The other sign** — a word keeps its exponent and its significand when its sign is turned, so
     that the parts of `-x` are those of `x` under the other sign (`parts_neg`).

  2. **Differences** — addition and subtraction look at the kinds of both numbers in the same way,
     and what subtraction does under one sign is what addition does under the other:
     `x - y` is `x + -y`, for the infinities, both zeros and the missing number as well.
-/

import LinearProgram.Proofs.Binary64.Sum

namespace LinearProgram.Binary64

open Float.Model (UnpackedFloat Format)
open Float.Model.UnpackedFloat

/-! ## The other sign -/

/-- The parts that the fields of a word stand for. -/
def ofFields (s : UnpackedFloat.Sign) (e : BitVec 11) (m : BitVec 52) : UnpackedFloat :=
  if e = -1#11 then
    if m = 0#52 then .infinity s else .notANumber
  else if e = 0#11 then
    if h : m = 0#52 then .zero s
    else .finite s m.toNat (e.toNat - 1075 + 1)
      (Nat.pos_of_ne_zero fun h0 => h (BitVec.eq_of_toNat_eq h0))
  else .finite s (1#1 ++ m).toNat (e.toNat - 1075) (by rw [toNat_one_append]; omega)

theorem unpack_eq_ofFields (b : BitVec Format.binary64.numBits) :
    unpack .binary64 b =
      ofFields (.ofBitVec (unpackSign b)) (unpackExponent b) (unpackMantissa b) := rfl

theorem ofFields_eq_withSign (s t : UnpackedFloat.Sign) (e : BitVec 11) (m : BitVec 52) :
    ofFields t e m = withSign t (ofFields s e m) := by
  unfold ofFields
  by_cases he : e = -1#11
  · rw [if_pos he, if_pos he]
    by_cases hm : m = 0#52
    · rw [if_pos hm, if_pos hm]
      rfl
    · rw [if_neg hm, if_neg hm]
      rfl
  · rw [if_neg he, if_neg he]
    by_cases hz : e = 0#11
    · rw [if_pos hz, if_pos hz]
      by_cases hm : m = 0#52
      · rw [dif_pos hm, dif_pos hm]
        rfl
      · rw [dif_neg hm, dif_neg hm]
        rfl
    · rw [if_neg hz, if_neg hz]
      rfl

/-- Another sign in a word is another sign in its parts. -/
theorem unpack_packComponents (b : BitVec Format.binary64.numBits) (t : UnpackedFloat.Sign) :
    unpack .binary64 (packComponents .binary64 t (unpackExponent b) (unpackMantissa b)) =
      withSign t (unpack .binary64 b) := by
  rw [unpack_eq_ofFields, unpack_eq_ofFields, unpackSign_packComponents, ofBitVec_toBitVec,
    unpackExponent_packComponents, unpackMantissa_packComponents]
  exact ofFields_eq_withSign _ t _ _

theorem neg_eq_withSign {b : BitVec Format.binary64.numBits} {u : UnpackedFloat}
    (h : Unpacked b u) : u.neg = withSign (-.ofBitVec (unpackSign b)) u := by
  cases h <;> rfl

/-- **The parts of a number under the other sign.** -/
theorem parts_neg (x : Float) : parts (-x) = (parts x).neg := by
  have hspec : Unpacked x.toModel.toBits.toBitVec (parts x) := unpack_spec _
  show unpack .binary64 (pack .binary64 (parts x).neg) = (parts x).neg
  by_cases hx : parts x = .notANumber
  · rw [hx]
    rfl
  · rw [neg_eq_withSign hspec, pack_withSign _ hspec hx, unpack_packComponents]
    rfl

/-! ## Differences -/

/-- What the other sign does to a difference of significands. -/
theorem apply_neg (t : UnpackedFloat.Sign) (m n : Int) : m + (-t).apply n = m - t.apply n := by
  cases t with
  | positive => rfl
  | negative =>
    show m + n = m - -n
    omega

/-- The parts of a difference are those of a sum. -/
theorem sub_parts (a b : UnpackedFloat) :
    UnpackedFloat.sub .binary64 a b = UnpackedFloat.add .binary64 a b.neg := by
  cases a with
  | notANumber => rfl
  | infinity s => cases b <;> rfl
  | zero s => cases b <;> rfl
  | finite s m e hm =>
    cases b with
    | notANumber => rfl
    | infinity t => rfl
    | zero t => rfl
    | finite t n f hn =>
      unfold UnpackedFloat.sub UnpackedFloat.add UnpackedFloat.neg
      dsimp only
      rw [apply_neg]

/-- **To subtract a number is to add it under the other sign.** -/
theorem sub_eq_add_neg (x y : Float) : x - y = x + -y := by
  show ofParts (UnpackedFloat.sub .binary64 (parts x) (parts y)) = _
  rw [sub_parts, add_eq, parts_neg]

end LinearProgram.Binary64

/-
  Order — how binary64 numbers compare.

  A number that is not the missing number has a `rank`, three whole numbers that compare
  lexicographically: the first tells the infinities, the negative numbers, zero and the positive
  numbers apart, the other two are exponent and significand, turned round below zero. The
  comparisons of binary64 are the comparisons of ranks, so that away from the missing number they
  form a linear preorder; both zeros have one rank.
-/

import LinearProgram.Quantity

namespace LinearProgram.Binary64

open Float.Model (UnpackedFloat)

/-- Sign, exponent and significand of a number. -/
def parts (x : Float) : UnpackedFloat := x.toModel.unpack

theorem isNaN_iff (x : Float) : x.isNaN = true ↔ parts x = .notANumber := by
  show (parts x).isNaN = true ↔ parts x = .notANumber
  cases parts x with
  | notANumber => exact ⟨fun _ => rfl, fun _ => rfl⟩
  | infinity s => exact ⟨(nomatch ·), (nomatch ·)⟩
  | zero s => exact ⟨(nomatch ·), (nomatch ·)⟩
  | finite s m e hm => exact ⟨(nomatch ·), (nomatch ·)⟩

/-- Where a number stands among the others. -/
def rank : UnpackedFloat → Int × Int × Int
  | .infinity .negative => (-2, 0, 0)
  | .finite .negative m e _ => (-1, -e, -(m : Int))
  | .zero _ => (0, 0, 0)
  | .finite .positive m e _ => (1, e, (m : Int))
  | .infinity .positive => (2, 0, 0)
  | .notANumber => (0, 0, 0)

/-- The lexicographic order of ranks. -/
def RankLe (a b : Int × Int × Int) : Prop :=
  a.1 < b.1 ∨ (a.1 = b.1 ∧ (a.2.1 < b.2.1 ∨ (a.2.1 = b.2.1 ∧ a.2.2 ≤ b.2.2)))

theorem RankLe.refl (a : Int × Int × Int) : RankLe a a :=
  Or.inr ⟨rfl, Or.inr ⟨rfl, Int.le_refl _⟩⟩

theorem RankLe.trans {a b c : Int × Int × Int} (hab : RankLe a b) (hbc : RankLe b c) :
    RankLe a c := by
  unfold RankLe at *
  omega

/-- Any two ranks compare, as any two numbers do that are not the missing number. -/
theorem RankLe.total (a b : Int × Int × Int) : RankLe a b ∨ RankLe b a := by
  unfold RankLe
  omega

/-- Exponents compare first, then significands. -/
theorem then_compare (e₁ e₂ : Int) (m₁ m₂ : Nat) :
    ((compare e₁ e₂).then (compare m₁ m₂) = .lt ∧ (e₁ < e₂ ∨ e₁ = e₂ ∧ m₁ < m₂)) ∨
    ((compare e₁ e₂).then (compare m₁ m₂) = .eq ∧ e₁ = e₂ ∧ m₁ = m₂) ∨
    ((compare e₁ e₂).then (compare m₁ m₂) = .gt ∧ (e₂ < e₁ ∨ e₁ = e₂ ∧ m₂ < m₁)) := by
  rcases Int.lt_trichotomy e₁ e₂ with he | rfl | he
  · rw [Int.compare_eq_lt.mpr he]
    exact Or.inl ⟨rfl, Or.inl he⟩
  · rw [Int.compare_eq_eq.mpr rfl]
    rcases Nat.lt_trichotomy m₁ m₂ with hm | rfl | hm
    · rw [Nat.compare_eq_lt.mpr hm]
      exact Or.inl ⟨rfl, Or.inr ⟨rfl, hm⟩⟩
    · rw [Nat.compare_eq_eq.mpr rfl]
      exact Or.inr (Or.inl ⟨rfl, rfl, rfl⟩)
    · rw [Nat.compare_eq_gt.mpr hm]
      exact Or.inr (Or.inr ⟨rfl, Or.inr ⟨rfl, hm⟩⟩)
  · rw [Int.compare_eq_gt.mpr he]
    exact Or.inr (Or.inr ⟨rfl, Or.inl he⟩)

/-- The comparison of two numbers says what their ranks say. -/
def Agree (a b : UnpackedFloat) : Prop :=
  (a.compare b = some .lt ∧ ¬ RankLe (rank b) (rank a)) ∨
  (a.compare b = some .eq ∧ RankLe (rank a) (rank b) ∧ RankLe (rank b) (rank a)) ∨
  (a.compare b = some .gt ∧ ¬ RankLe (rank a) (rank b))

section Agree

variable {a b : UnpackedFloat}

theorem not_rankLe_of_lt {p q : Int × Int × Int} (h : p.1 < q.1) : ¬ RankLe q p := by
  unfold RankLe
  omega

/-- Within a kind the exponent decides, then the significand. -/
theorem not_rankLe_of_snd {k e f m n : Int} (h : f < e ∨ f = e ∧ n < m) :
    ¬ RankLe (k, e, m) (k, f, n) := by
  unfold RankLe
  dsimp only
  omega

/-- Numbers of different kinds compare as their kinds. -/
theorem Agree.of_lt (hc : a.compare b = some .lt) (h : (rank a).1 < (rank b).1) : Agree a b :=
  Or.inl ⟨hc, not_rankLe_of_lt h⟩

theorem Agree.of_gt (hc : a.compare b = some .gt) (h : (rank b).1 < (rank a).1) : Agree a b :=
  Or.inr (Or.inr ⟨hc, not_rankLe_of_lt h⟩)

/-- Numbers of one rank are equal, as the two zeros are. -/
theorem Agree.of_eq (hc : a.compare b = some .eq) (h : rank a = rank b) : Agree a b := by
  refine Or.inr (Or.inl ⟨hc, ?_⟩)
  rw [h]
  exact ⟨RankLe.refl _, RankLe.refl _⟩

end Agree

/-- Of finite numbers with the same sign, exponents and significands decide; for negative ones, the
    other way round. -/
theorem agree_finite (s : UnpackedFloat.Sign) {m₁ m₂ : Nat} {e₁ e₂ : Int} (h₁ : 0 < m₁)
    (h₂ : 0 < m₂) :
    Agree (.finite s m₁ e₁ h₁) (.finite s m₂ e₂ h₂) := by
  have hthen := then_compare e₁ e₂ m₁ m₂
  cases s with
  | negative =>
    -- the comparison is turned round, and so are the signs in the ranks
    have hcompare : (UnpackedFloat.finite .negative m₁ e₁ h₁).compare (.finite .negative m₂ e₂ h₂) =
        some ((compare e₁ e₂).then (compare m₁ m₂)).swap := rfl
    rcases hthen with ⟨hc, h⟩ | ⟨hc, he, hm⟩ | ⟨hc, h⟩
    · rw [hc] at hcompare
      exact Or.inr (Or.inr ⟨hcompare, not_rankLe_of_snd (by omega)⟩)
    · rw [hc] at hcompare
      refine Agree.of_eq hcompare ?_
      show ((-1 : Int), -e₁, -(m₁ : Int)) = (-1, -e₂, -(m₂ : Int))
      rw [he, hm]
    · rw [hc] at hcompare
      exact Or.inl ⟨hcompare, not_rankLe_of_snd (by omega)⟩
  | positive =>
    have hcompare : (UnpackedFloat.finite .positive m₁ e₁ h₁).compare (.finite .positive m₂ e₂ h₂) =
        some ((compare e₁ e₂).then (compare m₁ m₂)) := rfl
    rcases hthen with ⟨hc, h⟩ | ⟨hc, he, hm⟩ | ⟨hc, h⟩
    · rw [hc] at hcompare
      exact Or.inl ⟨hcompare, not_rankLe_of_snd (by omega)⟩
    · rw [hc] at hcompare
      refine Agree.of_eq hcompare ?_
      show ((1 : Int), e₁, (m₁ : Int)) = (1, e₂, (m₂ : Int))
      rw [he, hm]
    · rw [hc] at hcompare
      exact Or.inr (Or.inr ⟨hcompare, not_rankLe_of_snd (by omega)⟩)

/-- **Numbers compare as their ranks do.** -/
theorem compare_rank {a b : UnpackedFloat} (ha : a ≠ .notANumber) (hb : b ≠ .notANumber) :
    Agree a b := by
  -- unless both are finite and of one sign, the kinds of the two numbers decide
  cases a with
  | notANumber => exact absurd rfl ha
  | infinity s =>
    cases b with
    | notANumber => exact absurd rfl hb
    | infinity t =>
      cases s <;> cases t
      · exact .of_eq rfl rfl
      · exact .of_lt rfl (of_decide_eq_true rfl)
      · exact .of_gt rfl (of_decide_eq_true rfl)
      · exact .of_eq rfl rfl
    | zero t =>
      cases s
      · exact .of_lt rfl (of_decide_eq_true rfl)
      · exact .of_gt rfl (of_decide_eq_true rfl)
    | finite t m e h =>
      cases s <;> cases t
      · exact .of_lt rfl (of_decide_eq_true rfl)
      · exact .of_lt rfl (of_decide_eq_true rfl)
      · exact .of_gt rfl (of_decide_eq_true rfl)
      · exact .of_gt rfl (of_decide_eq_true rfl)
  | zero s =>
    cases b with
    | notANumber => exact absurd rfl hb
    | infinity t =>
      cases t
      · exact .of_gt rfl (of_decide_eq_true rfl)
      · exact .of_lt rfl (of_decide_eq_true rfl)
    | zero t => exact .of_eq rfl rfl
    | finite t m e h =>
      cases t
      · exact .of_gt rfl (of_decide_eq_true rfl)
      · exact .of_lt rfl (of_decide_eq_true rfl)
  | finite s m₁ e₁ h₁ =>
    cases b with
    | notANumber => exact absurd rfl hb
    | infinity t =>
      cases s <;> cases t
      · exact .of_gt rfl (of_decide_eq_true rfl)
      · exact .of_lt rfl (of_decide_eq_true rfl)
      · exact .of_gt rfl (of_decide_eq_true rfl)
      · exact .of_lt rfl (of_decide_eq_true rfl)
    | zero t =>
      cases s
      · exact .of_lt rfl (of_decide_eq_true rfl)
      · exact .of_gt rfl (of_decide_eq_true rfl)
    | finite t m₂ e₂ h₂ =>
      cases s <;> cases t
      · exact agree_finite .negative h₁ h₂
      · exact .of_lt rfl (of_decide_eq_true rfl)
      · exact .of_gt rfl (of_decide_eq_true rfl)
      · exact agree_finite .positive h₁ h₂

/-! ## Comparisons of numbers -/

/-- The missing number compares with nothing. -/
theorem compare_none {a b : UnpackedFloat} (h : a = .notANumber ∨ b = .notANumber) :
    a.compare b = none := by
  rcases h with rfl | rfl
  · rfl
  · cases a <;> rfl

/-- The order of numbers is that of their parts. -/
theorem le_iff_compare (x y : Float) :
    x ≤ y ↔ ((parts x).compare (parts y)).any Ordering.isLE = true := by
  show decide (x.toModel ≤ y.toModel) = true ↔ _
  rw [decide_eq_true_iff]
  rfl

theorem lt_iff_compare (x y : Float) :
    x < y ↔ ((parts x).compare (parts y) == some .lt) = true := by
  show decide (x.toModel < y.toModel) = true ↔ _
  rw [decide_eq_true_iff]
  rfl

/-- What compares is not the missing number. -/
theorem not_isNaN_of_le {x y : Float} (h : x ≤ y) : x.isNaN = false ∧ y.isNaN = false := by
  rw [le_iff_compare] at h
  constructor
  · rw [Bool.eq_false_iff, Ne, isNaN_iff]
    intro hx
    rw [compare_none (Or.inl hx)] at h
    cases h
  · rw [Bool.eq_false_iff, Ne, isNaN_iff]
    intro hy
    rw [compare_none (Or.inr hy)] at h
    cases h

theorem parts_ne_of_isNaN {x : Float} (h : x.isNaN = false) : parts x ≠ .notANumber := by
  rw [Bool.eq_false_iff, Ne, isNaN_iff] at h
  exact h

/-- **Away from the missing number the order is that of ranks.** -/
theorem le_iff_rank {x y : Float} (hx : x.isNaN = false) (hy : y.isNaN = false) :
    x ≤ y ↔ RankLe (rank (parts x)) (rank (parts y)) := by
  rw [le_iff_compare]
  have htotal := RankLe.total (rank (parts x)) (rank (parts y))
  rcases compare_rank (parts_ne_of_isNaN hx) (parts_ne_of_isNaN hy) with ⟨hc, h⟩ | ⟨hc, h, _⟩ | ⟨hc, h⟩
  · rw [hc]
    exact ⟨fun _ => htotal.resolve_right h, fun _ => rfl⟩
  · rw [hc]
    exact ⟨fun _ => h, fun _ => rfl⟩
  · rw [hc]
    exact ⟨fun hle => by simp at hle, fun hle => absurd hle h⟩

/-- **Away from the missing number, what is not less is not smaller.** -/
theorem le_of_not_lt {x y : Float} (hx : x.isNaN = false) (hy : y.isNaN = false)
    (h : ¬ y < x) : x ≤ y := by
  rw [le_iff_rank hx hy]
  rw [lt_iff_compare] at h
  rcases compare_rank (parts_ne_of_isNaN hy) (parts_ne_of_isNaN hx) with ⟨hc, _⟩ | ⟨_, _, h'⟩ | ⟨_, h'⟩
  · exact absurd (by rw [hc]; rfl) h
  · exact h'
  · exact (RankLe.total _ _).resolve_right h'

/-- Only the missing number is not equal to itself. -/
theorem le_refl {x : Float} (h : x.isNaN = false) : x ≤ x := (le_iff_rank h h).mpr (RankLe.refl _)

theorem le_of_lt {x y : Float} (h : x < y) : x ≤ y := by
  rw [lt_iff_compare, beq_iff_eq] at h
  rw [le_iff_compare, h]
  rfl

/-- What compares is not the missing number, so that ranks decide. -/
theorem le_trans {x y z : Float} (hxy : x ≤ y) (hyz : y ≤ z) : x ≤ z := by
  obtain ⟨hx, hy⟩ := not_isNaN_of_le hxy
  obtain ⟨-, hz⟩ := not_isNaN_of_le hyz
  rw [le_iff_rank hx hy] at hxy
  rw [le_iff_rank hy hz] at hyz
  rw [le_iff_rank hx hz]
  exact hxy.trans hyz

end LinearProgram.Binary64

/-
  Scan — how decimal literals pass the two scans of an expression.

  1. **Literals** — a mantissa is digits, with a point among or around them if there is one; an
     exponent is a mark, a sign if there is one, and digits. The two scans differ in what they take
     for a digit: the scan for the end of a coefficient takes everything that is like one, the scan
     for signs takes decimal digits only. Those are like digits (`Mantissa.imp`), so a sign that the
     second scan keeps is one that the first scan finds in an exponent.

  2. **Coefficients** — the scan for the end of a coefficient passes over a mantissa and over the
     exponent behind it (`splitFrom_mantissa`, `splitFrom_exponent`).

  3. **Signs** — a stretch ends in a mark exactly if it is blanks, a mantissa and a mark
     (`endsInMark_iff`), so not if a blank stands at its end. Hence the scan for signs passes over the
     sign in an exponent (`ofExpressionFrom_literal`), and stops at one that a blank stands in front
     of.
-/

import LinearProgram.Expression.Token
import LinearProgram.Proofs.Text.Cut

namespace LinearProgram

/-! ## Characters -/

namespace Text

/-- Ranges without blanks. -/
def gaps : Ranges :=
  [(14, 27), (33, 0x84), (0xA1, 0x167F), (0x1681, 0x1FFF), (0x2060, 0x2FFF), (0x3001, 0x10FFFF)]

theorem isBlank_of_gap {c : Char} {first last : Nat}
    (h : ∃ gap ∈ gaps, gap.1 ≤ first ∧ last ≤ gap.2) (hfirst : first ≤ c.toNat)
    (hlast : c.toNat ≤ last) : isBlank c = false := by
  obtain ⟨gap, hgap, hlow, hhigh⟩ := h
  cases hb : isBlank c with
  | false => rfl
  | true =>
    simp only [isBlank, Bool.or_eq_true, Bool.and_eq_true, decide_eq_true_eq, beq_iff_eq] at hb
    simp only [gaps, List.mem_cons, List.not_mem_nil, or_false] at hgap
    rcases hgap with rfl | rfl | rfl | rfl | rfl | rfl <;> omega

/-- A decimal digit is one of the ten of some script. -/
theorem exists_zero_of_isDecimal {c : Char} (h : isDecimal c = true) :
    ∃ z ∈ 0x30 :: decimalZeros, z ≤ c.toNat ∧ c.toNat ≤ z + 9 := by
  unfold isDecimal decimalValue? at h
  dsimp only at h
  split at h
  · split at h
    · next hc =>
      simp only [Bool.and_eq_true, decide_eq_true_eq] at hc
      exact ⟨0x30, List.mem_cons_self, hc⟩
    · cases h
  · rw [Option.isSome_map] at h
    obtain ⟨z, hz⟩ := Option.isSome_iff_exists.mp h
    have hc := List.find?_some hz
    simp only [Bool.and_eq_true, decide_eq_true_eq] at hc
    exact ⟨z, List.mem_cons_of_mem _ (List.mem_of_find?_eq_some hz), hc⟩

theorem isBlank_of_isDecimal {c : Char} (h : isDecimal c = true) : isBlank c = false := by
  have hgaps : ∀ z ∈ 0x30 :: decimalZeros,
      ∃ gap ∈ gaps, gap.1 ≤ z ∧ z + 9 ≤ gap.2 := by
    decide
  obtain ⟨z, hz, hfirst, hlast⟩ := exists_zero_of_isDecimal h
  exact isBlank_of_gap (hgaps z hz) hfirst hlast

/-- **No digit is blank**, of whichever script. -/
theorem isBlank_of_isDigitLike {c : Char} (h : isDigitLike c = true) : isBlank c = false := by
  have hgaps : ∀ r ∈ otherDigits, ∃ gap ∈ gaps, gap.1 ≤ r.1 ∧ r.2 ≤ gap.2 := by
    decide
  rw [isDigitLike, Bool.or_eq_true] at h
  rcases h with h | h
  · exact isBlank_of_isDecimal h
  · obtain ⟨r, hr, hfirst, hlast⟩ := (Ranges.has_iff _ _).mp h
    exact isBlank_of_gap (hgaps r hr) hfirst hlast

end Text

namespace Sign

theorem eq_toChar_of_ofChar? {c : Char} {s : Sign} (h : ofChar? c = some s) : c = s.toChar := by
  unfold ofChar? at h
  split at h
  · next hc =>
    cases h
    exact hc
  · split at h
    · next hc =>
      cases h
      exact hc
    · cases h

/-- A sign is neither a digit nor blank. -/
theorem toChar_spec (s : Sign) :
    Text.isDigitLike s.toChar = false ∧ Text.isBlank s.toChar = false := by
  cases s <;> decide

theorem ofChar?_eq_none {c : Char} (h : ∀ s : Sign, c ≠ s.toChar) : ofChar? c = none := by
  cases hc : ofChar? c with
  | none => rfl
  | some s => exact absurd (eq_toChar_of_ofChar? hc) (h s)

theorem ofChar?_of_isDigitLike {c : Char} (h : Text.isDigitLike c = true) : ofChar? c = none := by
  refine ofChar?_eq_none fun s hs => ?_
  rw [hs, s.toChar_spec.1] at h
  cases h

theorem ofChar?_of_isBlank {c : Char} (h : Text.isBlank c = true) : ofChar? c = none := by
  refine ofChar?_eq_none fun s hs => ?_
  rw [hs, s.toChar_spec.2] at h
  cases h

end Sign

namespace Addend

/-- What an exponent mark is not. -/
theorem mark_spec {m : Char} (h : isMark m = true) : Text.isDigitLike m = false ∧
    Text.isBlank m = false ∧ Sign.ofChar? m = none ∧ m ≠ '.' := by
  unfold isMark at h
  rw [Bool.or_eq_true, beq_iff_eq, beq_iff_eq] at h
  rcases h with rfl | rfl <;> decide

/-! ## Literals -/

/-- Digits, and a point among or around them if there is one. -/
inductive Mantissa (digit : Char → Bool) : Text → Prop where
  | whole {ds : Text} (hds : ∀ c ∈ ds, digit c = true) (hne : ds ≠ []) : Mantissa digit ds
  | point {ds fs : Text} (hds : ∀ c ∈ ds, digit c = true) (hfs : ∀ c ∈ fs, digit c = true)
      (hne : ds ++ fs ≠ []) : Mantissa digit (ds ++ '.' :: fs)

/-- A mark, a sign if there is one, and digits. -/
inductive Exponent : Text → Prop where
  | unsigned {m : Char} {ds : Text} (hm : isMark m = true)
      (hds : ∀ c ∈ ds, Text.isDigitLike c = true) (hne : ds ≠ []) : Exponent (m :: ds)
  | signed {m : Char} {ds : Text} (hm : isMark m = true) (s : Sign)
      (hds : ∀ c ∈ ds, Text.isDigitLike c = true) (hne : ds ≠ []) : Exponent (m :: s.toChar :: ds)

section

variable {digit digit' : Char → Bool} {t : Text}

theorem Mantissa.imp (h : Mantissa digit t) (himp : ∀ c, digit c = true → digit' c = true) :
    Mantissa digit' t := by
  cases h with
  | whole hds hne => exact .whole (fun c hc => himp c (hds c hc)) hne
  | point hds hfs hne =>
    exact .point (fun c hc => himp c (hds c hc)) (fun c hc => himp c (hfs c hc)) hne

theorem Mantissa.ne_nil (h : Mantissa digit t) : t ≠ [] := by
  cases h with
  | whole _ hne => exact hne
  | point _ _ _ => exact List.append_ne_nil_of_right_ne_nil _ (List.cons_ne_nil _ _)

/-- The characters of a mantissa. -/
theorem Mantissa.digit_or_point (h : Mantissa digit t) : ∀ c ∈ t, digit c = true ∨ c = '.' := by
  intro c hc
  cases h with
  | whole hds _ => exact Or.inl (hds c hc)
  | point hds hfs _ =>
    rcases List.mem_append.mp hc with hc | hc
    · exact Or.inl (hds c hc)
    · rcases List.mem_cons.mp hc with rfl | hc
      · exact Or.inr rfl
      · exact Or.inl (hfs c hc)

/-- Neither blanks nor signs stand in a mantissa. -/
theorem Mantissa.not_blank (h : Mantissa Text.isDigitLike t) :
    ∀ c ∈ t, Text.isBlank c = false ∧ Sign.ofChar? c = none := by
  intro c hc
  rcases h.digit_or_point c hc with hdigit | rfl
  · exact ⟨Text.isBlank_of_isDigitLike hdigit, Sign.ofChar?_of_isDigitLike hdigit⟩
  · decide

theorem Exponent.not_blank (h : Exponent t) : ∀ c ∈ t, Text.isBlank c = false := by
  intro c hc
  cases h with
  | unsigned hm hds _ =>
    rcases List.mem_cons.mp hc with rfl | hc
    · exact (mark_spec hm).2.1
    · exact Text.isBlank_of_isDigitLike (hds c hc)
  | signed hm s hds _ =>
    rcases List.mem_cons.mp hc with rfl | hc
    · exact (mark_spec hm).2.1
    · rcases List.mem_cons.mp hc with rfl | hc
      · exact s.toChar_spec.2
      · exact Text.isBlank_of_isDigitLike (hds c hc)

end

/-! ## Coefficients -/

/-- A text put in front of what was cut. -/
def prepend (t : Text) (cut : Text × Text) : Text × Text := (t ++ cut.1, cut.2)

theorem map_prepend_append (t u : Text) (cut : Option (Text × Text)) :
    (cut.map (prepend u)).map (prepend t) = cut.map (prepend (t ++ u)) := by
  cases cut with
  | none => rfl
  | some cut =>
    show some (t ++ (u ++ cut.1), cut.2) = some (t ++ u ++ cut.1, cut.2)
    rw [List.append_assoc]

theorem splitFrom_cons {state next : Scan} {c : Char} {rest : Text}
    (h : state.step c rest = some next) :
    splitFrom state (c :: rest) = (splitFrom next rest).map (prepend [c]) := by
  rw [splitFrom, h]
  rfl

/-- The state behind a digit. -/
def behindDigit : Scan → Scan
  | .opening | .digits => .digits
  | .mark | .exponent => .exponent

theorem step_digit (state : Scan) {c : Char} (h : Text.isDigitLike c = true) (rest : Text) :
    state.step c rest = some (behindDigit state) := by
  unfold Scan.step
  rw [if_pos h]
  cases state <;> rfl

theorem step_point {state : Scan} (rest : Text) (h : state = .opening ∨ state = .digits) :
    state.step '.' rest = some state := by
  unfold Scan.step
  rw [if_neg (by decide), if_pos rfl]
  rcases h with rfl | rfl <;> rfl

theorem step_mark {m : Char} (hm : isMark m = true) {rest : Text}
    (h : exponentFollows rest = true) : Scan.step .digits m rest = some .mark := by
  obtain ⟨hdigit, -, -, hpoint⟩ := mark_spec hm
  unfold Scan.step
  rw [if_neg (by simp [hdigit]), if_neg hpoint, if_pos (by simp [hm, h])]

theorem step_sign (s : Sign) (rest : Text) :
    Scan.step .mark s.toChar rest = some .exponent := by
  unfold Scan.step
  cases s <;> rfl

/-- A coefficient ends at a blank. -/
theorem step_blank (state : Scan) {b : Char} (hb : Text.isBlank b = true) (rest : Text) :
    state.step b rest = none := by
  have hdigit : Text.isDigitLike b = false := by
    cases h : Text.isDigitLike b with
    | false => rfl
    | true =>
      rw [Text.isBlank_of_isDigitLike h] at hb
      cases hb
  have hmark : isMark b = false := by
    cases h : isMark b with
    | false => rfl
    | true =>
      rw [(mark_spec h).2.1] at hb
      cases hb
  have hpoint : b ≠ '.' := by
    rintro rfl
    cases hb
  unfold Scan.step
  rw [if_neg (by simp [hdigit]), if_neg hpoint, if_neg (by simp [hmark]),
    if_neg (by simp [Sign.ofChar?_of_isBlank hb])]

theorem exponentFollows_digit {c : Char} (h : Text.isDigitLike c = true) (rest : Text) :
    exponentFollows (c :: rest) = true := by
  cases rest with
  | nil => exact h
  | cons d rest =>
    show (Text.isDigitLike c || _) = true
    rw [h]
    rfl

theorem exponentFollows_sign (s : Sign) {c : Char} (h : Text.isDigitLike c = true) (rest : Text) :
    exponentFollows (s.toChar :: c :: rest) = true := by
  show (Text.isDigitLike s.toChar || ((Sign.ofChar? s.toChar).isSome && Text.isDigitLike c)) = true
  rw [Sign.ofChar?_toChar, h]
  exact Bool.or_true _

/-- The scan passes over digits; `next` is the state behind them. -/
theorem splitFrom_digits (state next : Scan) {ds : Text} (rest : Text)
    (h : ∀ c ∈ ds, Text.isDigitLike c = true) (hnext : behindDigit next = next)
    (hstate : behindDigit state = next) (hne : ds ≠ [] ∨ state = next) :
    splitFrom state (ds ++ rest) = (splitFrom next rest).map (prepend ds) := by
  induction ds generalizing state with
  | nil =>
    rcases hne with hne | rfl
    · exact absurd rfl hne
    · show splitFrom state rest = _
      cases splitFrom state rest <;> rfl
  | cons c ds ih =>
    have hds : ∀ d ∈ ds, Text.isDigitLike d = true := fun d hd => h d (List.mem_cons_of_mem c hd)
    rw [List.cons_append, splitFrom_cons (step_digit state (h c List.mem_cons_self) _), hstate,
      ih next hds hnext (Or.inr rfl), map_prepend_append]
    rfl

/-- **The scan passes over a mantissa**: behind it a digit was seen, in front of the point or
    behind it. -/
theorem splitFrom_mantissa {t : Text} (h : Mantissa Text.isDigitLike t) (rest : Text) :
    splitFrom .opening (t ++ rest) = (splitFrom .digits rest).map (prepend t) := by
  cases h with
  | whole hds hne => exact splitFrom_digits .opening .digits rest hds rfl rfl (Or.inl hne)
  | @point ds fs hds hfs hne =>
    rw [List.append_assoc, List.cons_append]
    by_cases hnil : ds = []
    · -- the point is passed over before any digit was seen, and a digit must follow
      subst hnil
      rw [List.nil_append, List.nil_append, splitFrom_cons (step_point (fs ++ rest) (Or.inl rfl)),
        splitFrom_digits .opening .digits rest hfs rfl rfl (Or.inl hne), map_prepend_append]
      rfl
    · rw [splitFrom_digits .opening .digits ('.' :: (fs ++ rest)) hds rfl rfl (Or.inl hnil),
        splitFrom_cons (step_point (fs ++ rest) (Or.inr rfl)),
        splitFrom_digits .digits .digits rest hfs rfl rfl (Or.inr rfl),
        map_prepend_append, map_prepend_append, List.append_assoc]
      rfl

/-- **The scan passes over an exponent**: the mark is one because a digit follows. -/
theorem splitFrom_exponent {t : Text} (h : Exponent t) (rest : Text) :
    splitFrom .digits (t ++ rest) = (splitFrom .exponent rest).map (prepend t) := by
  cases h with
  | @unsigned m ds hm hds hne =>
    have hfollows : exponentFollows (ds ++ rest) = true := by
      cases ds with
      | nil => exact absurd rfl hne
      | cons c ds => exact exponentFollows_digit (hds c List.mem_cons_self) _
    rw [List.cons_append, splitFrom_cons (step_mark hm hfollows),
      splitFrom_digits .mark .exponent rest hds rfl rfl (Or.inl hne), map_prepend_append]
    rfl
  | @signed m ds hm s hds hne =>
    have hfollows : exponentFollows (s.toChar :: (ds ++ rest)) = true := by
      cases ds with
      | nil => exact absurd rfl hne
      | cons c ds => exact exponentFollows_sign s (hds c List.mem_cons_self) _
    rw [List.cons_append, List.cons_append, splitFrom_cons (step_mark hm hfollows),
      splitFrom_cons (step_sign s _),
      splitFrom_digits .exponent .exponent rest hds rfl rfl (Or.inr rfl), map_prepend_append,
      map_prepend_append]
    rfl

end Addend

/-! ## Signs -/

namespace Token

/-- The scan passes over a text without signs. -/
theorem ofExpressionFrom_append {t : Text} (h : ∀ c ∈ t, Sign.ofChar? c = none)
    (stretch rest : Text) :
    ofExpressionFrom stretch (t ++ rest) = ofExpressionFrom (stretch ++ t) rest := by
  induction t generalizing stretch with
  | nil => rw [List.append_nil]; rfl
  | cons c t ih =>
    have ht : ∀ d ∈ t, Sign.ofChar? d = none := fun d hd => h d (List.mem_cons_of_mem c hd)
    rw [List.cons_append, ofExpressionFrom, h c List.mem_cons_self]
    dsimp only
    rw [ih ht, List.append_assoc]
    rfl

/-- The scan passes over blanks. -/
theorem ofExpressionFrom_gap {gap : Text} (hgap : gap.isBlankOnly = true) (stretch rest : Text) :
    ofExpressionFrom stretch (gap ++ rest) = ofExpressionFrom (stretch ++ gap) rest :=
  ofExpressionFrom_append (fun _ hc => Sign.ofChar?_of_isBlank (List.all_eq_true.mp hgap _ hc)) _ _

/-- **A sign that stands behind no mark separates addends.** -/
theorem ofExpressionFrom_sign {stretch : Text} (h : endsInMark stretch = false) (s : Sign)
    (rest : Text) :
    ofExpressionFrom stretch (s.toChar :: rest) =
      addends stretch ++ .sign s :: ofExpressionFrom [] rest := by
  rw [ofExpressionFrom, Sign.ofChar?_toChar]
  dsimp only
  rw [h, Bool.false_and, if_neg Bool.false_ne_true]

/-- **A sign behind a mark and in front of a digit is passed over.** -/
theorem ofExpressionFrom_kept {stretch rest : Text} (h : endsInMark stretch = true)
    (hrest : beginsWithDigit rest = true) (s : Sign) :
    ofExpressionFrom stretch (s.toChar :: rest) =
      ofExpressionFrom (stretch ++ [s.toChar]) rest := by
  rw [ofExpressionFrom, Sign.ofChar?_toChar]
  dsimp only
  rw [h, hrest, Bool.and_true, if_pos rfl]

theorem addends_of_blankOnly {gap : Text} (hgap : gap.isBlankOnly = true) : addends gap = [] := by
  unfold addends
  rw [Text.words_of_blankOnly hgap]
  rfl

/-! ### Ends -/

theorem takeWhile_isDecimal {ds rest : Text} (h : ∀ c ∈ ds, Text.isDecimal c = true)
    (hrest : ∀ c, rest.head? = some c → Text.isDecimal c = false) :
    (ds ++ rest).takeWhile Text.isDecimal = ds ∧ (ds ++ rest).dropWhile Text.isDecimal = rest := by
  rw [List.takeWhile_append_of_pos h, List.dropWhile_append_of_pos h]
  cases rest with
  | nil => exact ⟨List.append_nil ds, rfl⟩
  | cons c rest =>
    have hc := hrest c rfl
    rw [List.takeWhile_cons_of_neg (by simp [hc]), List.dropWhile_cons_of_neg (by simp [hc]),
      List.append_nil]
    exact ⟨rfl, rfl⟩

theorem isDecimal_of_isMark {m : Char} (h : Addend.isMark m = true) : Text.isDecimal m = false := by
  have hdigit := (Addend.mark_spec h).1
  unfold Text.isDigitLike at hdigit
  exact (Bool.or_eq_false_iff.mp hdigit).1

/-- A mark behind decimal digits, and nothing else. -/
theorem isMarkAlone_iff (t : Text) : isMarkAlone (t.dropWhile Text.isDecimal) = true ↔
    ∃ ds m, t = ds ++ [m] ∧ Addend.isMark m = true ∧ ∀ c ∈ ds, Text.isDecimal c = true := by
  constructor
  · intro h
    have ht := (List.takeWhile_append_dropWhile (p := Text.isDecimal) (l := t)).symm
    unfold isMarkAlone at h
    split at h
    · next m hm =>
      rw [hm] at ht
      exact ⟨_, m, ht, h, fun c hc => List.mem_takeWhile_imp hc⟩
    · cases h
  · rintro ⟨ds, m, rfl, hm, hds⟩
    have hmark : ∀ c, [m].head? = some c → Text.isDecimal c = false := by
      rintro c ⟨⟩
      exact isDecimal_of_isMark hm
    rw [(takeWhile_isDecimal hds hmark).2]
    exact hm

section

variable {stretch t : Text} {m : Char}

/-- What ends in a mark is, blanks in front apart, a mantissa and the mark. -/
theorem exists_mantissa_of_endsInMark (h : endsInMark stretch = true) :
    ∃ t m, stretch.trimStart = t ++ [m] ∧ Addend.isMark m = true ∧
      Addend.Mantissa Text.isDecimal t := by
  unfold endsInMark at h
  dsimp only at h
  generalize stretch.trimStart = number at h ⊢
  have hwhole : ∀ c ∈ number.takeWhile Text.isDecimal, Text.isDecimal c = true :=
    fun c hc => List.mem_takeWhile_imp hc
  have hnumber := (List.takeWhile_append_dropWhile (p := Text.isDecimal) (l := number)).symm
  split at h
  · -- no digit in front of the point, so there are some behind it
    next rest hnil hrest =>
    rw [Bool.and_eq_true] at h
    obtain ⟨fs, m, rfl, hm, hfs⟩ := (isMarkAlone_iff rest).mp h.2
    have hne : fs ≠ [] := by
      rintro rfl
      rw [List.nil_append, List.takeWhile_cons_of_neg (by simp [isDecimal_of_isMark hm])] at h
      exact absurd h.1 (by decide)
    have hmantissa : Addend.Mantissa Text.isDecimal ([] ++ '.' :: fs) :=
      .point (fun c hc => absurd hc List.not_mem_nil) hfs hne
    rw [hnil, hrest] at hnumber
    exact ⟨'.' :: fs, m, hnumber, hm, hmantissa⟩
  · cases h
  · next c ds rest hds hrest =>
    obtain ⟨fs, m, rfl, hm, hfs⟩ := (isMarkAlone_iff rest).mp h
    rw [hds] at hwhole
    rw [hds, hrest] at hnumber
    refine ⟨(c :: ds) ++ '.' :: fs, m, ?_, hm, .point hwhole hfs (List.cons_ne_nil _ _)⟩
    rw [hnumber, List.append_assoc]
    rfl
  · -- no point
    next c ds hds hpoint =>
    obtain ⟨ds', m, hds', hm, hdecimal⟩ := (isMarkAlone_iff number).mp h
    refine ⟨ds', m, hds', hm, .whole hdecimal ?_⟩
    rintro rfl
    rw [hds', List.nil_append, List.takeWhile_cons_of_neg (by simp [isDecimal_of_isMark hm])] at hds
    cases hds

/-- A mantissa and a mark end in a mark. -/
theorem endsInMark_of_mantissa (hstretch : stretch.trimStart = t ++ [m])
    (hm : Addend.isMark m = true) (ht : Addend.Mantissa Text.isDecimal t) :
    endsInMark stretch = true := by
  have hmark : ∀ c, [m].head? = some c → Text.isDecimal c = false := by
    rintro c ⟨⟩
    exact isDecimal_of_isMark hm
  have hpoint := (Addend.mark_spec hm).2.2.2
  unfold endsInMark
  dsimp only
  rw [hstretch]
  cases ht with
  | whole hds hne =>
    rw [(takeWhile_isDecimal hds hmark).1, (takeWhile_isDecimal hds hmark).2]
    cases t with
    | nil => exact absurd rfl hne
    | cons c t =>
      split
      · next heq _ => cases heq
      · next heq _ => cases heq
      · next heq => exact absurd (List.cons.inj heq).1 hpoint
      · exact hm
  | @point ds fs hds hfs hne =>
    have hbehind : ∀ c, ('.' :: (fs ++ [m])).head? = some c → Text.isDecimal c = false := by
      rintro c ⟨⟩
      decide
    have halone : isMarkAlone ((fs ++ [m]).dropWhile Text.isDecimal) = true :=
      (isMarkAlone_iff _).mpr ⟨fs, m, rfl, hm, hfs⟩
    rw [List.append_assoc, List.cons_append, (takeWhile_isDecimal hds hbehind).1,
      (takeWhile_isDecimal hds hbehind).2]
    cases ds with
    | nil =>
      show (! ((fs ++ [m]).takeWhile Text.isDecimal).isEmpty && _) = true
      rw [(takeWhile_isDecimal hfs hmark).1, halone]
      cases fs with
      | nil => exact absurd rfl hne
      | cons c fs => rfl
    | cons c ds => exact halone

end

/-- **What ends in a mark** is exactly, blanks in front apart, a mantissa and the mark. -/
theorem endsInMark_iff (stretch : Text) : endsInMark stretch = true ↔
    ∃ t m, stretch.trimStart = t ++ [m] ∧ Addend.isMark m = true ∧
      Addend.Mantissa Text.isDecimal t :=
  ⟨exists_mantissa_of_endsInMark, fun ⟨_, _, hstretch, hm, ht⟩ =>
    endsInMark_of_mantissa hstretch hm ht⟩

/-- A mantissa and a mark, with blanks in front. -/
theorem endsInMark_mantissa {gap t : Text} (hgap : gap.isBlankOnly = true)
    (ht : Addend.Mantissa Text.isDecimal t) {m : Char} (hm : Addend.isMark m = true) :
    endsInMark (gap ++ (t ++ [m])) = true := by
  refine endsInMark_of_mantissa ?_ hm ht
  rw [Text.trimStart_append_of_blankOnly _ hgap]
  apply Text.trimStart_of_head
  intro c hc
  have hdigits := ht.imp fun c hc => Text.isDigitLike_of_isDecimal hc
  have hmem : c ∈ t := by
    cases t with
    | nil => exact absurd rfl ht.ne_nil
    | cons d t =>
      cases hc
      exact List.mem_cons_self
  exact (hdigits.not_blank c hmem).1

/-- **The scan passes over a literal with an exponent**: the sign in it stands behind a mark and in
    front of a digit. -/
theorem ofExpressionFrom_literal {gap t e : Text} (hgap : gap.isBlankOnly = true)
    (ht : Addend.Mantissa Text.isDecimal t) (he : Addend.Exponent e) (rest : Text) :
    ofExpressionFrom gap (t ++ (e ++ rest)) = ofExpressionFrom (gap ++ (t ++ e)) rest := by
  have hsigns : ∀ c ∈ t, Sign.ofChar? c = none := fun c hc =>
    ((ht.imp fun c hc => Text.isDigitLike_of_isDecimal hc).not_blank c hc).2
  rw [ofExpressionFrom_append hsigns, ← List.append_assoc gap]
  cases he with
  | @unsigned m ds hm hds _ =>
    apply ofExpressionFrom_append
    intro c hc
    rcases List.mem_cons.mp hc with rfl | hc
    · exact (Addend.mark_spec hm).2.2.1
    · exact Sign.ofChar?_of_isDigitLike (hds c hc)
  | @signed m ds hm s hds hne =>
    have hmark : ∀ c ∈ [m], Sign.ofChar? c = none :=
      List.forall_mem_singleton.mpr (Addend.mark_spec hm).2.2.1
    have hends : endsInMark (gap ++ t ++ [m]) = true := by
      rw [List.append_assoc]
      exact endsInMark_mantissa hgap ht hm
    have hdigit : beginsWithDigit (ds ++ rest) = true := by
      cases ds with
      | nil => exact absurd rfl hne
      | cons c ds => exact hds c List.mem_cons_self
    show ofExpressionFrom (gap ++ t) ([m] ++ s.toChar :: (ds ++ rest)) = _
    rw [ofExpressionFrom_append hmark, ofExpressionFrom_kept hends hdigit,
      ofExpressionFrom_append fun c hc => Sign.ofChar?_of_isDigitLike (hds c hc)]
    simp only [List.append_assoc, List.cons_append, List.nil_append]

/-- What is blank ends in no mark. -/
theorem endsInMark_of_blankOnly {stretch : Text} (h : stretch.isBlankOnly = true) :
    endsInMark stretch = false := by
  unfold endsInMark
  rw [(Text.trimStart_eq_nil_iff stretch).mpr h]
  rfl

/-- What has a blank behind its first character ends in no mark that a sign could belong to. -/
theorem endsInMark_of_mem {stretch : Text} {c : Char} (hc : c ∈ stretch.trimStart)
    (hblank : Text.isBlank c = true) : endsInMark stretch = false := by
  cases h : endsInMark stretch with
  | false => rfl
  | true =>
    obtain ⟨t, m, ht, hm, hmantissa⟩ := (endsInMark_iff stretch).mp h
    have hnot : Text.isBlank c = false := by
      rw [ht] at hc
      rcases List.mem_append.mp hc with hc | hc
      · exact ((hmantissa.imp fun c hc => Text.isDigitLike_of_isDecimal hc).not_blank c hc).1
      · rw [List.mem_singleton.mp hc]
        exact (Addend.mark_spec hm).2.1
    rw [hblank] at hnot
    cases hnot

/-- A blank ends what a mark could stand at the end of. -/
theorem endsInMark_append_blank (stretch : Text) {b : Char} (hb : Text.isBlank b = true) :
    endsInMark (stretch ++ [b]) = false := by
  by_cases hblank : stretch.isBlankOnly = true
  · apply endsInMark_of_blankOnly
    unfold Text.isBlankOnly at hblank ⊢
    rw [List.all_append, hblank, List.all_cons, hb]
    rfl
  · have hmem : b ∈ (stretch ++ [b]).trimStart := by
      rw [Text.trimStart_append _ (Bool.not_eq_true _ ▸ hblank)]
      exact List.mem_append_right _ (List.mem_singleton.mpr rfl)
    exact endsInMark_of_mem hmem hb

end Token

end LinearProgram

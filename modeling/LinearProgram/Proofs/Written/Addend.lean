/-
  Addend — a literal in front of a name, with blanks in between or without.

  1. **Names** — where the scan for the end of a coefficient comes to a name, it stops. Only behind a
     mantissa it may take the name's first character for an exponent mark, namely if that is one and
     a digit stands behind it (`BeginsExponent`).

  2. **Addends** — so a literal and a name are told apart, unless the literal has no exponent and the
     name begins like one. The literal may have the digits of any script (`Addend.read_literal`).
-/

import LinearProgram.Proofs.Expression.Meaning
import LinearProgram.Proofs.Written.Expression

namespace LinearProgram.Addend

open Written (GivenName initial_spec inner_spec)

/-! ## Names -/

/-- The text begins with an exponent mark and a digit. -/
def BeginsExponent (t : Text) : Prop :=
  ∃ m d rest, t = m :: d :: rest ∧ isMark m = true ∧ Text.isDigitLike d = true

/-- The scan stops where the step does. -/
theorem splitFrom_stops {state : Scan} {c : Char} {rest : Text}
    (h : state.step c rest = none) : splitFrom state (c :: rest) = some ([], c :: rest) := by
  rw [splitFrom, h]

/-- Without signs only a digit makes an exponent mark. -/
theorem exponentFollows_iff {t : Text} (h : ∀ c ∈ t, Sign.ofChar? c = none) :
    exponentFollows t = true ↔ ∃ d rest, t = d :: rest ∧ Text.isDigitLike d = true := by
  constructor
  · intro hfollows
    match t, h, hfollows with
    | [d], _, hfollows => exact ⟨d, [], rfl, hfollows⟩
    | d :: d' :: rest, h, hfollows =>
      have hd := h d List.mem_cons_self
      have hor : (Text.isDigitLike d || ((Sign.ofChar? d).isSome && Text.isDigitLike d')) = true :=
        hfollows
      rw [hd] at hor
      exact ⟨d, _, rfl, by simpa using hor⟩
  · rintro ⟨d, rest, rfl, hd⟩
    exact exponentFollows_digit hd rest

section

variable (x : GivenName)

/-- The first character of a name is passed over behind a mantissa only, and only as an exponent
    mark. -/
theorem step_name {state : Scan} {c : Char} {rest : Text} (hx : x.text = c :: rest) :
    state.step c rest = none ∨
      state = .digits ∧ state.step c rest = some .mark ∧ BeginsExponent x.text := by
  obtain ⟨c', rest', hx', hinitial, hinner⟩ := x.eq_cons
  rw [hx] at hx'
  cases hx'
  obtain ⟨hdigit, hpoint, hplus, hminus⟩ := initial_spec hinitial
  have hsign : Sign.ofChar? c = none := by
    unfold Sign.ofChar?
    rw [if_neg hplus, if_neg hminus]
  have hsigns : ∀ d ∈ rest, Sign.ofChar? d = none := fun d hd =>
    (inner_spec (List.all_eq_true.mp hinner d hd)).2.1
  by_cases hmark : (isMark c && state == .digits && exponentFollows rest) = true
  · simp only [Bool.and_eq_true, beq_iff_eq] at hmark
    obtain ⟨⟨hm, rfl⟩, hfollows⟩ := hmark
    obtain ⟨d, rest, rfl, hd⟩ := (exponentFollows_iff hsigns).mp hfollows
    exact Or.inr ⟨rfl, step_mark hm hfollows, c, d, rest, hx, hm, hd⟩
  · refine Or.inl ?_
    unfold Scan.step
    rw [if_neg (by simp [hdigit]), if_neg hpoint, if_neg hmark, if_neg (by simp [hsign])]

/-- **The scan stops at a name**, except behind a mantissa at one that begins like an exponent. -/
theorem splitFrom_name {state : Scan} (h : ¬ (state = .digits ∧ BeginsExponent x.text)) :
    splitFrom state x.text = some ([], x.text) := by
  obtain ⟨c, rest, hx, -⟩ := x.eq_cons
  rcases step_name x hx with hstep | ⟨hstate, -, hbegins⟩
  · rw [hx]
    exact splitFrom_stops hstep
  · exact absurd ⟨hstate, hbegins⟩ h

/-- There it leaves less than the name. -/
theorem length_lt_of_splitFrom (h : BeginsExponent x.text) {front back : Text}
    (hcut : splitFrom .digits x.text = some (front, back)) : back.length < x.text.length := by
  obtain ⟨m, d, rest, hx, hm, hd⟩ := h
  have hstep : Scan.step .digits m (d :: rest) = some .mark :=
    step_mark hm (exponentFollows_digit hd rest)
  rw [hx, splitFrom_cons hstep] at hcut
  obtain ⟨⟨front', back'⟩, hrest, heq⟩ := Option.map_eq_some_iff.mp hcut
  obtain ⟨-, rfl⟩ := Prod.mk.inj heq
  have hlength := congrArg List.length (append_of_splitFrom hrest)
  rw [List.length_append] at hlength
  rw [hx, List.length_cons, ← hlength]
  exact Nat.lt_succ_of_le (Nat.le_add_left _ _)

end

/-! ## Addends -/

/-- The text without the blanks around it is at most as long. -/
theorem length_le_of_read {t name : Text} (h : Name.read t = .ok name) :
    name.length ≤ t.length := by
  obtain ⟨rfl, -⟩ := (Name.read_eq_ok_iff t name).mp h
  exact ((Text.trimEnd_isPrefix _).length_le).trans (List.dropWhile_sublist _).length_le

/-- The scan passes over a literal; the state behind it tells whether there is an exponent. -/
theorem exists_splitFrom_literal {mantissa exponent : Text}
    (hmantissa : Mantissa Text.isDigitLike mantissa)
    (hexponent : exponent = [] ∨ Exponent exponent) :
    ∃ state, (state = .digits ↔ exponent = []) ∧ ∀ rest,
      numericSplit? (mantissa ++ exponent ++ rest) =
        (splitFrom state rest).map (prepend (mantissa ++ exponent)) := by
  unfold numericSplit?
  rcases hexponent with rfl | hexponent
  · refine ⟨.digits, ⟨fun _ => rfl, fun _ => rfl⟩, fun rest => ?_⟩
    rw [List.append_nil, splitFrom_mantissa hmantissa]
  · have hne : exponent ≠ [] := by
      rintro rfl
      cases hexponent
    refine ⟨.exponent, ⟨nofun, fun h => absurd h hne⟩, fun rest => ?_⟩
    rw [List.append_assoc, splitFrom_mantissa hmantissa, splitFrom_exponent hexponent,
      map_prepend_append]

section

variable {mantissa exponent : Text} {v : Float}

/-- An addend that is cut behind a literal, in front of a name. -/
theorem read_of_cut (hmantissa : Mantissa Text.isDigitLike mantissa)
    (hv : Quantity.read (mantissa ++ exponent) = .ok v) {t back name : Text}
    (h : numericSplit? t = some (mantissa ++ exponent ++ [], back))
    (hname : Name.read back = .ok name) : read t = .ok (v, name) := by
  rw [List.append_nil] at h
  have hne : mantissa ++ exponent ≠ [] := List.append_ne_nil_of_left_ne_nil hmantissa.ne_nil _
  exact (read_eq_ok_iff t v name).mpr ⟨_, back, h, Or.inr ⟨hne, hv⟩, hname⟩

/-- A blank ends the coefficient, and does not belong to the name. -/
theorem read_gap (hmantissa : Mantissa Text.isDigitLike mantissa)
    (hexponent : exponent = [] ∨ Exponent exponent)
    (hv : Quantity.read (mantissa ++ exponent) = .ok v) (x : GivenName) {gap : Text}
    (hne : gap ≠ []) (hgap : gap.isBlankOnly = true) :
    read (mantissa ++ exponent ++ (gap ++ x.text)) = .ok (v, x.text) := by
  obtain ⟨state, -, hcut⟩ := exists_splitFrom_literal hmantissa hexponent
  have hname : Name.read (gap ++ x.text) = .ok x.text := by
    apply x.read_of_trim
    rw [Text.trim, Text.trimStart_append_of_blankOnly _ hgap]
    exact x.isWord.isTrimmed.trim_eq
  cases gap with
  | nil => exact absurd rfl hne
  | cons b gap =>
    have hb : Text.isBlank b = true := List.all_eq_true.mp hgap b List.mem_cons_self
    have hsplit := hcut (b :: gap ++ x.text)
    rw [List.cons_append, splitFrom_stops (step_blank state hb _)] at hsplit
    exact read_of_cut hmantissa hv hsplit hname

/-- Without blanks it is the name that decides. -/
theorem read_adjacent_iff (hmantissa : Mantissa Text.isDigitLike mantissa)
    (hexponent : exponent = [] ∨ Exponent exponent)
    (hv : Quantity.read (mantissa ++ exponent) = .ok v) (x : GivenName) :
    read (mantissa ++ exponent ++ x.text) = .ok (v, x.text) ↔
      ¬ (exponent = [] ∧ BeginsExponent x.text) := by
  obtain ⟨state, hstate, hcut⟩ := exists_splitFrom_literal hmantissa hexponent
  constructor
  · -- what begins like an exponent is one, and so the name that is read is a shorter one
    rintro hread ⟨hnil, hbegins⟩
    obtain ⟨front, back, hsplit, -, hback⟩ := (read_eq_ok_iff _ _ _).mp hread
    rw [hcut, hstate.mpr hnil] at hsplit
    obtain ⟨⟨front', back'⟩, hrest, heq⟩ := Option.map_eq_some_iff.mp hsplit
    obtain ⟨-, rfl⟩ := Prod.mk.inj heq
    have hlt := length_lt_of_splitFrom x hbegins hrest
    exact absurd (length_le_of_read hback) (Nat.not_le_of_lt hlt)
  · intro hapart
    have hsplit := hcut x.text
    rw [splitFrom_name x fun h => hapart ⟨hstate.mp h.1, h.2⟩] at hsplit
    exact read_of_cut hmantissa hv hsplit x.read_text

end

/-- **A literal and a name are told apart**: always if there are blanks in between, and without them
    unless the literal has no exponent and the name begins like one. A name alone has the
    coefficient one. -/
theorem read_literal {mantissa exponent : Text} (hmantissa : Mantissa Text.isDigitLike mantissa)
    (hexponent : exponent = [] ∨ Exponent exponent) {v : Float}
    (hv : Quantity.read (mantissa ++ exponent) = .ok v) {x : Text} (hx : Name.isName x = true) :
    (∀ gap : Text, gap ≠ [] → gap.isBlankOnly = true →
      read (mantissa ++ exponent ++ (gap ++ x)) = .ok (v, x)) ∧
      (read (mantissa ++ exponent ++ x) = .ok (v, x) ↔ ¬ (exponent = [] ∧ BeginsExponent x)) ∧
      read x = .ok (1.0, x) :=
  ⟨fun _ hne hgap => read_gap hmantissa hexponent hv ⟨x, hx⟩ hne hgap,
    read_adjacent_iff hmantissa hexponent hv ⟨x, hx⟩, (GivenName.mk x hx).read_addend⟩

/-- `2.5e-1e5` is a fourth of `e5`, and so is `2.5e-1 e5`; but `2e5` has no variable. -/
theorem read_literal_e5 :
    read "2.5e-1 e5".toList = .ok (0.25, "e5".toList) ∧
      read "2.5e-1e5".toList = .ok (0.25, "e5".toList) ∧
      read "e5".toList = .ok (1.0, "e5".toList) ∧
      read "2e5".toList ≠ .ok (2.0, "e5".toList) := by
  have hdigit : ∀ d : Char, Text.isDigitLike d = true → ∀ c ∈ [d], Text.isDigitLike c = true :=
    fun _ hd => List.forall_mem_singleton.mpr hd
  have hmantissa : Mantissa Text.isDigitLike (['2'] ++ '.' :: ['5']) :=
    .point (hdigit '2' (by decide)) (hdigit '5' (by decide)) (List.cons_ne_nil _ _)
  have hexponent : Exponent ('e' :: Sign.minus.toChar :: ['1']) :=
    .signed rfl .minus (hdigit '1' (by decide)) (List.cons_ne_nil _ _)
  have htwo : Mantissa Text.isDigitLike ['2'] :=
    .whole (hdigit '2' (by decide)) (List.cons_ne_nil _ _)
  obtain ⟨hgap, hdirect, hname⟩ := read_literal hmantissa (Or.inr hexponent)
    (v := 0.25) (by decide +kernel) (x := "e5".toList) (by decide)
  have hbare := (read_literal htwo (Or.inl rfl) (v := 2.0) (by decide +kernel)
    (x := "e5".toList) (by decide)).2.1
  refine ⟨hgap [' '] (by decide) rfl, hdirect.mpr ?_, hname, ?_⟩
  · rintro ⟨hnil, -⟩
    cases hnil
  · intro hread
    exact hbare.mp hread ⟨rfl, 'e', '5', [], rfl, rfl, by decide⟩

end LinearProgram.Addend

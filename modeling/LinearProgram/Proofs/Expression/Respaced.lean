/-
  Respaced — the tokens of an expression, and the expression with single spaces between them.

  1. **Guarded texts** — a text is guarded if it holds no sign, but for one in the exponent of a
     literal that it begins with. The literal has decimal digits, and what is like a digit follows
     the sign; so the scan for the end of a coefficient finds the sign in the coefficient, however
     the two scans differ in what they take for a digit (`Guarded.behindMark`).

  2. **Words** — the words of a guarded text are guarded, and all but the first one hold no sign. The
     same is true of the addends that they are put together to.

  3. **Stretches** — the scan cuts an expression at signs into guarded stretches (`cuts`). The crux
     is what it knows while it is on its way: a sign that was kept stands behind a mantissa and a
     mark, and is the only one (`Pending`).

  4. **Tokens** — with single spaces in between, the words of each stretch are the same again, the
     sign in an exponent is kept again, and any other sign has a space in front of it. So the tokens
     are the same (`ofExpression_respaced`).
-/

import LinearProgram.Proofs.Expression.Scan

namespace LinearProgram

namespace Addend

/-! ## Prefixes -/

/-- What the scan takes for the coefficient, and what it takes for the name; the text may be a mere
    number. -/
def parts (t : Text) : Text × Text := (numericSplit? t).getD (t, [])

/-- The scan passes over a sign only behind a mark. -/
theorem step_toChar {state next : Scan} {s : Sign} {rest : Text}
    (h : state.step s.toChar rest = some next) : state = .mark := by
  have hmark : isMark s.toChar = false ∧ s.toChar ≠ '.' := by
    cases s <;> decide
  unfold Scan.step at h
  rw [if_neg (by simp [s.toChar_spec.1]), if_neg hmark.2, if_neg (by simp [hmark.1])] at h
  split at h
  · next hand =>
    rw [Bool.and_eq_true, beq_iff_eq] at hand
    exact hand.2
  · cases h

/-- It stands behind a mark only there. -/
theorem isMark_of_step {state : Scan} {c : Char} {rest : Text}
    (h : state.step c rest = some .mark) : isMark c = true := by
  unfold Scan.step at h
  split at h
  · cases state <;> cases h
  · split at h
    · cases state <;> cases h
    · split at h
      · next hand =>
        simp only [Bool.and_eq_true] at hand
        exact hand.1.1
      · split at h <;> cases h

/-- A sign in a coefficient stands directly behind an exponent mark, or the scan was there already. -/
theorem mark_of_splitFrom {state : Scan} {t front before after : Text} {s : Sign}
    (h : front = ((splitFrom state t).getD (t, [])).1) (hfront : front = before ++ s.toChar :: after) :
    before = [] ∧ state = .mark ∨ ∃ u m, before = u ++ [m] ∧ isMark m = true := by
  have hne : front ≠ [] := by
    rw [hfront]
    exact List.append_ne_nil_of_right_ne_nil _ (List.cons_ne_nil _ _)
  induction t generalizing state front before with
  | nil => exact absurd h hne
  | cons c t ih =>
    cases hstep : state.step c t with
    | none =>
      rw [splitFrom, hstep] at h
      exact absurd h hne
    | some next =>
      have hfront' : front = c :: ((splitFrom next t).getD (t, [])).1 := by
        rw [h, splitFrom, hstep]
        dsimp only
        cases splitFrom next t <;> rfl
      cases before with
      | nil =>
        rw [hfront] at hfront'
        obtain ⟨rfl, -⟩ := List.cons.inj hfront'
        exact Or.inl ⟨rfl, step_toChar hstep⟩
      | cons c' before =>
        rw [hfront, List.cons_append] at hfront'
        obtain ⟨rfl, hrest⟩ := List.cons.inj hfront'
        refine Or.inr ?_
        have hrest_ne : before ++ s.toChar :: after ≠ [] :=
          List.append_ne_nil_of_right_ne_nil _ (List.cons_ne_nil _ _)
        rcases ih hrest rfl hrest_ne with ⟨rfl, rfl⟩ | ⟨u, m, rfl, hm⟩
        · exact ⟨[], c', rfl, isMark_of_step hstep⟩
        · exact ⟨c' :: u, m, rfl, hm⟩

end Addend

namespace Token

/-! ## Guarded texts -/

/-- No sign occurs in the text. -/
def Signless (t : Text) : Prop := ∀ c ∈ t, Sign.ofChar? c = none

/-- The text holds no sign, but for one in the exponent of a literal that it begins with. -/
inductive Guarded : Text → Prop where
  | signless {t : Text} (h : Signless t) : Guarded t
  | literal {t e rest : Text} (ht : Addend.Mantissa Text.isDecimal t) (he : Addend.Exponent e)
      (hrest : Signless rest) : Guarded (t ++ (e ++ rest))

/-- The signs of an addend are in its coefficient, each directly behind an exponent mark. -/
structure SignsBehindMarks (a : Text) : Prop where
  name : Signless (Addend.parts a).2
  coefficient : ∀ (s : Sign) (before after : Text), (Addend.parts a).1 = before ++ s.toChar :: after →
    ∃ u m, before = u ++ [m] ∧ Addend.isMark m = true

section

variable {t u gap : Text}

theorem signless_nil : Signless [] := fun _ hc => absurd hc List.not_mem_nil

theorem Signless.append (ht : Signless t) (hu : Signless u) : Signless (t ++ u) := by
  intro c hc
  rcases List.mem_append.mp hc with hc | hc
  · exact ht c hc
  · exact hu c hc

theorem Guarded.append (h : Guarded t) (hu : Signless u) : Guarded (t ++ u) := by
  cases h with
  | signless h => exact .signless (h.append hu)
  | literal ht he hrest =>
    rw [List.append_assoc, List.append_assoc]
    exact .literal ht he (hrest.append hu)

/-- The scan passes over the literal, so the name is found behind it. -/
theorem Guarded.signless_of_cut (h : Guarded t) {front back : Text}
    (hcut : Addend.numericSplit? t = some (front, back)) : Signless back := by
  cases h with
  | signless h =>
    intro c hc
    apply h
    rw [← Addend.append_of_numericSplit? hcut]
    exact List.mem_append_right _ hc
  | @literal t e rest ht he hrest =>
    have hdigits := ht.imp fun c hc => Text.isDigitLike_of_isDecimal hc
    unfold Addend.numericSplit? at hcut
    rw [Addend.splitFrom_mantissa hdigits, Addend.splitFrom_exponent he,
      Addend.map_prepend_append] at hcut
    obtain ⟨⟨front', back'⟩, hbehind, heq⟩ := Option.map_eq_some_iff.mp hcut
    obtain ⟨-, rfl⟩ := Prod.mk.inj heq
    intro c hc
    apply hrest
    rw [← Addend.append_of_splitFrom hbehind]
    exact List.mem_append_right _ hc

/-- **The signs of a guarded text stand behind marks**, as the scan for the end of a coefficient
    sees it. -/
theorem Guarded.behindMark (h : Guarded t) : SignsBehindMarks t := by
  constructor
  · unfold Addend.parts
    cases hcut : Addend.numericSplit? t with
    | none => exact signless_nil
    | some cut => exact h.signless_of_cut hcut
  · intro s before after hfront
    rcases Addend.mark_of_splitFrom rfl hfront with ⟨-, hstate⟩ | hmark
    · cases hstate
    · exact hmark

/-- **The scan for signs passes over a guarded text**, with blanks in front of it or without. -/
theorem Guarded.ofExpressionFrom (h : Guarded t) (hgap : gap.isBlankOnly = true) (rest : Text) :
    ofExpressionFrom gap (t ++ rest) = ofExpressionFrom (gap ++ t) rest := by
  cases h with
  | signless h => exact ofExpressionFrom_append h gap rest
  | literal ht he hrest =>
    rw [List.append_assoc, List.append_assoc, ofExpressionFrom_literal hgap ht he,
      ofExpressionFrom_append hrest, List.append_assoc, List.append_assoc]

end

/-! ## Words -/

/-- Only the first word may hold a sign, and is guarded. -/
def GuardedWords : List Text → Prop
  | [] => True
  | w :: ws => Guarded w ∧ ∀ v ∈ ws, Signless v

section

variable {t gap : Text} {ws : List Text}

theorem GuardedWords.of_signless (h : ∀ w ∈ ws, Signless w) : GuardedWords ws := by
  cases ws with
  | nil => trivial
  | cons w ws =>
    exact ⟨.signless (h w List.mem_cons_self), fun v hv => h v (List.mem_cons_of_mem w hv)⟩

/-- **The words of a guarded text.** -/
theorem Guarded.words (h : Guarded t) : GuardedWords t.words := by
  cases h with
  | signless h => exact .of_signless fun w hw c hc => h c (Text.mem_of_mem_words hw hc)
  | @literal t e rest ht he hrest =>
    have hdigits := ht.imp fun c hc => Text.isDigitLike_of_isDecimal hc
    -- no blank stands in the literal, so all of it is in the first word
    have hword : Text.IsWord (t ++ e) := by
      refine ⟨List.append_ne_nil_of_left_ne_nil ht.ne_nil _, fun c hc => ?_⟩
      rcases List.mem_append.mp hc with hc | hc
      · exact (hdigits.not_blank c hc).1
      · exact he.not_blank c hc
    obtain ⟨more, others, hwords, hmore, hothers⟩ := hword.exists_words_append rest
    rw [← List.append_assoc, hwords, List.append_assoc]
    exact ⟨.literal ht he fun c hc => hrest c (hmore c hc), fun v hv c hc =>
      hrest c (hothers v hv c hc)⟩

theorem signless_spaced (h : ∀ w ∈ ws, Signless w) : Signless (Text.spaced ws) := by
  intro c hc
  obtain ⟨w, hw, hc⟩ := List.mem_flatMap.mp hc
  rcases List.mem_cons.mp hc with rfl | hc
  · decide
  · exact h w hw c hc

/-- The scan for signs passes over the words again, spaces in front of them. -/
theorem GuardedWords.ofExpressionFrom (h : GuardedWords ws) (rest : Text) :
    ofExpressionFrom [] (Text.spaced ws ++ rest) = ofExpressionFrom (Text.spaced ws) rest := by
  cases ws with
  | nil => rfl
  | cons w ws =>
    have hguarded : Guarded (w ++ Text.spaced ws) := h.1.append (signless_spaced h.2)
    show ofExpressionFrom [] ([' '] ++ (w ++ Text.spaced ws ++ rest)) = _
    rw [ofExpressionFrom_gap rfl, List.nil_append, hguarded.ofExpressionFrom rfl]
    rfl

/-! ### Addends -/

/-- **The addends are the words**, with spaces in between. -/
theorem spaced_addendsFrom (number : Option Text) (ws : List Text) :
    Text.spaced (addendsFrom number ws) = Text.spaced (number.toList ++ ws) := by
  fun_induction addendsFrom number ws with
  | case1 => rfl
  | case2 n => rfl
  | case3 n w ws ih =>
    show ' ' :: (n ++ ' ' :: w ++ Text.spaced (addendsFrom none ws)) =
      ' ' :: (n ++ ' ' :: (w ++ Text.spaced ws))
    rw [ih, List.append_assoc]
    rfl
  | case4 w ws _ ih => exact ih
  | case5 w ws _ ih => exact congrArg (' ' :: w ++ ·) ih

/-- An addend begins and ends with a word. -/
theorem isTrimmed_of_mem_addendsFrom {number : Option Text} (hnumber : ∀ n ∈ number, n.IsWord)
    (hws : ∀ w ∈ ws, w.IsWord) : ∀ a ∈ addendsFrom number ws, a ≠ [] ∧ a.IsTrimmed := by
  have hword : ∀ {w : Text}, w.IsWord → w ≠ [] ∧ w.IsTrimmed := fun h => ⟨h.ne_nil, h.isTrimmed⟩
  fun_induction addendsFrom number ws with
  | case1 => exact fun a ha => absurd ha List.not_mem_nil
  | case2 n =>
    intro a ha
    rw [List.mem_singleton.mp ha]
    exact hword (hnumber n rfl)
  | case3 n w ws ih =>
    have hn := hnumber n rfl
    have hw := hws w List.mem_cons_self
    intro a ha
    rcases List.mem_cons.mp ha with rfl | ha
    · exact ⟨List.append_ne_nil_of_left_ne_nil hn.ne_nil _, hn.isTrimmed_append hw [' ']⟩
    · exact ih (fun n hn => nomatch hn) (fun v hv => hws v (List.mem_cons_of_mem w hv)) a ha
  | case4 w ws _ ih =>
    refine ih ?_ fun v hv => hws v (List.mem_cons_of_mem w hv)
    rintro n ⟨⟩
    exact hws _ List.mem_cons_self
  | case5 w ws _ ih =>
    intro a ha
    rcases List.mem_cons.mp ha with rfl | ha
    · exact hword (hws _ List.mem_cons_self)
    · exact ih (fun n hn => nomatch hn) (fun v hv => hws v (List.mem_cons_of_mem w hv)) a ha

theorem signless_of_mem_addendsFrom (h : ∀ w ∈ ws, Signless w) :
    ∀ a ∈ addendsFrom none ws, Signless a := by
  intro a ha c hc
  apply signless_spaced h
  rw [← List.nil_append ws, ← Option.toList_none, ← spaced_addendsFrom]
  exact List.mem_flatMap.mpr ⟨a, ha, List.mem_cons_of_mem _ hc⟩

/-- **The addends of guarded words are guarded.** -/
theorem GuardedWords.addendsFrom (h : GuardedWords ws) : ∀ a ∈ addendsFrom none ws, Guarded a := by
  cases ws with
  | nil => exact fun a ha => absurd ha List.not_mem_nil
  | cons w ws =>
    obtain ⟨hw, hws⟩ := h
    intro a ha
    rw [Token.addendsFrom] at ha
    split at ha
    · -- a bare number takes the word behind it along
      cases ws with
      | nil =>
        rw [List.mem_singleton.mp ha]
        exact hw
      | cons v ws =>
        rcases List.mem_cons.mp ha with rfl | ha
        · refine hw.append ?_
          intro c hc
          rcases List.mem_cons.mp hc with rfl | hc
          · decide
          · exact hws v List.mem_cons_self c hc
        · exact .signless (signless_of_mem_addendsFrom
            (fun v' hv' => hws v' (List.mem_cons_of_mem v hv')) a ha)
    · rcases List.mem_cons.mp ha with rfl | ha
      · exact hw
      · exact .signless (signless_of_mem_addendsFrom hws a ha)

end

/-! ## Stretches -/

/-- Signs cut an expression into guarded stretches. Its tokens are the addends of the stretches, and
    the signs in between. -/
inductive Cuts : Text → List Token → Prop where
  | last {stretch : Text} (h : Guarded stretch.trimStart) : Cuts stretch (addends stretch)
  | sign {stretch rest : Text} {tokens : List Token} (h : Guarded stretch.trimStart) (s : Sign)
      (hrest : Cuts rest tokens) :
      Cuts (stretch ++ s.toChar :: rest) (addends stretch ++ .sign s :: tokens)

/-- What the scan knows of a stretch in front of `rest`: it holds no sign, or a single one, behind a
    mantissa and a mark and in front of a digit. -/
inductive Pending (rest stretch : Text) : Prop where
  | signless (h : Signless stretch)
  | kept {t behind : Text} {m : Char} (s : Sign)
      (hstretch : stretch.trimStart = t ++ m :: s.toChar :: behind)
      (ht : Addend.Mantissa Text.isDecimal t) (hm : Addend.isMark m = true)
      (hbehind : Signless behind) (hdigit : beginsWithDigit (behind ++ rest) = true)

section

variable {stretch rest : Text} {c : Char} {s : Sign}

theorem trimStart_concat {front back : Text} {m : Char} (h : stretch.trimStart = front ++ m :: back)
    (c : Char) : (stretch ++ [c]).trimStart = front ++ m :: (back ++ [c]) := by
  have hblank : stretch.isBlankOnly = false := by
    rw [← Bool.not_eq_true, ← Text.trimStart_eq_nil_iff, h]
    exact List.append_ne_nil_of_right_ne_nil _ (List.cons_ne_nil _ _)
  rw [Text.trimStart_append _ hblank, h, List.append_assoc]
  rfl

/-- A sign that is kept is the only one. -/
theorem pending_of_endsInMark (h : endsInMark stretch = true)
    (hrest : beginsWithDigit rest = true) : Pending rest (stretch ++ [s.toChar]) := by
  obtain ⟨t, m, hstretch, hm, ht⟩ := (endsInMark_iff stretch).mp h
  exact .kept s (trimStart_concat hstretch s.toChar) ht hm signless_nil hrest

/-- One more character that is no sign. -/
theorem Pending.next (h : Pending (c :: rest) stretch) (hc : Sign.ofChar? c = none) :
    Pending rest (stretch ++ [c]) := by
  have hsign : Signless [c] := List.forall_mem_singleton.mpr hc
  cases h with
  | signless h => exact .signless (h.append hsign)
  | kept s hstretch ht hm hbehind hdigit =>
    refine .kept s (trimStart_concat hstretch c) ht hm (hbehind.append hsign) ?_
    show beginsWithDigit (_ ++ [c] ++ rest) = true
    rw [List.append_assoc]
    exact hdigit

/-- Where no digit is ahead, the stretch is guarded. -/
theorem Pending.guarded (h : Pending rest stretch) (hrest : beginsWithDigit rest = false) :
    Guarded stretch.trimStart := by
  cases h with
  | signless h => exact .signless fun c hc => h c ((List.dropWhile_sublist _).subset hc)
  | @kept t behind m s hstretch ht hm hbehind hdigit =>
    cases behind with
    | nil =>
      rw [List.nil_append, hrest] at hdigit
      cases hdigit
    | cons d behind =>
      have hexponent : Addend.Exponent (m :: s.toChar :: [d]) :=
        .signed hm s (List.forall_mem_singleton.mpr hdigit) (List.cons_ne_nil _ _)
      rw [hstretch]
      exact .literal ht hexponent fun c hc => hbehind c (List.mem_cons_of_mem d hc)

/-- **From the stretch that is pending to the end.** By induction on what is ahead: a sign either is
    kept, and then it is the only one, or ends the stretch, and then no digit is ahead. -/
theorem Pending.cuts (h : Pending rest stretch) :
    Cuts (stretch ++ rest) (ofExpressionFrom stretch rest) := by
  induction rest generalizing stretch with
  | nil =>
    rw [List.append_nil]
    exact .last (h.guarded rfl)
  | cons c rest ih =>
    cases hc : Sign.ofChar? c with
    | none =>
      have hnext := ih (h.next hc)
      rw [List.append_assoc] at hnext
      rw [ofExpressionFrom, hc]
      exact hnext
    | some s =>
      obtain rfl := Sign.eq_toChar_of_ofChar? hc
      cases hkept : endsInMark stretch && beginsWithDigit rest with
      | true =>
        rw [Bool.and_eq_true] at hkept
        have hpending : Pending rest (stretch ++ [s.toChar]) :=
          pending_of_endsInMark hkept.1 hkept.2
        have hnext := ih hpending
        rw [List.append_assoc] at hnext
        rw [ofExpressionFrom_kept hkept.1 hkept.2]
        exact hnext
      | false =>
        have hstretch := h.guarded s.toChar_spec.1
        have hnext := ih (.signless signless_nil)
        rw [ofExpressionFrom, Sign.ofChar?_toChar]
        dsimp only
        rw [hkept, if_neg Bool.false_ne_true]
        exact .sign hstretch s hnext

end

/-- **An expression falls into guarded stretches.** -/
theorem cuts (e : Text) : Cuts e (ofExpression e) := Pending.cuts (.signless signless_nil)

/-! ## Tokens -/

section

variable {e stretch gap : Text} {tokens : List Token}

theorem Guarded.words_stretch (h : Guarded stretch.trimStart) : GuardedWords stretch.words := by
  rw [← Text.words_trimStart]
  exact h.words

theorem map_text_addends (stretch : Text) :
    (addends stretch).map text = addendsFrom none stretch.words := by
  unfold addends
  rw [List.map_map]
  exact List.map_id _

theorem spaced_addends (stretch : Text) :
    Text.spaced ((addends stretch).map text) = Text.spaced stretch.words := by
  rw [map_text_addends, spaced_addendsFrom]
  rfl

theorem addends_spaced (hgap : gap.isBlankOnly = true) :
    addends (Text.spaced stretch.words ++ gap) = addends stretch := by
  unfold addends
  rw [Text.words_spaced (fun _ => Text.isWord_of_mem_words) hgap]

/-- Nothing but blanks gets lost in a stretch. -/
theorem filter_addends (stretch : Text) :
    ((addends stretch).map text).flatten.filter (! Text.isBlank ·) =
      stretch.filter (! Text.isBlank ·) := by
  rw [← Text.filter_spaced, spaced_addends, Text.filter_spaced, Text.flatten_words,
    List.filter_filter]
  simp only [Bool.and_self]

/-- **Nothing but blanks gets lost.** -/
theorem Cuts.filter_text (h : Cuts e tokens) :
    (tokens.map text).flatten.filter (! Text.isBlank ·) = e.filter (! Text.isBlank ·) := by
  induction h with
  | last h => exact filter_addends _
  | sign h s hrest ih =>
    rw [List.map_append, List.flatten_append, List.filter_append, filter_addends, List.filter_append]
    show _ ++ (s.toChar :: (List.map text _).flatten).filter _ = _
    rw [List.filter_cons_of_pos (by simp [s.toChar_spec.2]),
      List.filter_cons_of_pos (by simp [s.toChar_spec.2]), ih]

/-- The addends of a stretch are trimmed and guarded. -/
theorem Guarded.addends_stretch (h : Guarded stretch.trimStart) {a : Text}
    (ha : .addend a ∈ addends stretch) : (a ≠ [] ∧ a.IsTrimmed) ∧ Guarded a := by
  obtain ⟨a', ha', heq⟩ := List.mem_map.mp ha
  cases heq
  refine ⟨isTrimmed_of_mem_addendsFrom ?_ (fun _ => Text.isWord_of_mem_words) a ha',
    h.words_stretch.addendsFrom a ha'⟩
  rintro n ⟨⟩

/-- **So are the addends of an expression.** -/
theorem Cuts.addend (h : Cuts e tokens) {a : Text} (ha : .addend a ∈ tokens) :
    (a ≠ [] ∧ a.IsTrimmed) ∧ Guarded a := by
  induction h with
  | last h => exact h.addends_stretch ha
  | sign h s hrest ih =>
    rcases List.mem_append.mp ha with ha | ha
    · exact h.addends_stretch ha
    · rcases List.mem_cons.mp ha with heq | ha
      · cases heq
      · exact ih ha

/-- The scan passes over the addends of a stretch, spaces in front of them. -/
theorem Guarded.ofExpressionFrom_stretch (h : Guarded stretch.trimStart) (rest : Text) :
    Token.ofExpressionFrom [] (Text.spaced ((addends stretch).map text) ++ rest) =
      Token.ofExpressionFrom (Text.spaced stretch.words) rest := by
  rw [spaced_addends, h.words_stretch.ofExpressionFrom]

/-- **The tokens with spaces in front of them** come apart into the same tokens. -/
theorem Cuts.ofExpression_spaced (h : Cuts e tokens) :
    ofExpression (Text.spaced (tokens.map text)) = tokens := by
  unfold ofExpression
  induction h with
  | @last stretch h =>
    have hscan := h.ofExpressionFrom_stretch []
    rw [List.append_nil] at hscan
    rw [hscan, ofExpressionFrom, ← List.append_nil (Text.spaced _), addends_spaced rfl]
  | @sign stretch rest tokens h s hrest ih =>
    -- the space in front of the sign ends what a mark could stand at the end of
    have hsplit := ofExpressionFrom_sign (s := s)
      (endsInMark_append_blank (Text.spaced stretch.words) (b := ' ') (by decide))
      (Text.spaced (tokens.map text))
    rw [List.map_append, Text.spaced_append, h.ofExpressionFrom_stretch]
    show ofExpressionFrom _ ([' '] ++ s.toChar :: Text.spaced (tokens.map text)) = _
    rw [ofExpressionFrom_gap rfl, hsplit, addends_spaced rfl, ih]

end

/-- Blanks in front of a stretch do not matter. -/
theorem ofExpressionFrom_append_gap {gap : Text} (hgap : gap.isBlankOnly = true)
    (stretch rest : Text) :
    ofExpressionFrom (gap ++ stretch) rest = ofExpressionFrom stretch rest := by
  have haddends : ∀ stretch : Text, addends (gap ++ stretch) = addends stretch := by
    intro stretch
    unfold addends
    rw [Text.words_append_of_blankOnly _ hgap]
  induction rest generalizing stretch with
  | nil => exact haddends stretch
  | cons c rest ih =>
    have hends : endsInMark (gap ++ stretch) = endsInMark stretch := by
      unfold endsInMark
      rw [Text.trimStart_append_of_blankOnly _ hgap]
    have hnext := ih (stretch ++ [c])
    rw [← List.append_assoc] at hnext
    rw [ofExpressionFrom, ofExpressionFrom, hends, haddends, hnext]

/-- **Nothing but blanks gets lost, and the tokens stay the same** if they are written with single
    spaces in between. Signs within an addend belong to the exponent of its coefficient. -/
theorem ofExpression_respaced (e : Text) :
    ((ofExpression e).map text).flatten.filter (! Text.isBlank ·) = e.filter (! Text.isBlank ·) ∧
      (∀ token ∈ ofExpression e, (∃ s, token = .sign s) ∨
        ∃ a, token = .addend a ∧ a ≠ [] ∧ a.IsTrimmed ∧ SignsBehindMarks a) ∧
      ofExpression (Text.join [' '] ((ofExpression e).map text)) = ofExpression e := by
  have hcuts := cuts e
  refine ⟨hcuts.filter_text, ?_, ?_⟩
  · intro token htoken
    cases token with
    | sign s => exact Or.inl ⟨s, rfl⟩
    | addend a =>
      obtain ⟨⟨hne, htrimmed⟩, hguarded⟩ := hcuts.addend htoken
      exact Or.inr ⟨a, rfl, hne, htrimmed, hguarded.behindMark⟩
  · have hspaced := hcuts.ofExpression_spaced
    generalize ofExpression e = tokens at hspaced ⊢
    cases tokens with
    | nil => rfl
    | cons token tokens =>
      have hne : (token :: tokens).map text ≠ [] := List.cons_ne_nil _ _
      have hgap : Text.isBlankOnly [' '] = true := rfl
      rw [← Text.cons_join hne] at hspaced
      exact (ofExpressionFrom_append_gap hgap [] _).symm.trans hspaced

end Token

end LinearProgram

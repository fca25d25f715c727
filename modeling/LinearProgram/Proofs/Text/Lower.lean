/-
  Lower — what lower case leaves as it is.

  1. **Caseless characters** — blanks, digits, signs and punctuation are their own lower-case form
     wherever they stand. So they can be looked for in the lower-case form of a text.

  2. **ASCII** — no character outside ASCII but the Kelvin sign has an ASCII letter as its lower-case
     form, so that a text whose lower-case form is a word such as `inf` is made of ASCII letters.

  3. **Keywords** — a keyword is compared in lower case. A line with a character in it that no
     keyword has is none, and words with single spaces in between are compared word by word.
-/

import LinearProgram.Keyword
import LinearProgram.Proofs.Text.Cut

namespace LinearProgram.Text

/-! ## Caseless characters -/

/-- The character is its own lower-case form, whatever stands around it. -/
def IsCaseless (c : Char) : Prop := ∀ previous following, lowerChar previous c following = [c]

theorem isCaseless_of_ascii {c : Char} (h : c.toNat < 0x80)
    (hcapital : ¬ (0x41 ≤ c.toNat ∧ c.toNat ≤ 0x5A)) : IsCaseless c := by
  intro previous following
  have hif : (0x41 ≤ c.toNat && c.toNat ≤ 0x5A) = false := by
    simpa using fun h₁ => Nat.lt_of_not_le fun h₂ => hcapital ⟨h₁, h₂⟩
  simp [lowerChar, h, hif]

/-- No row of the table is about a blank. -/
theorem lowerRows_find_of_blank {n : Nat} (h : n = 0x85 ∨ n = 0xA0 ∨ n = 0x1680 ∨
    (0x2000 ≤ n ∧ n ≤ 0x200A) ∨ n = 0x2028 ∨ n = 0x2029 ∨ n = 0x202F ∨ n = 0x205F ∨ n = 0x3000) :
    (lowerRows.find? fun (first, last, step, _) =>
      first ≤ n && n ≤ last && (n - first) % step == 0) = none := by
  have hrange : 0x2000 ≤ n ∧ n ≤ 0x200A → n = 0x2000 ∨ n = 0x2001 ∨ n = 0x2002 ∨ n = 0x2003 ∨
      n = 0x2004 ∨ n = 0x2005 ∨ n = 0x2006 ∨ n = 0x2007 ∨ n = 0x2008 ∨ n = 0x2009 ∨
      n = 0x200A := by
    omega
  -- one look into the table for each of the blanks
  rcases h with rfl | rfl | rfl | h | rfl | rfl | rfl | rfl | rfl
  · decide
  · decide
  · decide
  · rcases hrange h with rfl | rfl | rfl | rfl | rfl | rfl | rfl | rfl | rfl | rfl | rfl <;> decide
  · decide
  · decide
  · decide
  · decide
  · decide

/-- **Blanks are caseless**, in every script. -/
theorem isCaseless_of_isBlank {c : Char} (h : isBlank c = true) : IsCaseless c := by
  by_cases hascii : c.toNat < 0x80
  · refine isCaseless_of_ascii hascii ?_
    simp only [isBlank, Bool.or_eq_true, Bool.and_eq_true, decide_eq_true_eq, beq_iff_eq] at h
    omega
  · -- no row of the table and none of the two characters that are treated apart is a blank
    intro previous following
    simp only [isBlank, Bool.or_eq_true, Bool.and_eq_true, decide_eq_true_eq, beq_iff_eq] at h
    have hrows : lowerRows.map c = c := by
      unfold CaseRows.map
      dsimp only
      rw [lowerRows_find_of_blank (by omega)]
    have hdotted : c.toNat ≠ 0x130 := by omega
    have hsigma : c.toNat ≠ 0x3A3 := by omega
    simp [lowerChar, hascii, hdotted, hsigma, hrows]

theorem mem_lowerFrom {c : Char} (h : IsCaseless c) {t : Text} (hc : c ∈ t) (previous : Text) :
    c ∈ lowerFrom previous t := by
  induction t generalizing previous with
  | nil => exact absurd hc List.not_mem_nil
  | cons d t ih =>
    rcases List.mem_cons.mp hc with rfl | hc
    · refine List.mem_append_left _ ?_
      rw [h previous t]
      exact List.mem_singleton.mpr rfl
    · exact List.mem_append_right _ (ih hc (d :: previous))

/-- **A caseless character stays in the text.** -/
theorem mem_lower {c : Char} (h : IsCaseless c) {t : Text} (hc : c ∈ t) : c ∈ lower t :=
  mem_lowerFrom h hc []

theorem getLast?_lowerFrom {c : Char} (h : IsCaseless c) {t : Text} (hc : t.getLast? = some c)
    (previous : Text) : (lowerFrom previous t).getLast? = some c := by
  induction t generalizing previous with
  | nil => cases hc
  | cons d t ih =>
    cases t with
    | nil =>
      have hcd : d = c := Option.some.inj hc
      show (lowerChar previous d [] ++ []).getLast? = some c
      rw [hcd, h previous []]
      rfl
    | cons d' t =>
      rw [List.getLast?_cons_cons] at hc
      have hrest := ih hc (d :: previous)
      show (lowerChar previous d (d' :: t) ++ lowerFrom (d :: previous) (d' :: t)).getLast? = _
      rw [List.getLast?_append, hrest]
      rfl

/-- A text has no blank at either end if its lower-case form has none. -/
theorem isTrimmed_of_lower {t : Text} (h : (lower t).IsTrimmed) : t.IsTrimmed := by
  constructor
  · intro c hc
    cases hblank : isBlank c with
    | false => rfl
    | true =>
      -- then the lower-case form would begin with the same blank
      have hcaseless := isCaseless_of_isBlank hblank
      cases t with
      | nil => cases hc
      | cons d t =>
        cases hc
        have hhead : (lower (c :: t)).head? = some c := by
          show (lowerChar [] c t ++ lowerFrom [c] t).head? = some c
          rw [hcaseless [] t]
          rfl
        rw [h.head c hhead] at hblank
        cases hblank
  · intro c hc
    cases hblank : isBlank c with
    | false => rfl
    | true =>
      have hlast := getLast?_lowerFrom (isCaseless_of_isBlank hblank) hc []
      rw [h.last c hlast] at hblank
      cases hblank

/-- A text is a word if its lower-case form is one. -/
theorem isWord_of_lower {t : Text} (h : (lower t).IsWord) : t.IsWord where
  ne_nil h0 := h.ne_nil (by rw [h0]; rfl)
  not_blank c hc := by
    cases hblank : isBlank c with
    | false => rfl
    | true =>
      have hmem := mem_lower (isCaseless_of_isBlank hblank) hc
      rw [h.not_blank c hmem] at hblank
      cases hblank

/-! ## ASCII -/

/-- What holds of the first 128 characters, one by one, holds of every ASCII character. -/
@[elab_as_elim]
theorem forall_ascii {p : Char → Prop} {c : Char} (hc : c.toNat < 0x80)
    (h : ∀ n : Fin 0x80, p (Char.ofNat n)) : p c := by
  have hp := h ⟨c.toNat, hc⟩
  rwa [Char.ofNat_toNat] at hp

/-- The only row of the table that leads into ASCII is the one of the Kelvin sign. -/
theorem lowerRows_leave_ascii {first last step : Nat} {offset : Int}
    (h : (first, last, step, offset) ∈ lowerRows) :
    0x80 ≤ first + offset ∨ first = 0x212A ∧ last = 0x212A ∧ offset = 0x6B - 0x212A := by
  have hall : (lowerRows.all fun (first, last, _, offset) =>
      0x80 ≤ first + offset ∨ first = 0x212A ∧ last = 0x212A ∧ offset = 0x6B - 0x212A) = true := by
    decide +kernel
  exact of_decide_eq_true (List.all_eq_true.mp hall _ h)

theorem toNat_of_isValidChar {n : Nat} (h : n.isValidChar) : (Char.ofNat n).toNat = n := by
  unfold Char.ofNat
  rw [dif_pos h]
  rfl

theorem ofNat_ne_of_lt {d : Char} (hd : 0 < d.toNat) {n : Nat} (h : d.toNat < n) :
    Char.ofNat n ≠ d := by
  rintro rfl
  by_cases hvalid : n.isValidChar
  · rw [toNat_of_isValidChar hvalid] at h
    exact Nat.lt_irrefl n h
  · have hzero : Char.ofNat n = Char.ofNat 0 := dif_neg hvalid
    rw [hzero] at hd
    exact absurd hd (by decide)

/-- No row leads to a character of ASCII but `k`. -/
theorem lowerRows_map_ne {c d : Char} (hc : 0x80 ≤ c.toNat) (hd : 0 < d.toNat ∧ d.toNat < 0x80)
    (hk : d ≠ 'k') : lowerRows.map c ≠ d := by
  unfold CaseRows.map
  dsimp only
  split
  · next first last step offset hrow =>
    have hrange := List.find?_some hrow
    simp only [Bool.and_eq_true, decide_eq_true_eq] at hrange
    rcases lowerRows_leave_ascii (List.mem_of_find?_eq_some hrow) with h | ⟨rfl, rfl, rfl⟩
    · exact ofNat_ne_of_lt hd.1 (by omega)
    · have hkelvin : c.toNat = 0x212A := by omega
      rw [hkelvin]
      exact hk.symm
  · rintro rfl
    exact absurd hd.2 (Nat.not_lt.mpr hc)

/-- A small letter of ASCII. -/
theorem toNat_of_isLower {d : Char} (h : d.isLower = true) : 0 < d.toNat ∧ d.toNat < 0x80 := by
  obtain ⟨hfirst, hlast⟩ := Bool.and_eq_true_iff.mp h
  have hfirst : 'a'.toNat ≤ d.toNat := of_decide_eq_true hfirst
  have hlast : d.toNat ≤ 'z'.toNat := of_decide_eq_true hlast
  exact ⟨Nat.lt_of_lt_of_le (by decide) hfirst, Nat.lt_of_le_of_lt hlast (by decide)⟩

/-- A character whose lower-case form is made of ASCII letters, and not of `k`, is in ASCII. -/
theorem ascii_of_lowerChar {previous following : Text} {c : Char}
    (h : ∀ d ∈ lowerChar previous c following, d.isLower = true ∧ d ≠ 'k') : c.toNat < 0x80 := by
  by_contra hc
  unfold lowerChar at h
  dsimp only at h
  rw [if_neg hc] at h
  split at h
  · -- the capital `i` with a dot keeps its dot
    exact absurd (h (Char.ofNat 0x307) (by simp)).1 (by decide)
  · split at h
    · have hsigma := (h _ (List.mem_singleton.mpr rfl)).1
      split at hsigma <;> exact absurd hsigma (by decide)
    · obtain ⟨hlower, hk⟩ := h _ (List.mem_singleton.mpr rfl)
      exact lowerRows_map_ne (Nat.not_lt.mp hc) (toNat_of_isLower hlower) hk rfl

theorem ascii_of_lowerFrom {t : Text} {previous : Text}
    (h : ∀ d ∈ lowerFrom previous t, d.isLower = true ∧ d ≠ 'k') : ∀ c ∈ t, c.toNat < 0x80 := by
  induction t generalizing previous with
  | nil => exact fun c hc => absurd hc List.not_mem_nil
  | cons c t ih =>
    intro d hd
    rcases List.mem_cons.mp hd with rfl | hd
    · exact ascii_of_lowerChar fun e he => h e (List.mem_append_left _ he)
    · exact ih (fun e he => h e (List.mem_append_right _ he)) d hd

/-- **A text is in ASCII** if its lower-case form is made of ASCII letters, and not of `k`. -/
theorem ascii_of_lower {t : Text} (h : ∀ d ∈ lower t, d.isLower = true ∧ d ≠ 'k') :
    ∀ c ∈ t, c.toNat < 0x80 :=
  ascii_of_lowerFrom h

/-! ## ASCII words -/

theorem map_join (f : Char → Char) (separator : Text) (ts : List Text) :
    (join separator ts).map f = join (separator.map f) (ts.map (List.map f)) := by
  induction ts with
  | nil => rfl
  | cons t ts ih =>
    cases ts with
    | nil => rfl
    | cons u ts =>
      show (t ++ separator ++ join separator (u :: ts)).map f = _
      rw [List.map_append, List.map_append, ih]
      rfl

theorem isBlank_asciiLower {c : Char} (h : isBlank c = false) : isBlank (asciiLower c) = false := by
  unfold asciiLower
  split
  · next hcapital =>
    simp only [Bool.and_eq_true, decide_eq_true_eq] at hcapital
    have hvalid : (c.toNat + 0x20).isValidChar := Or.inl (by omega)
    have hn := toNat_of_isValidChar hvalid
    cases hb : isBlank (Char.ofNat (c.toNat + 0x20)) with
    | false => rfl
    | true =>
      simp only [isBlank, hn, Bool.or_eq_true, Bool.and_eq_true, decide_eq_true_eq,
        beq_iff_eq] at hb
      omega
  · exact h

theorem IsWord.lower {w : Text} (h : w.IsWord) (hascii : ∀ c ∈ w, c.toNat < 0x80) :
    (lower w).IsWord := by
  rw [lower_ascii hascii]
  refine ⟨fun h0 => h.ne_nil (List.map_eq_nil_iff.mp h0), ?_⟩
  intro c hc
  obtain ⟨d, hd, rfl⟩ := List.mem_map.mp hc
  exact isBlank_asciiLower (h.not_blank d hd)

theorem mem_of_mem_join {c : Char} {separator : Text} {ts : List Text}
    (h : c ∈ join separator ts) : c ∈ separator ∨ ∃ t ∈ ts, c ∈ t := by
  induction ts with
  | nil => exact absurd h List.not_mem_nil
  | cons t ts ih =>
    cases ts with
    | nil => exact Or.inr ⟨t, List.mem_cons_self, h⟩
    | cons u ts =>
      have h' : c ∈ t ++ separator ++ join separator (u :: ts) := h
      rcases List.mem_append.mp h' with h' | h'
      · rcases List.mem_append.mp h' with h' | h'
        · exact Or.inr ⟨t, List.mem_cons_self, h'⟩
        · exact Or.inl h'
      · rcases ih h' with h' | ⟨v, hv, hc⟩
        · exact Or.inl h'
        · exact Or.inr ⟨v, List.mem_cons_of_mem t hv, hc⟩

theorem lower_join {ws : List Text} (hascii : ∀ w ∈ ws, ∀ c ∈ w, c.toNat < 0x80) :
    lower (join [' '] ws) = join [' '] (ws.map lower) := by
  have hall : ∀ c ∈ join [' '] ws, c.toNat < 0x80 := by
    intro c hc
    rcases mem_of_mem_join hc with hc | ⟨w, hw, hc⟩
    · rw [List.mem_singleton.mp hc]
      decide
    · exact hascii w hw c hc
  have hmap : ws.map lower = ws.map (List.map asciiLower) :=
    List.map_congr_left fun w hw => lower_ascii (hascii w hw)
  rw [lower_ascii hall, map_join, hmap]
  rfl

end LinearProgram.Text

/-! ## Keywords -/

namespace LinearProgram.Keyword

open Text (IsCaseless IsWord join)

/-- A caseless character that is not blank stays in what is compared. -/
theorem mem_normal {c : Char} (h : IsCaseless c) (hblank : Text.isBlank c = false) {line : Text}
    (hc : c ∈ line) : c ∈ normal line := by
  obtain ⟨w, hw, hcw⟩ := Text.exists_mem_words (Text.mem_lower h hc) hblank
  exact Text.mem_join hw hcw

/-- Words with single spaces in between are compared word by word. -/
theorem normal_join {ws : List Text} (hwords : ∀ w ∈ ws, w.IsWord)
    (hascii : ∀ w ∈ ws, ∀ c ∈ w, c.toNat < 0x80) :
    normal (join [' '] ws) = join [' '] (ws.map Text.lower) := by
  unfold normal
  rw [Text.lower_join hascii, Text.words_join]
  intro w hw
  obtain ⟨v, hv, rfl⟩ := List.mem_map.mp hw
  exact (hwords v hv).lower (hascii v hv)

/-- The characters that occur in keywords. -/
def isKeywordChar (c : Char) : Bool := c.isLower || c == ' ' || c == '.'

theorem isKeywordChar_of_mem {spelling : Text}
    (h : spelling ∈ constraintsSpellings ++ sectionSpellings.map Prod.fst) :
    spelling.all isKeywordChar = true := by
  have hall : ∀ s ∈ constraintsSpellings ++ sectionSpellings.map Prod.fst,
      s.all isKeywordChar = true := by
    decide
  exact hall spelling h

theorem mem_spellings_of_section? {line : Text} {s : Section} (h : section? line = some s) :
    normal line ∈ sectionSpellings.map Prod.fst := by
  have hlookup : ∀ table : List (Text × Section), table.lookup (normal line) = some s →
      normal line ∈ table.map Prod.fst := by
    intro table hs
    induction table with
    | nil => cases hs
    | cons entry table ih =>
      obtain ⟨key, value⟩ := entry
      rw [List.lookup_cons] at hs
      split at hs
      · next heq =>
        rw [beq_iff_eq] at heq
        rw [heq]
        exact List.mem_cons_self
      · exact List.mem_cons_of_mem _ (ih hs)
  exact hlookup _ h

/-- **A line with a character that no keyword has is no keyword.** -/
theorem not_keyword_of_mem {c : Char} {line : Text} (h : c ∈ normal line)
    (hc : isKeywordChar c = false) : opensConstraints line = false ∧ section? line = none := by
  have hnot : normal line ∉ constraintsSpellings ++ sectionSpellings.map Prod.fst := by
    intro hmem
    have hall := List.all_eq_true.mp (isKeywordChar_of_mem hmem) c h
    rw [hc] at hall
    cases hall
  rw [List.mem_append, not_or] at hnot
  constructor
  · unfold opensConstraints
    simpa using hnot.1
  · cases hs : section? line with
    | none => rfl
    | some s => exact absurd (mem_spellings_of_section? hs) hnot.2

end LinearProgram.Keyword

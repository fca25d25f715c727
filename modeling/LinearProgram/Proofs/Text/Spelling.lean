/-
  Spelling — keywords in any case and with any blanks.

  1. **Lower case** — where every character is a blank or an ASCII character, lower case is taken
     letter by letter, and the words of a text are lowered one by one.

  2. **Keywords** — a line spells a keyword if it has the keyword's words, in any case, with any
     blanks around and between them. Whatever spells a keyword is found in the tables
     (`section?_of_spells`, `opensConstraints_of_spells`), and so is the word of a direction
     (`Direction.ofWord?_of_spells`).
-/

import LinearProgram.Direction
import LinearProgram.Proofs.Text.Lower

namespace LinearProgram

/-! ## Lower case -/

namespace Text

theorem asciiLower_of_blank {c : Char} (h : isBlank c = true) : asciiLower c = c := by
  unfold asciiLower
  refine if_neg ?_
  simp only [isBlank, Bool.or_eq_true, Bool.and_eq_true, decide_eq_true_eq, beq_iff_eq] at h ⊢
  omega

/-- Lower case makes no blanks and takes none away. -/
theorem isBlank_asciiLower_eq (c : Char) : isBlank (asciiLower c) = isBlank c := by
  cases h : isBlank c with
  | true => rw [asciiLower_of_blank h, h]
  | false => exact isBlank_asciiLower h

/-- A character is an ASCII character if its lower-case letter is one. -/
theorem ascii_of_asciiLower {c : Char} (h : (asciiLower c).toNat < 0x80) : c.toNat < 0x80 := by
  unfold asciiLower at h
  split at h
  · next hcapital =>
    simp only [Bool.and_eq_true, decide_eq_true_eq] at hcapital
    omega
  · exact h

/-- **Of blanks and ASCII characters, lower case is taken letter by letter.** -/
theorem lower_eq_map {t : Text} (h : ∀ c ∈ t, isBlank c = true ∨ c.toNat < 0x80) :
    lower t = t.map asciiLower := by
  suffices key : ∀ previous, lowerFrom previous t = t.map asciiLower from key []
  induction t with
  | nil => intro _; rfl
  | cons c rest ih =>
    intro previous
    have hrest := ih fun d hd => h d (List.mem_cons_of_mem c hd)
    rw [lowerFrom, hrest, List.map_cons]
    rcases h c List.mem_cons_self with hblank | hascii
    · rw [isCaseless_of_isBlank hblank, asciiLower_of_blank hblank]
      rfl
    · simp [lowerChar, hascii, asciiLower]

theorem words_map {f : Char → Char} (h : ∀ c, isBlank (f c) = isBlank c) (t : Text) :
    words (t.map f) = (words t).map (List.map f) := by
  induction t with
  | nil => rfl
  | cons c t ih =>
    cases t with
    | nil =>
      show words [f c] = _
      rw [words_cons, words_cons, h]
      split <;> rfl
    | cons d t =>
      have hrest : words (f d :: t.map f) = (words (d :: t)).map (List.map f) := ih
      show words (f c :: f d :: t.map f) = _
      rw [words_cons, words_cons c, h]
      dsimp only
      rw [h, hrest]
      split
      · rfl
      · split
        · rfl
        · cases words (d :: t) <;> rfl

end Text

/-! ## Keywords -/

namespace Keyword

/-- The line has the words of the keyword, in any case. -/
def Spells (spelling line : Text) : Prop :=
  line.words.map (List.map Text.asciiLower) = spelling.words

instance (spelling line : Text) : Decidable (Spells spelling line) :=
  inferInstanceAs (Decidable (line.words.map (List.map Text.asciiLower) = spelling.words))

/-- Of a keyword, every character is an ASCII character. -/
theorem ascii_of_spelling {spelling : Text}
    (h : spelling ∈ constraintsSpellings ++ sectionSpellings.map Prod.fst) :
    (∀ w ∈ spelling.words, ∀ c ∈ w, c.toNat < 0x80) ∧
      Text.join [' '] spelling.words = spelling := by
  have hall : ∀ s ∈ constraintsSpellings ++ sectionSpellings.map Prod.fst,
      (∀ w ∈ s.words, (w.all fun c => decide (c.toNat < 0x80)) = true) ∧
        Text.join [' '] s.words = s := by
    decide
  obtain ⟨hascii, hjoin⟩ := hall spelling h
  exact ⟨fun w hw c hc => of_decide_eq_true (List.all_eq_true.mp (hascii w hw) c hc), hjoin⟩

/-- **What spells a keyword is compared as the keyword.** -/
theorem normal_of_spells {spelling line : Text}
    (h : spelling ∈ constraintsSpellings ++ sectionSpellings.map Prod.fst)
    (hline : Spells spelling line) : normal line = spelling := by
  obtain ⟨hascii, hjoin⟩ := ascii_of_spelling h
  have hchars : ∀ c ∈ line, Text.isBlank c = true ∨ c.toNat < 0x80 := by
    intro c hc
    cases hblank : Text.isBlank c with
    | true => exact Or.inl rfl
    | false =>
      -- the character stands in a word, whose lower-case form is a word of the keyword
      obtain ⟨w, hw, hcw⟩ := Text.exists_mem_words hc hblank
      have hlowered : w.map Text.asciiLower ∈ spelling.words := by
        rw [← hline]
        exact List.mem_map_of_mem hw
      exact Or.inr (Text.ascii_of_asciiLower (hascii _ hlowered _ (List.mem_map_of_mem hcw)))
  unfold normal
  rw [Text.lower_eq_map hchars, Text.words_map Text.isBlank_asciiLower_eq,
    show line.words.map (List.map Text.asciiLower) = spelling.words from hline, hjoin]

theorem section?_of_spells {spelling line : Text} {target : Section}
    (h : (spelling, target) ∈ sectionSpellings) (hline : Spells spelling line) :
    Keyword.section? line = some target := by
  have hlookup : ∀ entry ∈ sectionSpellings, sectionSpellings.lookup entry.1 = some entry.2 := by
    decide
  unfold section?
  rw [normal_of_spells (List.mem_append_right _ (List.mem_map_of_mem h)) hline]
  exact hlookup _ h

theorem opensConstraints_of_spells {spelling line : Text} (h : spelling ∈ constraintsSpellings)
    (hline : Spells spelling line) : opensConstraints line = true := by
  unfold opensConstraints
  rw [normal_of_spells (List.mem_append_left _ h) hline]
  exact List.contains_iff_mem.mpr h

end Keyword

/-! ## Directions -/

namespace Direction

/-- The word is one of those for the direction, in any case. -/
def Spells (direction : Direction) (word : Text) : Prop :=
  word.map Text.asciiLower ∈ direction.spellings

instance (direction : Direction) (word : Text) : Decidable (direction.Spells word) :=
  inferInstanceAs (Decidable (word.map Text.asciiLower ∈ direction.spellings))

variable {direction : Direction} {word : Text}

theorem mem_of_ofWord? (h : ofWord? word = some direction) :
    word.lower ∈ direction.spellings := by
  have hcontains : direction.spellings.contains word.lower = true :=
    List.find?_some (p := fun d : Direction => d.spellings.contains word.lower) h
  exact List.contains_iff_mem.mp hcontains

theorem isWord_of_spells (h : direction.Spells word) : word.IsWord := by
  have hall : ∀ d : Direction, ∀ s ∈ d.spellings, s ≠ [] ∧ s.any Text.isBlank = false := by
    intro d
    cases d <;> decide
  obtain ⟨hne, hblank⟩ := hall direction _ h
  refine ⟨fun h0 => hne (by rw [h0]; rfl), fun c hc => ?_⟩
  rw [← Text.isBlank_asciiLower_eq]
  exact Bool.eq_false_iff.mpr (List.any_eq_false.mp hblank _ (List.mem_map_of_mem hc))

/-- **A word that spells a direction names it.** -/
theorem ofWord?_of_spells (h : direction.Spells word) : ofWord? word = some direction := by
  have hall : ∀ d : Direction, ∀ s ∈ d.spellings,
      (s.all fun c => decide (c.toNat < 0x80)) = true ∧
        ([maximize, minimize].find? fun e => e.spellings.contains s) = some d := by
    intro d
    cases d <;> decide
  obtain ⟨hascii, hfind⟩ := hall direction _ h
  have hlower : word.lower = word.map Text.asciiLower := by
    refine Text.lower_ascii fun c hc => Text.ascii_of_asciiLower ?_
    exact of_decide_eq_true (List.all_eq_true.mp hascii _ (List.mem_map_of_mem hc))
  unfold ofWord?
  rw [hlower]
  exact hfind

end Direction

end LinearProgram

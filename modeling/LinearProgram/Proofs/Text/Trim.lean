/-
  Trim — texts without blanks at their ends.

  A text `IsTrimmed` if it neither starts nor ends with a blank. These are the texts that `trim`
  gives, and the ones that it leaves as they are.
-/

import LinearProgram.Text.Basic

namespace LinearProgram.Text

/-- No blank at either end. -/
structure IsTrimmed (t : Text) : Prop where
  head : ∀ c, t.head? = some c → isBlank c = false
  last : ∀ c, t.getLast? = some c → isBlank c = false

theorem trimStart_cons_of_blank {c : Char} (t : Text) (h : isBlank c = true) :
    trimStart (c :: t) = trimStart t := List.dropWhile_cons_of_pos h

theorem trimStart_of_head {t : Text} (h : ∀ c, t.head? = some c → isBlank c = false) :
    trimStart t = t := by
  cases t with
  | nil => rfl
  | cons c t => exact List.dropWhile_cons_of_neg (by simp [h c rfl])

/-- Blanks in front are dropped, however many there are. -/
theorem trimStart_append_of_blankOnly {gap : Text} (t : Text) (h : isBlankOnly gap = true) :
    trimStart (gap ++ t) = trimStart t :=
  List.dropWhile_append_of_pos (List.all_eq_true.mp h)

/-- Behind the first character that is not blank nothing is dropped. -/
theorem trimStart_append {t : Text} (u : Text) (h : isBlankOnly t = false) :
    trimStart (t ++ u) = trimStart t ++ u := by
  have hne : trimStart t ≠ [] := by
    intro h0
    rw [(trimStart_eq_nil_iff t).mp h0] at h
    cases h
  unfold trimStart at hne ⊢
  rw [List.dropWhile_append, if_neg (by simpa using hne)]

/-- Blanks at the end are blanks at the start of the reversed text. -/
theorem trimEnd_eq (t : Text) : trimEnd t = (trimStart t.reverse).reverse := rfl

theorem trimEnd_of_last {t : Text} (h : ∀ c, t.getLast? = some c → isBlank c = false) :
    trimEnd t = t := by
  rw [trimEnd_eq, trimStart_of_head, List.reverse_reverse]
  intro c hc
  rw [List.head?_reverse] at hc
  exact h c hc

theorem trimEnd_of_blankOnly {t : Text} (h : isBlankOnly t = true) : trimEnd t = [] := by
  rw [trimEnd_eq, List.reverse_eq_nil_iff, trimStart_eq_nil_iff]
  unfold isBlankOnly at h ⊢
  rw [List.all_reverse]
  exact h

theorem trimEnd_append_of_blank {c : Char} (t : Text) (h : isBlank c = true) :
    trimEnd (t ++ [c]) = trimEnd t := by
  rw [trimEnd_eq, List.reverse_append, List.reverse_singleton, List.singleton_append,
    trimStart_cons_of_blank _ h, ← trimEnd_eq]

/-- In front of the last character that is not blank nothing is dropped. -/
theorem trimEnd_append (t : Text) {u : Text} (h : isBlankOnly u = false) :
    trimEnd (t ++ u) = t ++ trimEnd u := by
  have hreverse : isBlankOnly u.reverse = false := by
    unfold isBlankOnly at h ⊢
    rw [List.all_reverse, h]
  rw [trimEnd_eq, List.reverse_append, trimStart_append _ hreverse, List.reverse_append,
    List.reverse_reverse, ← trimEnd_eq]

/-- What is left at the front does not start with a blank. -/
theorem head_trimStart (t : Text) : ∀ c, (trimStart t).head? = some c → isBlank c = false := by
  intro c hc
  cases hs : trimStart t with
  | nil =>
    rw [hs] at hc
    cases hc
  | cons d rest =>
    rw [hs] at hc
    cases hc
    exact not_isBlank_of_trimStart hs

theorem trimEnd_isPrefix (t : Text) : trimEnd t <+: t := by
  rw [trimEnd_eq, ← List.reverse_suffix, List.reverse_reverse]
  exact List.dropWhile_suffix _

/-- Blanks at the ends do not matter for what holds of no blank. -/
theorem any_trim {p : Char → Bool} (h : ∀ c, isBlank c = true → p c = false) (t : Text) :
    (trim t).any p = t.any p := by
  have hstart : ∀ t : Text, (trimStart t).any p = t.any p := by
    intro t
    induction t with
    | nil => rfl
    | cons c t ih =>
      by_cases hc : isBlank c = true
      · rw [trimStart_cons_of_blank t hc, ih, List.any_cons, h c hc, Bool.false_or]
      · rw [trimStart_of_head]
        rintro d ⟨rfl⟩
        exact Bool.not_eq_true _ ▸ hc
  unfold trim
  rw [trimEnd_eq, List.any_reverse, hstart, List.any_reverse, hstart]

/-- **What `trim` gives has no blank at either end.** -/
theorem isTrimmed_trim (t : Text) : IsTrimmed (trim t) := by
  constructor
  · intro c hc
    obtain ⟨rest, hrest⟩ := trimEnd_isPrefix (trimStart t)
    apply head_trimStart t c
    rw [← hrest, List.head?_append]
    have hc' : (trimEnd (trimStart t)).head? = some c := hc
    rw [hc']
    rfl
  · intro c hc
    have hc' : (trimStart (trimStart t).reverse).reverse.getLast? = some c := hc
    rw [List.getLast?_reverse] at hc'
    exact head_trimStart _ c hc'

theorem IsTrimmed.trim_eq {t : Text} (h : IsTrimmed t) : trim t = t := by
  rw [trim, trimStart_of_head h.head, trimEnd_of_last h.last]

theorem isTrimmed_singleton {c : Char} (h : isBlank c = false) : IsTrimmed [c] := by
  constructor
  · rintro d ⟨⟩
    exact h
  · rintro d ⟨⟩
    exact h

theorem isTrimmed_iff (t : Text) : IsTrimmed t ↔ trim t = t :=
  ⟨IsTrimmed.trim_eq, fun h => h ▸ isTrimmed_trim t⟩

theorem trim_cons_of_blank {c : Char} (t : Text) (h : isBlank c = true) :
    trim (c :: t) = trim t := by
  rw [trim, trimStart_cons_of_blank t h, trim]

theorem trim_append_of_blank {c : Char} (t : Text) (h : isBlank c = true) :
    trim (t ++ [c]) = trim t := by
  by_cases ht : isBlankOnly t = true
  · have hall : isBlankOnly (t ++ [c]) = true := by
      simp only [isBlankOnly, List.all_append, List.all_cons, List.all_nil, h, Bool.and_true]
      exact ht
    rw [(trim_eq_nil_iff t).mpr ht, (trim_eq_nil_iff _).mpr hall]
  · -- some character of `t` is not blank, so the front of `t` is cut as that of `t ++ [c]`
    rw [trim, trimStart_append _ (Bool.not_eq_true _ ▸ ht), trimEnd_append_of_blank _ h, trim]

/-- **What `trim` takes away are blanks**, in front and behind. -/
theorem exists_blanks_around (t : Text) : ∃ front back,
    isBlankOnly front = true ∧ isBlankOnly back = true ∧ t = front ++ trim t ++ back := by
  refine ⟨t.takeWhile isBlank, ((trimStart t).reverse.takeWhile isBlank).reverse,
    List.all_takeWhile, ?_, ?_⟩
  · unfold isBlankOnly
    rw [List.all_reverse]
    exact List.all_takeWhile
  · have hback : trim t ++ ((trimStart t).reverse.takeWhile isBlank).reverse = trimStart t := by
      rw [trim, trimEnd, ← List.reverse_append, List.takeWhile_append_dropWhile,
        List.reverse_reverse]
    rw [List.append_assoc, hback]
    exact List.takeWhile_append_dropWhile.symm

/-! ## First words -/

/-- A text without blanks at its ends that is not empty has a first word. -/
theorem firstWord?_ne_none {t : Text} (h : IsTrimmed t) (hne : t ≠ []) : t.firstWord? ≠ none := by
  cases t with
  | nil => exact absurd rfl hne
  | cons c rest =>
    have hc := h.head c rfl
    unfold firstWord?
    rw [trimStart_of_head h.head]
    simp only [List.takeWhile_cons, hc, Bool.not_false, if_true]
    split
    · next h => cases h
    · simp
    · simp

end LinearProgram.Text

/-
  Content — what of a line does not count.

  1. **Void** — blanks, and then nothing or a comment: a line of that form has no content.

  2. **Padding** — blanks in front of a line, and blanks and a comment behind it, do not change its
     content (`content_padded`). So the content of a line is the stretch between the two
     (`content_eq_iff`), and a line without content is void.

  3. **First words** — behind a word, the content of a line is what it were without the word.
-/

import LinearProgram.Proofs.Text.Cut
import LinearProgram.Source

namespace LinearProgram.Text

/-- Blanks, and then nothing or a comment. -/
def IsVoid (t : Text) : Prop :=
  ∃ blanks comment, isBlankOnly blanks = true ∧ (t = blanks ∨ t = blanks ++ '\\' :: comment)

theorem before_append_of_mem {d : Char} {t : Text} (u : Text) (h : d ∈ t) :
    before d (t ++ u) = before d t := by
  induction t with
  | nil => exact absurd h List.not_mem_nil
  | cons c t ih =>
    by_cases hc : c = d
    · simp [before, hc]
    · have ht : d ∈ t := (List.mem_cons.mp h).resolve_left (Ne.symm hc)
      have hrest := ih ht
      unfold before at hrest ⊢
      rw [List.cons_append, List.takeWhile_cons_of_pos (by simpa using hc),
        List.takeWhile_cons_of_pos (by simpa using hc), hrest]

theorem before_append_of_not_mem {d : Char} {t : Text} (u : Text) (h : d ∉ t) :
    before d (t ++ u) = t ++ before d u := by
  refine List.takeWhile_append_of_pos fun c hc => ?_
  rw [decide_eq_true_eq]
  rintro rfl
  exact h hc

/-- No blank begins a comment. -/
theorem not_mem_of_blankOnly {blanks : Text} (h : isBlankOnly blanks = true) : '\\' ∉ blanks := by
  intro hmem
  have hblank : isBlank '\\' = true := List.all_eq_true.mp h _ hmem
  exact absurd hblank (by decide)

theorem trim_append_of_blankOnly {gap : Text} (t : Text) (h : isBlankOnly gap = true) :
    trim (t ++ gap) = trim t := by
  induction gap generalizing t with
  | nil => rw [List.append_nil]
  | cons c gap ih =>
    unfold isBlankOnly at h
    rw [List.all_cons, Bool.and_eq_true] at h
    rw [List.append_cons, ih _ h.2, trim_append_of_blank t h.1]

/-- Only blanks of what is void stand before a comment. -/
theorem IsVoid.isBlankOnly_before {t : Text} (h : t.IsVoid) :
    isBlankOnly (before '\\' t) = true := by
  obtain ⟨blanks, comment, hblanks, rfl | rfl⟩ := h
  · rw [before_of_not_mem (not_mem_of_blankOnly hblanks)]
    exact hblanks
  · rw [before_append_of_not_mem _ (not_mem_of_blankOnly hblanks),
      show before '\\' ('\\' :: comment) = [] from rfl, List.append_nil]
    exact hblanks

/-- **Padding does not change the content of a line.** -/
theorem content_padded {front tail : Text} (raw : Text) (hfront : isBlankOnly front = true)
    (htail : tail.IsVoid) : content (front ++ raw ++ tail) = content raw := by
  have htrim : ∀ t : Text, trim (front ++ t) = trim t := by
    intro t
    unfold trim
    rw [trimStart_append_of_blankOnly t hfront]
  unfold content
  rw [List.append_assoc, before_append_of_not_mem _ (not_mem_of_blankOnly hfront), htrim]
  by_cases hmem : '\\' ∈ raw
  · rw [before_append_of_mem tail hmem]
  · rw [before_append_of_not_mem tail hmem, before_of_not_mem hmem,
      trim_append_of_blankOnly raw htail.isBlankOnly_before]

/-- A void line has no content. -/
theorem IsVoid.content_eq_nil {t : Text} (h : t.IsVoid) : content t = [] :=
  (trim_eq_nil_iff _).mpr h.isBlankOnly_before

/-- The line is made of blanks, its content `t`, blanks again and perhaps a comment. -/
structure HasContent (raw t : Text) : Prop where
  isTrimmed : t.IsTrimmed
  no_comment : '\\' ∉ t
  around : ∃ front tail, isBlankOnly front = true ∧ tail.IsVoid ∧ raw = front ++ t ++ tail

/-- A line is what stands before its comment, and the comment if it has one. -/
theorem exists_eq_before (raw : Text) :
    raw = before '\\' raw ∨ ∃ comment, raw = before '\\' raw ++ '\\' :: comment := by
  by_cases hmem : '\\' ∈ raw
  · obtain ⟨front, comment, rfl, hfront⟩ := List.eq_append_cons_of_mem hmem
    refine Or.inr ⟨comment, ?_⟩
    rw [before_append_of_not_mem _ hfront, show before '\\' ('\\' :: comment) = [] from rfl,
      List.append_nil]
  · exact Or.inl (before_of_not_mem hmem).symm

/-- **The content of a line** is what is left of it without the blanks around it and without its
    comment. -/
theorem content_eq_iff {raw t : Text} : content raw = t ↔ HasContent raw t := by
  constructor
  · rintro rfl
    have hbefore : '\\' ∉ before '\\' raw := by
      intro hmem
      have hne := List.mem_takeWhile_imp hmem
      simp at hne
    obtain ⟨front, back, hfront, hback, heq⟩ := exists_blanks_around (before '\\' raw)
    refine ⟨isTrimmed_trim _, ?_, front, ?_⟩
    · intro hmem
      refine hbefore ?_
      rw [heq]
      exact List.mem_append_left _ (List.mem_append_right _ hmem)
    · rcases exists_eq_before raw with hraw | ⟨comment, hraw⟩
      · exact ⟨back, hfront, ⟨back, [], hback, Or.inl rfl⟩, hraw.trans heq⟩
      · refine ⟨back ++ '\\' :: comment, hfront, ⟨back, comment, hback, Or.inr rfl⟩, ?_⟩
        rw [← List.append_assoc, show content raw = trim (before '\\' raw) from rfl, ← heq]
        exact hraw
  · rintro ⟨htrimmed, hcomment, front, tail, hfront, htail, rfl⟩
    rw [content_padded t hfront htail, content, before_of_not_mem hcomment, htrimmed.trim_eq]

/-- A line without content is blank or nothing but a comment. -/
theorem content_eq_nil_iff {raw : Text} : content raw = [] ↔ raw.IsVoid := by
  constructor
  · intro h
    obtain ⟨-, -, front, tail, hfront, ⟨blanks, comment, hblanks, htail⟩, rfl⟩ :=
      content_eq_iff.mp h
    have hgap : isBlankOnly (front ++ blanks) = true := by
      unfold isBlankOnly at hfront hblanks ⊢
      rw [List.all_append, hfront, hblanks]
      rfl
    refine ⟨front ++ blanks, comment, hgap, ?_⟩
    rcases htail with rfl | rfl
    · exact Or.inl (by rw [List.append_nil])
    · exact Or.inr (by rw [List.append_nil, List.append_assoc])
  · exact IsVoid.content_eq_nil

/-! ## First words -/

section

variable {w : Text} (hw : w.IsWord) (hcomment : '\\' ∉ w) (r : Text)
include hw hcomment

theorem IsWord.content_append :
    content (w ++ ' ' :: r) = w ++ trimEnd (' ' :: before '\\' r) := by
  have hbefore : before '\\' (w ++ ' ' :: r) = w ++ ' ' :: before '\\' r := by
    rw [before_append_of_not_mem _ hcomment]
    rfl
  unfold content
  rw [hbefore]
  exact hw.trim_append [] (' ' :: before '\\' r)

/-- A word is the whole content of its line if nothing behind it is content. -/
theorem IsWord.content_append_of_nil (h : content r = []) : content (w ++ ' ' :: r) = w := by
  have hblank : isBlankOnly (' ' :: before '\\' r) = true := (trim_eq_nil_iff _).mp h
  rw [hw.content_append hcomment, trimEnd_of_blankOnly hblank, List.append_nil]

/-- Otherwise it stands in front of what is content behind it. -/
theorem IsWord.exists_content_append (h : content r ≠ []) :
    ∃ gap, (isBlankOnly gap = true ∧ gap ≠ []) ∧
      content (w ++ ' ' :: r) = w ++ gap ++ content r := by
  have hsplit : ' ' :: before '\\' r =
      (' ' :: before '\\' r).takeWhile isBlank ++ trimStart (' ' :: before '\\' r) :=
    List.takeWhile_append_dropWhile.symm
  have hrest : trimStart (' ' :: before '\\' r) = trimStart (before '\\' r) :=
    trimStart_cons_of_blank _ (by decide)
  have hblank : isBlankOnly (trimStart (before '\\' r)) = false := by
    cases hb : isBlankOnly (trimStart (before '\\' r)) with
    | false => rfl
    | true => exact absurd (trimEnd_of_blankOnly hb) h
  refine ⟨(' ' :: before '\\' r).takeWhile isBlank, ⟨List.all_takeWhile, ?_⟩, ?_⟩
  · rw [List.takeWhile_cons_of_pos (by decide)]
    exact List.cons_ne_nil _ _
  · rw [hw.content_append hcomment, hsplit, hrest, Text.trimEnd_append _ hblank, ← hrest, ← hsplit,
      List.append_assoc]
    rfl

end

end LinearProgram.Text

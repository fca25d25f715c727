/-
  Handing — lines that are asked for one by one.

  Each call asks for the next line, or for the next line with content. The lines are told apart by
  where they stand: some are consumed, then come those that the call passes over, then the line that
  it hands out, and the others are still ahead.

  1. **Calls** — `Hands` says what one call answers and which lines are consumed behind it. A cursor
     behind the consumed lines does just that (`nextOf_hands`, by induction on the lines ahead, with
     the lines passed over so far as the invariant).

  2. **Sequences of calls** — `Reads` chains the calls. No line is handed out twice, since the
     consumed lines only become more; and once all are consumed every answer is the same.

  3. **Texts** — so a text is read line by line, whatever is asked for (`answers_of_text`).
-/

import LinearProgram.Proofs.Text.Content

namespace LinearProgram.Cursor

/-! ## Calls -/

/-- What a call answers, and how many lines were handed out or passed over by then. -/
abbrev Answer := Except Fault Text × Nat

/-- The answer where no line is left that will do: the input is incomplete. -/
def exhausted (ls : List Text) : Answer :=
  (.error { cause := .endOfInput, line := ls.length }, ls.length)

/-- The answer to one call behind the `consumed` ones of the lines `ls`, and the lines that are
    consumed then. Only a call that skips blank lines passes over any, and only over void ones. -/
inductive Hands (ls consumed : List Text) (skipBlank : Bool) : Answer → List Text → Prop
  /-- The first line that will do is handed out. Its number is its position, counted from one. -/
  | line {skipped ahead : List Text} {raw text : Text} (h : ls = consumed ++ skipped ++ raw :: ahead)
      (hskipped : ∀ l ∈ skipped, skipBlank = true ∧ l.IsVoid)
      (hraw : skipBlank = true → ¬ raw.IsVoid) (htext : raw.HasContent text) :
      Hands ls consumed skipBlank (.ok text, (consumed ++ skipped).length + 1)
        (consumed ++ skipped ++ [raw])
  /-- No line will do. -/
  | nothing {skipped : List Text} (h : ls = consumed ++ skipped)
      (hskipped : ∀ l ∈ skipped, skipBlank = true ∧ l.IsVoid) :
      Hands ls consumed skipBlank (exhausted ls) ls

/-- **A call of a cursor hands out the next line that will do**, and leaves the cursor behind it. -/
theorem nextOf_hands (skipBlank : Bool) {ls consumed skipped ahead : List Text}
    (h : ls = consumed ++ skipped ++ ahead)
    (hskipped : ∀ l ∈ skipped, skipBlank = true ∧ l.IsVoid) :
    ∃ answer consumed' ahead',
      nextOf .finished skipBlank ahead (consumed ++ skipped).length =
        (answer, ⟨ahead', .finished, consumed'.length⟩) ∧
      ls = consumed' ++ ahead' ∧
      Hands ls consumed skipBlank (answer, consumed'.length) consumed' := by
  induction ahead generalizing skipped with
  | nil =>
    rw [List.append_nil] at h
    subst h
    exact ⟨_, _, [], rfl, (List.append_nil _).symm, .nothing rfl hskipped⟩
  | cons raw ahead ih =>
    have hmore : ls = consumed ++ (skipped ++ [raw]) ++ ahead := by simp [h]
    have hlength : (consumed ++ (skipped ++ [raw])).length = (consumed ++ skipped).length + 1 := by
      simp [Nat.add_assoc]
    unfold nextOf
    by_cases hvoid : (raw.content.isEmpty && skipBlank) = true
    · -- the line is passed over
      rw [if_pos hvoid, ← hlength]
      refine ih hmore fun l hl => ?_
      rw [Bool.and_eq_true, List.isEmpty_iff, Text.content_eq_nil_iff] at hvoid
      rcases List.mem_append.mp hl with hl | hl
      · exact hskipped l hl
      · rw [List.mem_singleton.mp hl]
        exact hvoid.symm
    · rw [if_neg hvoid]
      rw [Bool.and_eq_true, List.isEmpty_iff, Text.content_eq_nil_iff] at hvoid
      refine ⟨.ok raw.content, consumed ++ (skipped ++ [raw]), ahead, by rw [hlength], hmore, ?_⟩
      rw [hlength, ← List.append_assoc]
      exact .line h hskipped (fun hskip hraw => hvoid ⟨hraw, hskip⟩) (Text.content_eq_iff.mp rfl)

/-! ## Sequences of calls -/

/-- The answers to calls one after the other. -/
def answers : List Bool → Cursor → List Answer
  | [], _ => []
  | skipBlank :: calls, c =>
    match c.next skipBlank with
    | (answer, c) => (answer, c.number) :: answers calls c

/-- The answers to calls one after the other, behind the `consumed` ones of the lines `ls`. -/
inductive Reads (ls : List Text) : (consumed : List Text) → List Bool → List Answer → Prop
  | nil {consumed : List Text} : Reads ls consumed [] []
  | cons {consumed consumed' : List Text} {skipBlank : Bool} {a : Answer} {calls : List Bool}
      {as : List Answer} (first : Hands ls consumed skipBlank a consumed')
      (others : Reads ls consumed' calls as) : Reads ls consumed (skipBlank :: calls) (a :: as)

/-- **The calls of a cursor are answered one after the other.** -/
theorem reads_answers {ls consumed ahead : List Text} (h : ls = consumed ++ ahead)
    (calls : List Bool) :
    Reads ls consumed calls (answers calls ⟨ahead, .finished, consumed.length⟩) := by
  induction calls generalizing consumed ahead with
  | nil => exact .nil
  | cons skipBlank calls ih =>
    have hnone : ls = consumed ++ [] ++ ahead := by rw [List.append_nil, h]
    obtain ⟨answer, consumed', ahead', hnext, hahead, hhands⟩ :=
      nextOf_hands skipBlank hnone fun l hl => absurd hl List.not_mem_nil
    rw [List.append_nil] at hnext
    unfold answers next
    dsimp only
    rw [hnext]
    exact .cons hhands (ih hahead)

/-- The positions of the lines that were handed out. -/
def positions (as : List Answer) : List Nat :=
  as.filterMap fun (answer, number) => answer.toOption.map fun _ => number

theorem positions_line (text : Text) (n : Nat) (as : List Answer) :
    positions ((.ok text, n) :: as) = n :: positions as := rfl

theorem positions_nothing (ls : List Text) (as : List Answer) :
    positions (exhausted ls :: as) = positions as := rfl

section

variable {ls consumed : List Text} {calls : List Bool} {as : List Answer}

theorem Hands.isPrefix {consumed' : List Text} {skipBlank : Bool} {a : Answer}
    (h : Hands ls consumed skipBlank a consumed') : consumed <+: consumed' := by
  cases h with
  | @line skipped ahead raw text h hskipped hraw htext =>
    rw [List.append_assoc]
    exact List.prefix_append consumed _
  | @nothing skipped h hskipped => exact ⟨skipped, h.symm⟩

/-- Only lines that are not yet consumed are handed out. -/
theorem Reads.lt_of_mem_positions (h : Reads ls consumed calls as) :
    ∀ n ∈ positions as, consumed.length < n := by
  induction h with
  | nil => exact fun n hn => absurd hn List.not_mem_nil
  | @cons consumed consumed' skipBlank a calls as first others ih =>
    have hrest : ∀ n ∈ positions as, consumed.length < n := fun n hn =>
      Nat.lt_of_le_of_lt first.isPrefix.length_le (ih n hn)
    cases first with
    | @line skipped ahead raw text h hskipped hraw htext =>
      intro n hn
      rw [positions_line] at hn
      rcases List.mem_cons.mp hn with rfl | hn
      · rw [List.length_append]
        omega
      · exact hrest n hn
    | @nothing skipped h hskipped =>
      rw [positions_nothing]
      exact hrest

/-- **No line is handed out twice**, and none out of order. -/
theorem Reads.pairwise_positions (h : Reads ls consumed calls as) :
    (positions as).Pairwise (· < ·) := by
  induction h with
  | nil => exact .nil
  | @cons consumed consumed' skipBlank a calls as first others ih =>
    have hrest := others.lt_of_mem_positions
    cases first with
    | @line skipped ahead raw text h hskipped hraw htext =>
      rw [List.length_append, List.length_singleton] at hrest
      rw [positions_line]
      exact List.pairwise_cons.mpr ⟨hrest, ih⟩
    | @nothing skipped h hskipped =>
      rw [positions_nothing]
      exact ih

/-- Where all lines are consumed, nothing more is handed out. -/
theorem Reads.eq_exhausted (h : Reads ls consumed calls as) (hall : consumed = ls) :
    ∀ a ∈ as, a = exhausted ls := by
  induction h with
  | nil => exact fun a ha => absurd ha List.not_mem_nil
  | @cons consumed consumed' skipBlank a calls as first others ih =>
    cases first with
    | @line skipped ahead raw text h hskipped hraw htext =>
      have hlength := congrArg List.length h
      rw [hall] at hlength
      simp only [List.length_append, List.length_cons] at hlength
      omega
    | @nothing skipped h hskipped =>
      intro b hb
      rcases List.mem_cons.mp hb with rfl | hb
      · rfl
      · exact ih rfl b hb

/-- **After a call in vain every call is in vain.** -/
theorem Reads.eq_exhausted_of_error (h : Reads ls consumed calls as) {front back : List Answer}
    {a : Answer} (has : as = front ++ a :: back) (ha : a.1.isOk = false) :
    ∀ b ∈ a :: back, b = exhausted ls := by
  induction h generalizing front with
  | nil => simp at has
  | @cons consumed consumed' skipBlank a' calls as first others ih =>
    cases front with
    | cons a'' front => exact ih (List.cons.inj has).2
    | nil =>
      obtain ⟨rfl, rfl⟩ := List.cons.inj has
      cases first with
      | @line skipped ahead raw text h hskipped hraw htext => cases ha
      | @nothing skipped h hskipped =>
        intro b hb
        rcases List.mem_cons.mp hb with rfl | hb
        · rfl
        · exact others.eq_exhausted rfl b hb

end

/-! ## Texts -/

/-- **A text is read line by line.** Whichever lines are asked for, each call is answered with the
    content and the number of the first line that is still ahead and will do; no line is handed out
    twice; and the first call for which no line will do, like every call after it, meets the end of
    the input at the number of lines that the text has. -/
theorem answers_of_text (t : Text) (calls : List Bool) :
    ∃ ls, t.Lined ls ∧ Reads ls [] calls (answers calls (ofSource (.ofText t))) ∧
      (positions (answers calls (ofSource (.ofText t)))).Pairwise (· < ·) ∧
      ∀ front a back, answers calls (ofSource (.ofText t)) = front ++ a :: back →
        a.1.isOk = false → ∀ b ∈ a :: back, b = exhausted ls := by
  have hnone : t.lines = [] ++ t.lines := (List.nil_append _).symm
  have hreads : Reads t.lines [] calls (answers calls (ofSource (.ofText t))) :=
    reads_answers hnone calls
  exact ⟨t.lines, Text.lines_eq_iff.mp rfl, hreads, hreads.pairwise_positions,
    fun _ _ _ has ha => hreads.eq_exhausted_of_error has ha⟩

/-- Lines with and without content, a comment, and calls behind the end. -/
example : answers [false, false, true, true, false]
      (ofSource (.ofText "  max \\ direction\n\n   \\ nothing\nobj: x\n\n".toList)) =
    [(.ok "max".toList, 1), (.ok [], 2), (.ok "obj: x".toList, 4),
      (.error ⟨.endOfInput, 5, none⟩, 5), (.error ⟨.endOfInput, 5, none⟩, 5)] := by
  decide +kernel

end LinearProgram.Cursor

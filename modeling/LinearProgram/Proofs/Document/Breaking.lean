/-
  Breaking — documents whose lines cannot be read to their end.

  1. **Requests** — a reading asks its source for each line that it reads, and once more if the
     lines run out. It asks no further once it has ended.

  2. **Running out** — where the lines of a source do not end the reading, the fault is the one of
     the source's ending, behind its last line and in the section that the lines lead to
     (`Source.model_of_not_isEnded`).

  3. **Breaks** — a source that breaks behind `n` requests has the outcome of the intact source if
     that is asked no more often. Otherwise the break is the fault: nothing that was read in front
     of it becomes a model, or another fault (`Source.model_breakingAfter`).
-/

import LinearProgram.Proofs.Document.Place

namespace LinearProgram.Source

/-! ## Requests -/

/-- How often a reading asks for a line: once for each line that it is handed, and once more if it
    is told that there are none left. -/
def requests (source : Source) : Nat :=
  match source.model with
  | .error ⟨.endOfInput, _, _⟩ => source.linesRead + 1
  | _ => source.linesRead

/-! ## Running out -/

/-- **Where the lines run out**, that is the fault, behind the last of them. -/
theorem model_of_not_isEnded {source : Source}
    (h : (Progress.behind source.lines).isEnded = false) :
    source.model =
      .error ⟨source.ending.cause, source.lines.length, some (Section.behindAll source.lines)⟩ := by
  rw [model_eq_behind, Progress.outcome_eq h, (Progress.section_behind h).2]

/-- A reading that has ended asks for the lines that it reads. -/
theorem requests_of_isEnded {source : Source}
    (h : (Progress.behind source.lines).isEnded = true) : source.requests = source.linesRead := by
  obtain ⟨raws, raw, rest, -, -, -, harrives⟩ := exists_last_arrives h
  unfold requests
  split
  · next line place hmodel =>
    -- no step leads to the fault that the lines have run out
    rw [hmodel] at harrives
    exact absurd rfl harrives.cause
  · rfl

/-- A reading that has not ended asks for all lines, and for one more. -/
theorem requests_of_not_isEnded {source : Source} (hending : source.ending = .finished)
    (h : (Progress.behind source.lines).isEnded = false) :
    source.requests = source.lines.length + 1 := by
  have hmodel := model_of_not_isEnded h
  rw [hending] at hmodel
  unfold requests
  rw [hmodel, linesRead_eq_length h]
  rfl

/-! ## Breaks -/

/-- The reading asks for a line that cannot be read. -/
structure Breaks (source : Source) (reason : Text) : Prop where
  goesOn : (Progress.behind source.lines).isEnded = false
  cause : source.ending.cause = .unreadable reason

/-- **A break that is met** is the fault, whatever was read in front of it. -/
theorem Breaks.model {source : Source} {reason : Text} (h : source.Breaks reason) :
    source.model =
      .error ⟨.unreadable reason, source.lines.length, some (Section.behindAll source.lines)⟩ := by
  rw [model_of_not_isEnded h.goesOn, h.cause]

theorem lines_breakingAfter (source : Source) (n : Nat) (reason : Text) :
    (source.breakingAfter n reason).lines = source.lines.take n := rfl

/-- The break is met with the first request that is one too many. -/
theorem cause_breakingAfter_of_le {source : Source} {n : Nat} (h : n ≤ source.lines.length)
    (reason : Text) : (source.breakingAfter n reason).ending.cause = .unreadable reason := by
  have hgrace : n - source.lines.length = 0 := Nat.sub_eq_zero_of_le h
  unfold breakingAfter
  rw [hgrace]
  rfl

/-- A break behind the end of the lines is not met. -/
theorem cause_breakingAfter_of_lt {source : Source} {n : Nat} (h : source.lines.length < n)
    (reason : Text) : (source.breakingAfter n reason).ending.cause = .endOfInput := by
  obtain ⟨grace, hgrace⟩ := Nat.exists_eq_add_of_lt h
  have hleft : n - source.lines.length = grace + 1 := by omega
  unfold breakingAfter
  rw [hleft]
  rfl

/-- If all requests are served, the break makes no difference. -/
theorem model_breakingAfter_of_served {source : Source} (hending : source.ending = .finished)
    {n : Nat} (h : source.requests ≤ n) (reason : Text) :
    (source.breakingAfter n reason).model = source.model := by
  cases hended : (Progress.behind source.lines).isEnded with
  | true =>
    rw [requests_of_isEnded hended] at h
    have hsame : (source.lines.take n).take source.linesRead =
        source.lines.take source.linesRead := by
      rw [List.take_take, Nat.min_eq_left h]
    exact (eq_of_take hended hsame).1
  | false =>
    rw [requests_of_not_isEnded hending hended] at h
    have hlines : (source.breakingAfter n reason).lines = source.lines :=
      List.take_of_length_le (by omega)
    have hended' : (Progress.behind (source.breakingAfter n reason).lines).isEnded = false := by
      rw [hlines]
      exact hended
    rw [model_of_not_isEnded hended', model_of_not_isEnded hended, hlines, hending,
      cause_breakingAfter_of_lt (by omega)]
    rfl

/-- In front of its last request the reading goes on. -/
theorem not_isEnded_of_lt_requests {source : Source} (hending : source.ending = .finished) {n : Nat}
    (h : n < source.requests) :
    (Progress.behind (source.lines.take n)).isEnded = false ∧ n ≤ source.lines.length := by
  cases hended : (Progress.behind source.lines).isEnded with
  | true =>
    rw [requests_of_isEnded hended] at h
    exact ⟨not_isEnded_of_lt_linesRead h, Nat.le_trans (Nat.le_of_lt h) source.linesRead_le⟩
  | false =>
    rw [requests_of_not_isEnded hending hended] at h
    refine ⟨?_, Nat.le_of_lt_succ h⟩
    rw [← List.take_append_drop n source.lines] at hended
    exact Progress.not_isEnded_of_append hended

/-- If a request is not served, the break is the fault. -/
theorem model_breakingAfter_of_unserved {source : Source} (hending : source.ending = .finished)
    {n : Nat} (h : n < source.requests) (reason : Text) :
    (source.breakingAfter n reason).model =
      .error ⟨.unreadable reason, n, some (Section.behindAll (source.lines.take n))⟩ := by
  obtain ⟨hgoesOn, hle⟩ := not_isEnded_of_lt_requests hending h
  have hbreaks : (source.breakingAfter n reason).Breaks reason :=
    ⟨hgoesOn, cause_breakingAfter_of_le hle reason⟩
  have hlength : (source.breakingAfter n reason).lines.length = n := by
    rw [lines_breakingAfter, List.length_take, Nat.min_eq_left hle]
  rw [hbreaks.model, hlength, lines_breakingAfter]

/-- **A break never makes a wrong outcome.** A text that can be asked for `n` lines and then breaks
    has its own outcome if its reading asks no more often. Otherwise its fault is the break, at line
    `n`, in the section that the reading of the intact text stands in behind its first `n` lines. -/
theorem model_breakingAfter (t : Text) (n : Nat) (reason : Text) :
    ((ofText t).breakingAfter n reason).model =
        (if (ofText t).requests ≤ n then (ofText t).model
          else .error ⟨.unreadable reason, n, some (Section.behindAll ((ofText t).lines.take n))⟩) ∧
      (n < (ofText t).requests →
        (Progress.behind ((ofText t).lines.take n)).isEnded = false ∧
          (Progress.behind ((ofText t).lines.take n)).state.draft.stage =
            Section.behindAll ((ofText t).lines.take n)) := by
  refine ⟨?_, fun h => ?_⟩
  · split
    · next h => exact model_breakingAfter_of_served rfl h reason
    · next h => exact model_breakingAfter_of_unserved rfl (Nat.lt_of_not_le h) reason
  · have hgoesOn := (not_isEnded_of_lt_requests rfl h).1
    exact ⟨hgoesOn, (Progress.section_behind hgoesOn).2⟩

/-- The break stands between the lines of a constraint that was begun. -/
example : ((ofText "max x\nst\nc: x\n<= 1\nend".toList).breakingAfter 3 "gone".toList).model =
    .error ⟨.unreadable "gone".toList, 3, some .constraints⟩ := by
  decide +kernel

end LinearProgram.Source

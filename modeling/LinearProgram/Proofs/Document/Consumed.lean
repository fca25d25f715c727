/-
  Consumed — how far a document is read.

  1. **Taking** — the machine takes lines until it has ended: behind fewer lines it has not ended,
     and what comes behind them it never sees.

  2. **Prefaces** — `Progress.behind` is how far the reading has come behind the first lines of a
     document. The crux: the outcome stands as soon as the reading has ended
     (`Source.eq_of_take`), so that it is reached behind the lines read, and not before.
-/

import LinearProgram.Proofs.Document.Progress

namespace LinearProgram

/-! ## Taking -/

namespace Line

theorem numbered_append (n : Nat) (raws raws' : List Text) :
    numbered n (raws ++ raws') = numbered n raws ++ numbered (n + raws.length) raws' := by
  induction raws generalizing n with
  | nil => rfl
  | cons raw raws ih =>
    rw [List.cons_append, numbered, numbered, ih, List.cons_append, List.length_cons,
      Nat.add_right_comm n 1, Nat.add_assoc]

theorem numbered_length (n : Nat) (raws : List Text) : (numbered n raws).length = raws.length := by
  induction raws generalizing n with
  | nil => rfl
  | cons raw raws ih => rw [numbered, List.length_cons, ih, List.length_cons]

theorem numbered_take (n k : Nat) (raws : List Text) :
    (numbered n raws).take k = numbered n (raws.take k) := by
  induction raws generalizing n k with
  | nil => rw [List.take_nil, numbered, List.take_nil]
  | cons raw raws ih =>
    cases k with
    | zero => rfl
    | succ k => rw [numbered, List.take_succ_cons, ih, List.take_succ_cons, numbered]

end Line

namespace Progress

theorem taken_le (p : Progress) (ls : List Line) : p.taken ls ≤ ls.length := by
  induction ls generalizing p with
  | nil => exact Nat.le_refl 0
  | cons l ls ih =>
    cases h : p.isEnded with
    | true => simp [taken, h]
    | false =>
      rw [taken_cons h]
      exact Nat.succ_le_succ (ih (p.step l))

theorem eq_ended {p : Progress} (h : p.isEnded = true) : ∃ result, p = .ended result := by
  cases p with
  | ended result => exact ⟨result, rfl⟩
  | _ => cases h

/-- What has ended stays as it is. -/
theorem run_of_isEnded {p : Progress} (h : p.isEnded = true) (ls : List Line) : p.run ls = p := by
  obtain ⟨result, rfl⟩ := eq_ended h
  exact run_ended result ls

/-- **The lines that are taken decide.** -/
theorem run_take_taken (p : Progress) (ls : List Line) :
    p.run (ls.take (p.taken ls)) = p.run ls := by
  induction ls generalizing p with
  | nil => rfl
  | cons l ls ih =>
    cases h : p.isEnded with
    | true => rw [run_of_isEnded h, run_of_isEnded h]
    | false => rw [taken_cons h, List.take_succ_cons, run_cons, run_cons, ih]

/-- **No line is taken behind the end**: fewer lines do not lead there. -/
theorem not_isEnded_of_lt_taken {p : Progress} {ls : List Line} {k : Nat} (h : k < p.taken ls) :
    (p.run (ls.take k)).isEnded = false := by
  induction ls generalizing p k with
  | nil => cases h
  | cons l ls ih =>
    cases hp : p.isEnded with
    | true =>
      obtain ⟨result, rfl⟩ := eq_ended hp
      rw [taken_ended] at h
      cases h
    | false =>
      rw [taken_cons hp] at h
      cases k with
      | zero => exact hp
      | succ k => exact ih (Nat.lt_of_succ_lt_succ h)

/-- Where the reading does not end, all lines are taken. -/
theorem taken_eq_length {p : Progress} {ls : List Line} (h : (p.run ls).isEnded = false) :
    p.taken ls = ls.length := by
  induction ls generalizing p with
  | nil => rfl
  | cons l ls ih =>
    cases hp : p.isEnded with
    | true =>
      rw [run_of_isEnded hp, hp] at h
      cases h
    | false => rw [taken_cons hp, ih h, List.length_cons]

/-- Where the reading has ended, lines behind make no difference. -/
theorem taken_append {p : Progress} {ls : List Line} (h : (p.run ls).isEnded = true)
    (ls' : List Line) : p.taken (ls ++ ls') = p.taken ls := by
  induction ls generalizing p with
  | nil =>
    obtain ⟨result, rfl⟩ := eq_ended h
    rw [taken_ended, taken_ended]
  | cons l ls ih =>
    cases hp : p.isEnded with
    | true =>
      obtain ⟨result, rfl⟩ := eq_ended hp
      rw [taken_ended, taken_ended]
    | false => rw [List.cons_append, taken_cons hp, taken_cons hp, ih h]

theorem taken_take {p : Progress} {ls : List Line} {k : Nat}
    (h : (p.run (ls.take k)).isEnded = true) : p.taken (ls.take k) = p.taken ls := by
  rw [← taken_append h (ls.drop k), List.take_append_drop]

end Progress

/-! ## The first lines of a document -/

namespace Progress

/-- How far the reading has come behind the first lines of a document. -/
def behind (raws : List Text) : Progress := run .start (Line.numbered 0 raws)

/-- One line more is one step more. -/
theorem behind_concat (raws : List Text) (raw : Text) :
    behind (raws ++ [raw]) = (behind raws).step ⟨raws.length + 1, raw.content⟩ := by
  unfold behind
  rw [Line.numbered_append, run_append, Nat.zero_add]
  rfl

theorem behind_append_of_isEnded {raws : List Text} (h : (behind raws).isEnded = true)
    (raws' : List Text) : behind (raws ++ raws') = behind raws := by
  unfold behind at h ⊢
  rw [Line.numbered_append, run_append, run_of_isEnded h]

theorem not_isEnded_of_append {raws raws' : List Text}
    (h : (behind (raws ++ raws')).isEnded = false) : (behind raws).isEnded = false := by
  cases hended : (behind raws).isEnded with
  | true =>
    rw [behind_append_of_isEnded hended, hended] at h
    cases h
  | false => rfl

end Progress

namespace Source

theorem model_eq_behind (source : Source) :
    source.model = (Progress.behind source.lines).outcome source.ending source.lines.length :=
  source.model_eq_outcome

theorem linesRead_le (source : Source) : source.linesRead ≤ source.lines.length := by
  rw [linesRead_eq_taken]
  exact Nat.le_trans (Progress.taken_le _ _) (Nat.le_of_eq (Line.numbered_length 0 source.lines))

/-- Where the reading has ended, it has the outcome. -/
theorem behind_eq_ended {source : Source} (h : (Progress.behind source.lines).isEnded = true) :
    Progress.behind source.lines = .ended source.model := by
  obtain ⟨result, hresult⟩ := Progress.eq_ended h
  rw [model_eq_behind, hresult]
  rfl

/-- The lines that were read lead as far as all lines do. -/
theorem behind_linesRead (source : Source) :
    Progress.behind (source.lines.take source.linesRead) = Progress.behind source.lines := by
  unfold Progress.behind
  rw [← Line.numbered_take, linesRead_eq_taken]
  exact Progress.run_take_taken _ _

/-- Before the last line that was read, the reading has not ended. -/
theorem not_isEnded_of_lt_linesRead {source : Source} {k : Nat} (h : k < source.linesRead) :
    (Progress.behind (source.lines.take k)).isEnded = false := by
  rw [linesRead_eq_taken] at h
  unfold Progress.behind
  rw [← Line.numbered_take]
  exact Progress.not_isEnded_of_lt_taken h

/-- A document whose end is not reached is read to its last line. -/
theorem linesRead_eq_length {source : Source}
    (h : (Progress.behind source.lines).isEnded = false) :
    source.linesRead = source.lines.length := by
  rw [linesRead_eq_taken, ← Line.numbered_length 0 source.lines]
  exact Progress.taken_eq_length h

/-- If the reading ends, it ends with the last line that was read. -/
theorem exists_last {source : Source} (h : (Progress.behind source.lines).isEnded = true) :
    ∃ raws raw rest, source.lines = raws ++ raw :: rest ∧ source.linesRead = raws.length + 1 ∧
      source.lines.take source.linesRead = raws ++ [raw] ∧
      (Progress.behind raws).isEnded = false := by
  have hread := source.behind_linesRead
  have hle := source.linesRead_le
  cases hk : source.linesRead with
  | zero =>
    -- nothing ends the reading in front of the first line
    rw [hk, List.take_zero] at hread
    rw [← hread] at h
    cases h
  | succ k =>
    rw [hk] at hle
    refine ⟨source.lines.take k, source.lines[k], source.lines.drop (k + 1), ?_, ?_, ?_, ?_⟩
    · rw [← List.drop_eq_getElem_cons, List.take_append_drop]
    · rw [List.length_take, Nat.min_eq_left (by omega)]
    · rw [List.take_append_getElem]
    · exact not_isEnded_of_lt_linesRead (by omega)

/-- If the first lines of a document end its reading, no further lines are read. -/
theorem linesRead_eq_of_take {source : Source} {k : Nat}
    (h : (Progress.behind (source.lines.take k)).isEnded = true) :
    source.linesRead = Progress.taken .start (Line.numbered 0 (source.lines.take k)) := by
  unfold Progress.behind at h
  rw [← Line.numbered_take] at h ⊢
  rw [linesRead_eq_taken, Progress.taken_take h]
  rfl

/-- If the first lines of a document end its reading, they have the result. -/
theorem model_of_take {source : Source} {k : Nat} {result : Except Fault Model}
    (h : Progress.behind (source.lines.take k) = .ended result) : source.model = result := by
  have hall : Progress.behind source.lines = .ended result := by
    rw [← List.take_append_drop k source.lines,
      Progress.behind_append_of_isEnded (by rw [h]; rfl), h]
  rw [model_eq_behind, hall]
  rfl

/-- Where the lines do not run out, the reading ends. -/
theorem isEnded_of_model {source : Source} (hending : source.ending = .finished)
    (h : ∀ fault, source.model = .error fault → fault.cause.kind ≠ .incompleteInput) :
    (Progress.behind source.lines).isEnded = true := by
  have hmodel := source.model_eq_behind
  rw [hending] at hmodel
  cases hbehind : Progress.behind source.lines with
  | ended result => rfl
  | _ =>
    rw [hbehind] at hmodel
    exact absurd rfl (h _ hmodel)

/-- **The lines that were read decide.** If they have ended the reading, every source that begins
    with them has the same outcome, and as many lines are read of it. -/
theorem eq_of_take {source source' : Source}
    (hended : (Progress.behind source.lines).isEnded = true)
    (hsame : source'.lines.take source.linesRead = source.lines.take source.linesRead) :
    source'.model = source.model ∧ source'.linesRead = source.linesRead := by
  obtain ⟨result, hresult⟩ := Progress.eq_ended hended
  have hread : Progress.behind (source.lines.take source.linesRead) = .ended result :=
    source.behind_linesRead.trans hresult
  have hread' : Progress.behind (source'.lines.take source.linesRead) = .ended result := by
    rw [hsame, hread]
  constructor
  · rw [model_of_take hread, model_of_take hread']
  · have hlines := linesRead_eq_of_take (show Progress.isEnded _ = true by rw [hread]; rfl)
    rw [linesRead_eq_of_take (show Progress.isEnded _ = true by rw [hread']; rfl), hsame]
    exact hlines.symm

end Source

end LinearProgram

/-
  Feed — what holds of a state that lines are handed out to.

  1. **Verdicts** — `Verdict.Leads` says what a verdict leads to: `P` of the state where more lines
     are wanted, `Q` where the step function is done, `F` where it failed.

  2. **Runs** — an invariant that each step keeps, from one line number to the next, holds at the
     end of a run of any length (`feedOf_leads`). The cursor keeps its place meanwhile: its lines are
     those of the source from its number on (`Cursor.Follows`).

  3. **Passages** — where the steps of the first lines are known one by one, a run over all lines is
     the run over those that are left (`Passes.feedOf`).
-/

import LinearProgram.Source

namespace LinearProgram.Cursor

variable {σ α : Type}

/-! ## Verdicts -/

/-- What a verdict leads to. -/
def Verdict.Leads (P : σ → Prop) (Q : σ → α → Prop) (F : σ → Fault → Prop) :
    Verdict σ α → Prop
  | .more s => P s
  | .done s a => Q s a
  | .failed s fault => F s fault

theorem Verdict.Leads.mono {P P' : σ → Prop} {Q Q' : σ → α → Prop}
    {F F' : σ → Fault → Prop} {v : Verdict σ α} (h : v.Leads P Q F) (hP : ∀ s, P s → P' s)
    (hQ : ∀ s a, Q s a → Q' s a) (hF : ∀ s f, F s f → F' s f) : v.Leads P' Q' F' := by
  cases v with
  | more s => exact hP s h
  | done s a => exact hQ s a h
  | failed s f => exact hF s f h

/-- What a run leads to, given the number of the last line that was read. -/
def Fed.Leads (Q : Nat → σ → α → Prop) (F : Nat → σ → Fault → Prop) (fed : Fed σ α) : Prop :=
  match fed.result with
  | .ok a => Q fed.cursor.number fed.state a
  | .error fault => F fed.cursor.number fed.state fault

/-! ## The place of a cursor -/

/-- The cursor stands somewhere in the source, with the lines behind it still to come. -/
structure Follows (source : Source) (c : Cursor) : Prop where
  lines : c.lines = source.lines.drop c.number
  number : c.number ≤ source.lines.length
  ending : c.ending = source.ending

/-- The cursor stands in the source, or it has tried to read on behind the end of it. -/
structure Stands (source : Source) (c : Cursor) : Prop where
  lines : c.lines = source.lines.drop c.number
  number : c.number ≤ source.lines.length

theorem Follows.stands {source : Source} {c : Cursor} (h : c.Follows source) : c.Stands source :=
  ⟨h.lines, h.number⟩

theorem follows_ofSource (source : Source) : (ofSource source).Follows source :=
  ⟨rfl, Nat.zero_le _, rfl⟩

/-- The cursor behind one more line. -/
theorem Follows.next {source : Source} {raw : Text} {rest : List Text} {number : Nat}
    {ending : Source.Ending} (h : Follows source ⟨raw :: rest, ending, number⟩) :
    Follows source ⟨rest, ending, number + 1⟩ := by
  have hdrop : raw :: rest = source.lines.drop number := h.lines
  have hrest : rest = source.lines.drop (number + 1) := by
    rw [← List.drop_drop, ← hdrop]
    rfl
  have hlength := congrArg List.length hdrop
  rw [List.length_cons, List.length_drop] at hlength
  exact ⟨hrest, by show number + 1 ≤ source.lines.length; omega, h.ending⟩

/-- The cursor behind the last line, after an attempt to read on. -/
theorem Follows.tried {source : Source} {number : Nat} {ending : Source.Ending}
    (h : Follows source ⟨[], ending, number⟩) : Stands source ⟨[], ending.tried, number⟩ :=
  ⟨h.lines, h.number⟩

/-! ## Runs -/

/-- A run leaves the cursor in its source, not before the place where it began. -/
structure Fed.Proceeds (source : Source) (number : Nat) (fed : Fed σ α) : Prop where
  stands : fed.cursor.Stands source
  follows : ∀ a, fed.result = .ok a → fed.cursor.Follows source
  number : number ≤ fed.cursor.number

theorem feedOf_proceeds {source : Source} {ending : Source.Ending}
    {step : Nat → Text → σ → Turn σ α} {lines : List Text} {number : Nat} {state : σ}
    (h : Follows source ⟨lines, ending, number⟩) :
    (feedOf ending step lines number state).Proceeds source number := by
  induction lines generalizing number state with
  | nil =>
    refine ⟨h.tried, ?_, Nat.le_refl _⟩
    intro a ha
    cases ha
  | cons raw rest ih =>
    -- whatever the verdict is, one line was taken
    rcases hturn : step (number + 1) raw.content state with ⟨verdict, events⟩
    rw [feedOf, hturn]
    cases verdict with
    | more state' =>
      have hrest : (feedOf ending step rest (number + 1) state').Proceeds source (number + 1) :=
        ih h.next
      exact ⟨hrest.stands, hrest.follows, Nat.le_of_succ_le hrest.number⟩
    | done state' a => exact ⟨h.next.stands, fun _ _ => h.next, Nat.le_succ _⟩
    | failed state' fault =>
      refine ⟨h.next.stands, ?_, Nat.le_succ _⟩
      intro a ha
      cases ha

/-- **What each step keeps holds at the end of a run.** -/
theorem feedOf_leads {P : Nat → σ → Prop} {Q : Nat → σ → α → Prop}
    {F : Nat → σ → Fault → Prop} {step : Nat → Text → σ → Turn σ α} {ending : Source.Ending}
    (hstep : ∀ n text s, P n s →
      (step (n + 1) text s).verdict.Leads (P (n + 1)) (Q (n + 1)) (F (n + 1)))
    (hending : ∀ n s, P n s → F n s ⟨ending.cause, n, none⟩)
    {lines : List Text} {number : Nat} {state : σ} (h : P number state) :
    (feedOf ending step lines number state).Leads Q F := by
  induction lines generalizing number state with
  | nil => exact hending number state h
  | cons raw rest ih =>
    have hverdict := hstep number raw.content state h
    rcases hturn : step (number + 1) raw.content state with ⟨verdict, events⟩
    rw [hturn] at hverdict
    rw [feedOf, hturn]
    cases verdict with
    | more state' => exact ih hverdict
    | done state' a => exact hverdict
    | failed state' fault => exact hverdict

/-! ## Passages -/

/-- One line after the other wants more, from the first state to the second. -/
inductive Passes (step : Nat → Text → σ → Turn σ α) : Nat → List Text → σ → σ → Prop where
  | nil {n : Nat} {s : σ} : Passes step n [] s s
  | cons {n : Nat} {raw : Text} {rest : List Text} {s s' s'' : σ}
      (first : (step (n + 1) raw.content s).verdict = .more s')
      (others : Passes step (n + 1) rest s' s'') : Passes step n (raw :: rest) s s''

section Passages

variable {step : Nat → Text → σ → Turn σ α} {n : Nat} {ls : List Text} {s s' s'' : σ}

/-- **A run goes on behind the lines that want more**, up to the events on the way. -/
theorem Passes.feedOf (h : Passes step n ls s s') (ending : Source.Ending) (rest : List Text) :
    ∃ events, feedOf ending step (ls ++ rest) n s =
      { feedOf ending step rest (n + ls.length) s' with events } := by
  induction h with
  | nil => exact ⟨_, rfl⟩
  | @cons n raw ls s s' s'' first _ ih =>
    rcases hturn : step (n + 1) raw.content s with ⟨verdict, told⟩
    rw [hturn] at first
    have hverdict : verdict = .more s' := first
    rw [hverdict] at hturn
    have hlength : n + (raw :: ls).length = n + 1 + ls.length := by
      rw [List.length_cons]
      omega
    obtain ⟨events, hrest⟩ := ih
    refine ⟨told ++ events, ?_⟩
    rw [hlength, List.cons_append, Cursor.feedOf, hturn]
    dsimp only
    rw [hrest]

/-- A run that is done with the line behind them. -/
theorem Passes.feedOf_done (h : Passes step n ls s s') (ending : Source.Ending)
    (rest : List Text) {raw : Text} {a : α}
    (hdone : (step (n + ls.length + 1) raw.content s').verdict = .done s'' a) :
    (Cursor.feedOf ending step (ls ++ raw :: rest) n s).result = .ok a ∧
      (Cursor.feedOf ending step (ls ++ raw :: rest) n s).state = s'' ∧
      (Cursor.feedOf ending step (ls ++ raw :: rest) n s).cursor =
        ⟨rest, ending, n + ls.length + 1⟩ := by
  rcases hturn : step (n + ls.length + 1) raw.content s' with ⟨verdict, told⟩
  rw [hturn] at hdone
  have hverdict : verdict = .done s'' a := hdone
  rw [hverdict] at hturn
  obtain ⟨events, hfeed⟩ := h.feedOf ending (raw :: rest)
  rw [hfeed, Cursor.feedOf, hturn]
  exact ⟨rfl, rfl, rfl⟩

end Passages

end LinearProgram.Cursor

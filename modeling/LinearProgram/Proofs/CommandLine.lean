/-
  CommandLine — what arguments give to the switches of a program.

  1. **Gifts** — arguments that are read without complaint come apart into switches with their
     values: a switch that takes none, a switch and its value in two arguments, or both in one
     (`Gives`). This is so for programs without operands, where nothing else has a place.

  2. **Reading** — reading the arguments is taking what they give from left to right
     (`read_of_gives`), and only arguments of this form are read (`exists_gives_of_read`). The
     invariant of the latter tells which switch still waits for its value.

  3. **Values** — a switch may be given more than once; `valueOf` is what it has in the end.
-/

import LinearProgram.CommandLine

namespace LinearProgram.CommandLine

variable {κ σ : Type}

/-! ## Gifts -/

/-- What the arguments give to the switches, in order. -/
inductive Gives (usage : Usage κ) : List Text → List (κ × Option Text) → Prop
  | nil : Gives usage [] []
  /-- A switch that takes no value. -/
  | bare {t : Text} {s : Switch κ} {arguments : List Text} {given : List (κ × Option Text)}
      (h : word usage t = .ok (.switch s none)) (hs : s.takesValue = false)
      (others : Gives usage arguments given) :
      Gives usage (t :: arguments) ((s.key, none) :: given)
  /-- A switch with its value in the next argument. -/
  | apart {t value : Text} {s : Switch κ} {arguments : List Text} {given : List (κ × Option Text)}
      (h : word usage t = .ok (.switch s none)) (hs : s.takesValue = true)
      (hvalue : word usage value = .ok (.operand value)) (others : Gives usage arguments given) :
      Gives usage (t :: value :: arguments) ((s.key, some value) :: given)
  /-- A switch with its value behind an equals sign, where it may be lost. -/
  | joined {t value : Text} {s : Switch κ} {arguments : List Text} {given : List (κ × Option Text)}
      (h : word usage t = .ok (.switch s (some value))) (hs : s.takesValue = true)
      (others : Gives usage arguments given) :
      Gives usage (t :: arguments) ((s.key, keptValue value) :: given)

/-- Takes what is given, in order. -/
def takeAll (onSwitch : κ → Option Text → σ → Except Refusal σ) (state : σ)
    (given : List (κ × Option Text)) : Except Refusal σ :=
  given.foldlM (fun state (key, value) => onSwitch key value state) state

/-! ## Words -/

section

variable {usage : Usage κ}

/-- What a spelling means is no operand. -/
theorem ne_operand_of_mem {spelling : Text} {meaning : Option Text → Word κ}
    (h : (spelling, meaning) ∈ usage.meanings) (value : Option Text) (t : Text) :
    meaning value ≠ .operand t := by
  rcases List.mem_cons.mp h with h | h
  · cases h
    exact nofun
  · obtain ⟨s, -, h⟩ := List.mem_map.mp h
    cases h
    exact nofun

theorem mem_of_lookup {spelling : Text} {meaning : Option Text → Word κ}
    (h : usage.meanings.lookup spelling = some meaning) : (spelling, meaning) ∈ usage.meanings := by
  obtain ⟨before, behind, heq, -⟩ := List.lookup_eq_some_iff.mp h
  rw [heq]
  exact List.mem_append_right before List.mem_cons_self

theorem eq_of_unmatched {t t' : Text} (h : unmatched (κ := κ) t = .operand t') : t' = t := by
  unfold unmatched at h
  split at h
  · cases h
    rfl
  · cases h

/-- An operand stands for itself. -/
theorem eq_of_operand {t t' : Text} (h : word usage t = .ok (.operand t')) : t' = t := by
  have hlong : ∀ u, longWord usage u = .ok (.operand t') → t' = u := by
    intro u hu
    unfold longWord at hu
    split at hu
    · next meaning hlookup =>
      exact absurd (Except.ok.inj hu) (ne_operand_of_mem (mem_of_lookup hlookup) none t')
    · dsimp only at hu
      split at hu
      · next meaning v hlookup hcut =>
        exact absurd (Except.ok.inj hu) (ne_operand_of_mem (mem_of_lookup hlookup) (some v) t')
      · split at hu
        · next spelling' meaning hone =>
          have hmem : (spelling', meaning) ∈ usage.meanings :=
            (List.mem_filter.mp (hone ▸ List.mem_singleton.mpr rfl)).1
          exact absurd (Except.ok.inj hu) (ne_operand_of_mem hmem _ t')
        · exact eq_of_unmatched (Except.ok.inj hu)
        · cases hu
  unfold word at h
  split at h
  · cases h
    rfl
  · exact hlong _ h
  · cases h
  · cases h
  · cases h
  · exact eq_of_unmatched (Except.ok.inj h)
  · cases h
    rfl

theorem words_cons {t : Text} {w : Word κ} (ht : t ≠ ['-', '-']) (hw : word usage t = .ok w)
    {rest : List Text} {ws : List (Word κ)} (hrest : words usage rest = .ok ws) :
    words usage (t :: rest) = .ok (w :: ws) := by
  rw [words, if_neg ht, hw, hrest]

/-- The first of some arguments is the divider or a word of its own. -/
theorem words_cons_eq_ok {t : Text} {rest : List Text} {ws : List (Word κ)}
    (h : words usage (t :: rest) = .ok ws) :
    (∃ behind, ws = .divider :: behind) ∨
      ∃ w others, word usage t = .ok w ∧ words usage rest = .ok others ∧ ws = w :: others := by
  rw [words] at h
  split at h
  · exact Or.inl ⟨_, (Except.ok.inj h).symm⟩
  · split at h
    · cases h
    · next w hw =>
      split at h
      · cases h
      · next others hothers => exact Or.inr ⟨w, others, hw, hothers, (Except.ok.inj h).symm⟩

end

/-! ## Reading -/

section

variable {usage : Usage κ} {onOperand : Text → σ → σ}
  {onSwitch : κ → Option Text → σ → Except Refusal σ}

theorem takeAll_cons (state : σ) (key : κ) (value : Option Text) (given : List (κ × Option Text)) :
    takeAll onSwitch state ((key, value) :: given) =
      onSwitch key value state >>= fun state => takeAll onSwitch state given :=
  List.foldlM_cons

/-- Something that has no place is never forgiven. -/
theorem take_excess_ne_ok (state : σ) (rest : List (Said κ)) (a : σ) :
    take onOperand onSwitch true state rest ≠ .ok a := by
  induction rest generalizing state with
  | nil => exact nofun
  | cons said rest ih =>
    cases said with
    | operand t => exact ih (onOperand t state)
    | excess => exact ih state
    | refused refusal => exact nofun
    | switch key value =>
      rw [take]
      split
      · exact nofun
      · exact ih _

/-- Taking a switch, and then the rest. -/
theorem take_switch (state : σ) (key : κ) (value : Option Text) (rest : List (Said κ)) :
    take onOperand onSwitch false state (.switch key value :: rest) =
      onSwitch key value state >>= fun state => take onOperand onSwitch false state rest := by
  rw [take]
  cases onSwitch key value state with
  | error refusal => rfl
  | ok state => rfl

section

variable (ws : List (Word κ)) {s : Switch κ}

theorem said_bare (hs : s.takesValue = false) :
    said .settled none (.switch s none :: ws) = .switch s.key none :: said .settled none ws := by
  simp [said, hs, Stage.moved]

/-- A switch may have to wait for its value. -/
theorem said_waiting (hs : s.takesValue = true) :
    said .settled none (.switch s none :: ws) = said .settled (some s.key) ws := by
  simp [said, hs, Stage.moved]

theorem said_value (key : κ) (value : Text) :
    said .settled (some key) (.operand value :: ws) =
      .switch key (some value) :: said .settled none ws := rfl

theorem said_joined (value : Text) (hs : s.takesValue = true) :
    said .settled none (.switch s (some value) :: ws) =
      .switch s.key (keptValue value) :: said .settled none ws := by
  simp [said, hs, Stage.moved]

theorem said_unwanted (value : Text) (hs : s.takesValue = false) :
    said .settled none (.switch s (some value) :: ws) = [.refused .misuse] := by
  simp [said, hs]

end

/-- What is said where arguments give something. -/
theorem said_of_gives (hdivider : word usage ['-', '-'] = .error .misuse)
    {arguments : List Text} {given : List (κ × Option Text)} (h : Gives usage arguments given) :
    ∃ ws, words usage arguments = .ok ws ∧
      said .settled none ws = given.map fun (key, value) => .switch key value := by
  have hne : ∀ {t : Text} {w : Word κ}, word usage t = .ok w → t ≠ ['-', '-'] := by
    rintro t w ht rfl
    rw [hdivider] at ht
    cases ht
  induction h with
  | nil => exact ⟨[], rfl, rfl⟩
  | @bare t s arguments given h hs others ih =>
    obtain ⟨ws, hws, hsaid⟩ := ih
    refine ⟨_, words_cons (hne h) h hws, ?_⟩
    rw [said_bare ws hs, hsaid, List.map_cons]
  | @apart t value s arguments given h hs hvalue others ih =>
    obtain ⟨ws, hws, hsaid⟩ := ih
    refine ⟨_, words_cons (hne h) h (words_cons (hne hvalue) hvalue hws), ?_⟩
    rw [said_waiting _ hs, said_value, hsaid, List.map_cons]
  | @joined t value s arguments given h hs others ih =>
    obtain ⟨ws, hws, hsaid⟩ := ih
    refine ⟨_, words_cons (hne h) h hws, ?_⟩
    rw [said_joined ws value hs, hsaid, List.map_cons]

/-- **Reading arguments is taking what they give**, from left to right. -/
theorem read_of_gives (hoperand : usage.takesOperand = false)
    (hdivider : word usage ['-', '-'] = .error .misuse) (state : σ) {arguments : List Text}
    {given : List (κ × Option Text)} (h : Gives usage arguments given) :
    read usage onOperand onSwitch state arguments = takeAll onSwitch state given := by
  obtain ⟨ws, hws, hsaid⟩ := said_of_gives hdivider h
  unfold read
  rw [hws, hoperand]
  dsimp only
  rw [if_neg Bool.false_ne_true, hsaid]
  clear h hws hsaid
  induction given generalizing state with
  | nil => rfl
  | cons gift given ih =>
    obtain ⟨key, value⟩ := gift
    rw [List.map_cons, take_switch, takeAll_cons]
    exact congrArg (onSwitch key value state >>= ·) (funext ih)

/-- What is taken behind a switch was taken with the switch. -/
theorem exists_take_of_switch {state a : σ} {key : κ} {value : Option Text} {rest : List (Said κ)}
    (h : take onOperand onSwitch false state (.switch key value :: rest) = .ok a) :
    ∃ state', take onOperand onSwitch false state' rest = .ok a := by
  rw [take_switch] at h
  cases hstate : onSwitch key value state with
  | error refusal =>
    rw [hstate] at h
    cases h
  | ok state' =>
    rw [hstate] at h
    exact ⟨state', h⟩

/-- The arguments give something, behind the value of a switch if one waits for it. -/
def GivesFrom (usage : Usage κ) : (waiting : Option κ) → List Text → Prop
  | none, arguments => ∃ given, Gives usage arguments given
  | some _, arguments => ∃ value rest given, arguments = value :: rest ∧
      word usage value = .ok (.operand value) ∧ Gives usage rest given

/-- Arguments are only read if they give something. -/
theorem givesFrom_of_take (waiting : Option κ) {arguments : List Text} {ws : List (Word κ)}
    (hws : words usage arguments = .ok ws) {state a : σ}
    (h : take onOperand onSwitch false state (said .settled waiting ws) = .ok a) :
    GivesFrom usage waiting arguments := by
  induction arguments generalizing waiting ws state with
  | nil =>
    cases hws
    cases waiting with
    | none => exact ⟨[], .nil⟩
    | some key => cases h
  | cons t arguments ih =>
    rcases words_cons_eq_ok hws with ⟨behind, rfl⟩ | ⟨w, others, hw, hothers, rfl⟩
    · -- the divider has no place, least of all as a value
      cases waiting with
      | none => exact absurd h (take_excess_ne_ok _ _ a)
      | some key => cases h
    · cases waiting with
      | some key =>
        cases w with
        | operand value =>
          obtain rfl := eq_of_operand hw
          obtain ⟨state', hrest⟩ := exists_take_of_switch h
          obtain ⟨given, hgiven⟩ := ih none hothers hrest
          exact ⟨value, arguments, given, rfl, hw, hgiven⟩
        | divider => cases h
        | switch s value => cases h
        | help value => cases h
        | shortHelp behind => cases h
        | unknown => cases h
      | none =>
        cases w with
        | switch s value? =>
          cases value? with
          | none =>
            cases hs : s.takesValue with
            | false =>
              rw [said_bare others hs] at h
              obtain ⟨state', hrest⟩ := exists_take_of_switch h
              obtain ⟨given, hgiven⟩ := ih none hothers hrest
              exact ⟨_, .bare hw hs hgiven⟩
            | true =>
              rw [said_waiting others hs] at h
              obtain ⟨value, rest, given, rfl, hvalue, hgiven⟩ := ih (some s.key) hothers h
              exact ⟨_, .apart hw hs hvalue hgiven⟩
          | some value =>
            cases hs : s.takesValue with
            | false =>
              rw [said_unwanted others value hs] at h
              cases h
            | true =>
              rw [said_joined others value hs] at h
              obtain ⟨state', hrest⟩ := exists_take_of_switch h
              obtain ⟨given, hgiven⟩ := ih none hothers hrest
              exact ⟨_, .joined hw hs hgiven⟩
        | operand value => exact absurd h (take_excess_ne_ok _ _ a)
        | divider => exact absurd h (take_excess_ne_ok _ _ a)
        | unknown => exact absurd h (take_excess_ne_ok _ _ a)
        | help value? => cases value? <;> cases h
        | shortHelp behind => cases h

/-- **Arguments that are read give something.** -/
theorem exists_gives_of_read (hoperand : usage.takesOperand = false) {state a : σ}
    {arguments : List Text} (h : read usage onOperand onSwitch state arguments = .ok a) :
    ∃ given, Gives usage arguments given := by
  unfold read at h
  split at h
  · cases h
  · next ws hws =>
    rw [hoperand, if_neg Bool.false_ne_true] at h
    exact givesFrom_of_take none hws h

end

/-! ## Values -/

/-- The value that a switch has in the end: the last one that it was given, if that is not lost. -/
def valueOf [DecidableEq κ] (key : κ) (given : List (κ × Option Text)) : Option Text :=
  (given.reverse.lookup key).join

/-- What is given last overrides what was given before. -/
theorem valueOf_concat [DecidableEq κ] (given : List (κ × Option Text)) (key key' : κ)
    (value : Option Text) :
    valueOf key (given ++ [(key', value)]) = if key = key' then value else valueOf key given := by
  unfold valueOf
  rw [List.reverse_concat, List.lookup_cons]
  by_cases h : key = key'
  · simp [h]
  · rw [beq_eq_false_iff_ne.mpr h, if_neg h]

end LinearProgram.CommandLine

/-
  Bound — what the lines of the bounds section say.

  1. **Sides** — a line is made of pieces with `<=` in between, or with `>=` in between and then the
     pieces count from right to left.

  2. **Shapes** — `Bound.Says` lists the five shapes of a line, and what each of them changes: one
     bound or both. A line is read as a bound exactly if it has one of these shapes
     (`Bound.read_eq_ok_iff`).
-/

import LinearProgram.Bound
import LinearProgram.Proofs.Text.Cut

namespace LinearProgram.Bound

/-! ## Sides -/

/-- A line is made of pieces with `<=` in between, or with `>=` and in the opposite order. -/
def Sides (line : Text) (pieces : List Text) : Prop :=
  (Text.hasPair '>' '=' line = false ∧
      (Text.splitAtPair '<' '=' line).map Text.trim = pieces) ∨
    (Text.hasPair '>' '=' line = true ∧ Text.hasPair '<' '=' line = false ∧
      (Text.splitAtPair '>' '=' line).map Text.trim = pieces.reverse)

theorem segments_eq_ok_iff {line : Text} {pieces : List Text} :
    segments line = .ok pieces ↔ Sides line pieces := by
  unfold segments Sides
  cases hgreater : Text.hasPair '>' '=' line with
  | false => simp
  | true =>
    cases hless : Text.hasPair '<' '=' line with
    | true => simp
    | false => simp [List.reverse_eq_iff]

/-- The pieces of a line are its own. -/
theorem Sides.unique {line : Text} {pieces pieces' : List Text} (h : Sides line pieces)
    (h' : Sides line pieces') : pieces = pieces' := by
  have hsegments := segments_eq_ok_iff.mpr h
  rw [segments_eq_ok_iff.mpr h'] at hsegments
  cases hsegments
  rfl

/-! ## Shapes -/

/-- What a line says where these names are registered. -/
inductive Says (names : List Text) (line : Text) : Bound → Prop where
  /-- A variable on the left of `<=`: `x <= v` sets the upper bound only. -/
  | upper {x value : Text} {v : Float} (h : Sides line [x, value]) (hx : x ∈ names)
      (hvalue : value ∉ names) (hv : Quantity.read value = .ok v) : Says names line ⟨x, .upper v⟩
  /-- A variable on the right of `<=`: `v <= x` sets the lower bound only. -/
  | lower {x value : Text} {v : Float} (h : Sides line [value, x]) (hx : x ∈ names)
      (hvalue : value ∉ names) (hv : Quantity.read value = .ok v) : Says names line ⟨x, .lower v⟩
  /-- A variable between two values: `l <= x <= u` sets both. -/
  | between {low x high : Text} {l u : Float} (h : Sides line [low, x, high]) (hx : x ∈ names)
      (hl : Quantity.read low = .ok l) (hu : Quantity.read high = .ok u) :
      Says names line ⟨x, .both l u⟩
  /-- An equality: `x = v` sets both. What is behind a further `=` does not count. -/
  | fixed {whole left value : Text} {rest : List Text} {v : Float} (h : Sides line [whole])
      (hline : Text.splitAt '=' line = left :: value :: rest) (hx : left.trim ∈ names)
      (hv : Quantity.read value = .ok v) : Says names line ⟨left.trim, .both v v⟩
  /-- A variable that is `free` has no bounds. -/
  | free {whole x word : Text} (h : Sides line [whole]) (hline : '=' ∉ line)
      (hwords : line.words = [x, word]) (hfree : word.lower = "free".toList) (hx : x ∈ names) :
      Says names line ⟨x, .both (-Quantity.infinity) Quantity.infinity⟩

theorem Says.name_mem {names : List Text} {line : Text} {b : Bound} (h : Says names line b) :
    b.name ∈ names := by
  cases h with
  | upper _ hx => exact hx
  | lower _ hx => exact hx
  | between _ hx => exact hx
  | fixed _ _ hx => exact hx
  | free _ _ _ _ hx => exact hx

section

variable {table : Table} {line : Text} {b : Bound}

theorem ofForm_eq_ok_iff {f : Form} :
    ofForm table f = .ok b ↔
      f.name ∈ table.names ∧ ∃ change, f.change = .ok change ∧ b = ⟨f.name, change⟩ := by
  unfold ofForm
  by_cases h : table.has f.name = true
  · rw [if_pos h]
    cases hchange : f.change with
    | error cause => simp [Except.map]
    | ok change => simp [Except.map, (Table.has_iff table f.name).mp h, eq_comm]
  · rw [if_neg h]
    constructor
    · exact fun h' => nomatch h'
    · exact fun h' => absurd ((Table.has_iff table f.name).mpr h'.1) h

theorem map_eq_ok_iff {α β : Type} {f : α → β} {e : Except Cause α} {y : β} :
    e.map f = .ok y ↔ ∃ x, e = .ok x ∧ f x = y := by
  cases e <;> simp [Except.map]

/-- An equality has an equals sign. -/
theorem splitAt_of_mem {d : Char} {t : Text} (h : d ∈ t) :
    ∃ left value rest, Text.splitAt d t = left :: value :: rest := by
  obtain ⟨front, back, rfl, hfront⟩ := List.eq_append_cons_of_mem h
  rw [Text.splitAt_append back hfront]
  cases hback : Text.splitAt d back with
  | nil => exact absurd hback (Text.splitAt_ne_nil d back)
  | cons value rest => exact ⟨front, value, rest, rfl⟩

/-- A line that is no order relation. -/
theorem equalityOrFree_eq_ok_iff {f : Form} :
    equalityOrFree line = .ok f ↔
      (∃ left value rest, Text.splitAt '=' line = left :: value :: rest ∧
        f = .fixed left.trim value) ∨
      '=' ∉ line ∧ ∃ x word, line.words = [x, word] ∧ word.lower = "free".toList ∧
        f = .free x := by
  by_cases hmem : '=' ∈ line
  · obtain ⟨left, value, rest, hsplit⟩ := splitAt_of_mem hmem
    unfold equalityOrFree
    rw [hsplit]
    constructor
    · intro h
      cases h
      exact Or.inl ⟨left, value, rest, rfl, rfl⟩
    · rintro (⟨left', value', rest', hsame, rfl⟩ | ⟨hline, -⟩)
      · cases hsame
        rfl
      · exact absurd hmem hline
  · unfold equalityOrFree
    rw [Text.splitAt_of_not_mem hmem]
    constructor
    · intro h
      dsimp only at h
      split at h
      · next x word hwords =>
        split at h
        · next hfree =>
          cases h
          exact Or.inr ⟨hmem, x, word, hwords, hfree, rfl⟩
        · cases h
      · cases h
    · rintro (⟨left, value, rest, hsplit, -⟩ | ⟨-, x, word, hwords, hfree, rfl⟩)
      · cases hsplit
      · dsimp only
        rw [hwords]
        dsimp only
        rw [if_pos hfree]

theorem not_has {name : Text} (h : name ∉ table.names) : table.has name = false := by
  rw [← Bool.not_eq_true, Table.has_iff]
  exact h

/-- Two values change both bounds. -/
theorem change_between_eq_ok_iff {low x high : Text} {change : Change} :
    (Form.between low x high).change = .ok change ↔
      ∃ l u, Quantity.read low = .ok l ∧ Quantity.read high = .ok u ∧ change = .both l u := by
  unfold Form.change
  cases hlow : Quantity.read low with
  | error cause =>
    dsimp only
    rw [hlow]
    constructor
    · exact fun h => nomatch h
    · rintro ⟨l, u, h, -⟩
      cases h
  | ok l =>
    dsimp only
    rw [hlow]
    constructor
    · intro h
      obtain ⟨u, hu, rfl⟩ := map_eq_ok_iff.mp h
      exact ⟨l, u, rfl, hu, rfl⟩
    · rintro ⟨l', u, hl, hu, rfl⟩
      cases hl
      exact map_eq_ok_iff.mpr ⟨u, hu, rfl⟩

/-- What a form does, its line says. -/
theorem says_of_form {f : Form} (hform : form table line = .ok f) (hname : f.name ∈ table.names)
    {change : Change} (hchange : f.change = .ok change) :
    Says table.names line ⟨f.name, change⟩ := by
  unfold form at hform
  cases hsegments : segments line with
  | error cause =>
    rw [hsegments] at hform
    cases hform
  | ok pieces =>
    have hsides := segments_eq_ok_iff.mp hsegments
    rw [hsegments] at hform
    match pieces with
    | [] => cases hform
    | [whole] =>
      rcases equalityOrFree_eq_ok_iff.mp hform with
        ⟨left, value, rest, hline, rfl⟩ | ⟨hline, x, word, hwords, hfree, rfl⟩
      · obtain ⟨v, hv, rfl⟩ := map_eq_ok_iff.mp hchange
        exact .fixed hsides hline hname hv
      · cases hchange
        exact .free hsides hline hwords hfree hname
    | [first, second] =>
      dsimp only at hform
      split at hform
      · next hfirst =>
        split at hform
        · cases hform
        · next hsecond =>
          cases hform
          obtain ⟨v, hv, rfl⟩ := map_eq_ok_iff.mp hchange
          exact .upper hsides hname
            (fun hmem => hsecond ((Table.has_iff table second).mpr hmem)) hv
      · next hfirst =>
        cases hform
        obtain ⟨v, hv, rfl⟩ := map_eq_ok_iff.mp hchange
        exact .lower hsides hname
          (fun hmem => hfirst ((Table.has_iff table first).mpr hmem)) hv
    | [low, x, high] =>
      cases hform
      obtain ⟨l, u, hl, hu, rfl⟩ := change_between_eq_ok_iff.mp hchange
      exact .between hsides hname hl hu
    | _ :: _ :: _ :: _ :: _ => cases hform

/-- What a line says, its form does. -/
theorem exists_form_of_says (h : Says table.names line b) :
    ∃ f, form table line = .ok f ∧ f.name ∈ table.names ∧
      ∃ change, f.change = .ok change ∧ b = ⟨f.name, change⟩ := by
  unfold form
  cases h with
  | @upper x value v h hx hvalue hv =>
    refine ⟨.above x value, ?_, hx, .upper v, map_eq_ok_iff.mpr ⟨v, hv, rfl⟩, rfl⟩
    rw [segments_eq_ok_iff.mpr h]
    dsimp only
    rw [if_pos ((Table.has_iff table x).mpr hx), not_has hvalue, if_neg Bool.false_ne_true]
  | @lower x value v h hx hvalue hv =>
    refine ⟨.below value x, ?_, hx, .lower v, map_eq_ok_iff.mpr ⟨v, hv, rfl⟩, rfl⟩
    rw [segments_eq_ok_iff.mpr h]
    dsimp only
    rw [not_has hvalue, if_neg Bool.false_ne_true]
  | @between low x high l u h hx hl hu =>
    refine ⟨.between low x high, ?_, hx, .both l u,
      change_between_eq_ok_iff.mpr ⟨l, u, hl, hu, rfl⟩, rfl⟩
    rw [segments_eq_ok_iff.mpr h]
  | @fixed whole left value rest v h hline hx hv =>
    refine ⟨.fixed left.trim value, ?_, hx, .both v v, map_eq_ok_iff.mpr ⟨v, hv, rfl⟩, rfl⟩
    rw [segments_eq_ok_iff.mpr h]
    exact equalityOrFree_eq_ok_iff.mpr (Or.inl ⟨left, value, rest, hline, rfl⟩)
  | @free whole x word h hline hwords hfree hx =>
    refine ⟨.free x, ?_, hx, _, rfl, rfl⟩
    rw [segments_eq_ok_iff.mpr h]
    exact equalityOrFree_eq_ok_iff.mpr (Or.inr ⟨hline, x, word, hwords, hfree, rfl⟩)

/-- **A line is read as a bound exactly if it has one of the shapes.** -/
theorem read_eq_ok_iff : read table line = .ok b ↔ Says table.names line b := by
  unfold read
  constructor
  · intro h
    cases hform : form table line with
    | error cause =>
      rw [hform] at h
      cases h
    | ok f =>
      rw [hform] at h
      obtain ⟨hname, change, hchange, rfl⟩ := ofForm_eq_ok_iff.mp h
      exact says_of_form hform hname hchange
  · intro h
    obtain ⟨f, hform, hname, change, hchange, rfl⟩ := exists_form_of_says h
    rw [hform]
    exact ofForm_eq_ok_iff.mpr ⟨hname, change, hchange, rfl⟩

end

end LinearProgram.Bound

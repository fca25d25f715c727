/-
  Mirror — bounds that are written from right to left.

  1. **Rows** — a row is a line that joins sides with an order relation, blanks around it, and holds
     no order relation besides. The sides may hold anything else: nothing at all, single relational
     characters, names that nobody has registered. A row with `>=` comes apart into the same pieces
     as the row with `<=` of the sides in the opposite order.

  2. **Pieces** — of a line in two pieces or more nothing but the pieces matters. The line itself is
     only shown in messages, so two lines in the same pieces are read as the same bound, or are
     refused for causes of the same kind (`mapError_read_congr`).

  3. **Lines** — a row and its mirror have the same effect on the columns, and a line that mixes the
     two relations is refused (`Declarations.bound_mirrored`).
-/

import LinearProgram.Proofs.Written.Declaration

namespace LinearProgram

open Cursor (Verdict)

namespace Bound

/-! ## Rows -/

/-- The line joins the sides with the relation that begins with `d`, blanks around it. This relation
    occurs only between the sides, and the one that begins with `other` does not occur. -/
structure Row (d other : Char) (sides : List Text) (line : Text) : Prop where
  line_eq : line = Written.sides d sides
  own : Text.countPair d '=' line + 1 = sides.length
  other : Text.countPair other '=' line = 0

section

variable {d other : Char} {sides : List Text} {line : Text}

/-- No relation is left over for the sides. -/
theorem Row.countPair_eq_zero (h : Row d other sides line) (hd : d ≠ ' ' ∧ d ≠ '=')
    (hother : other ≠ ' ' ∧ other ≠ '=') {side : Text} (hside : side ∈ sides) :
    Text.countPair d '=' side = 0 ∧ Text.countPair other '=' side = 0 := by
  obtain ⟨rfl, hown, hnone⟩ := h
  rw [Written.countPair_sides hd.1 hd.2, if_pos rfl] at hown
  rw [Written.countPair_sides hother.1 hother.2] at hnone
  have hzero : ∀ e : Char, (sides.map (Text.countPair e '=')).sum = 0 →
      Text.countPair e '=' side = 0 := by
    intro e hsum
    exact List.sum_eq_zero_iff_forall_eq_nat.mp hsum _ (List.mem_map_of_mem hside)
  exact ⟨hzero d (by omega), hzero other (by omega)⟩

/-- From left to right. -/
theorem Row.segments_less (h : Row '<' '>' sides line) (hne : sides ≠ []) :
    segments line = .ok (sides.map Text.trim) := by
  rw [h.line_eq]
  refine Written.segments_less hne fun side hside => ?_
  obtain ⟨hless, hgreater⟩ := h.countPair_eq_zero (by decide) (by decide) hside
  exact ⟨Text.hasPair_eq_false_iff.mpr hless, Text.hasPair_eq_false_iff.mpr hgreater⟩

/-- From right to left. -/
theorem Row.segments_greater (h : Row '>' '<' sides line) (hlength : 2 ≤ sides.length) :
    segments line = .ok (sides.reverse.map Text.trim) := by
  have hsides : ∀ side ∈ sides, Written.Orderless side := by
    intro side hside
    obtain ⟨hgreater, hless⟩ := h.countPair_eq_zero (by decide) (by decide) hside
    exact ⟨Text.hasPair_eq_false_iff.mpr hless, Text.hasPair_eq_false_iff.mpr hgreater⟩
  rw [h.line_eq]
  match sides, hlength with
  | _ :: _ :: _, _ => exact Written.segments_greater hsides

end

/-! ## Pieces -/

section

variable {line line' : Text} {pieces : List Text}

/-- The pieces decide on the form. Only a line in one piece is looked at once more. -/
theorem mapError_form_congr (table : Table) (h : segments line = .ok pieces)
    (h' : segments line' = .ok pieces) (hlength : 2 ≤ pieces.length) :
    (form table line).mapError Cause.kind = (form table line').mapError Cause.kind := by
  unfold form
  rw [h, h']
  match pieces, hlength with
  | [first, second], _ =>
    dsimp only
    split
    · split
      · rfl
      · rfl
    · rfl
  | [_, _, _], _ => rfl
  | _ :: _ :: _ :: _ :: _, _ => rfl

/-- **Lines in the same pieces are read alike.** -/
theorem mapError_read_congr (table : Table) (h : segments line = .ok pieces)
    (h' : segments line' = .ok pieces) (hlength : 2 ≤ pieces.length) :
    (read table line).mapError Cause.kind = (read table line').mapError Cause.kind := by
  have hform := mapError_form_congr table h h' hlength
  unfold read
  revert hform
  cases form table line with
  | error cause =>
    cases form table line' with
    | error cause' => exact fun hform => congrArg Except.error (Except.error.inj hform)
    | ok f' => exact fun hform => nomatch hform
  | ok f =>
    cases form table line' with
    | error cause' => exact fun hform => nomatch hform
    | ok f' =>
      intro hform
      cases Except.ok.inj hform
      rfl

end

/-- A line with both relations is refused. -/
theorem read_of_mixed (table : Table) {line : Text} (hless : ['<', '='] <:+: line)
    (hgreater : ['>', '='] <:+: line) : read table line = .error (.mixedBound line) := by
  unfold read form segments
  rw [Text.hasPair_eq_true_iff.mpr hgreater, Text.hasPair_eq_true_iff.mpr hless]
  rfl

end Bound

/-! ## Lines -/

namespace Declarations

/-- Two lines of one number have the same effect on a draft: the same table, or a refusal of the
    same kind for both. -/
inductive SameEffect (number : Nat) (d : Draft) : Verdict Draft Unit → Verdict Draft Unit → Prop where
  | changed (table : Table) : SameEffect number d (.more { d with table }) (.more { d with table })
  | refused {cause cause' : Cause} (h : cause.kind = cause'.kind) :
      SameEffect number d (.failed d { cause, line := number })
        (.failed d { cause := cause', line := number })

/-- What is read alike has the same effect. -/
theorem sameEffect_of_read (number : Nat) {d : Draft} {line line' : Text}
    (h : (Bound.read d.table line).mapError Cause.kind =
      (Bound.read d.table line').mapError Cause.kind) :
    SameEffect number d (bound number line d).verdict (bound number line' d).verdict := by
  unfold bound
  revert h
  cases Bound.read d.table line with
  | error cause =>
    cases Bound.read d.table line' with
    | error cause' => exact fun h => .refused (Except.error.inj h)
    | ok b' => exact fun h => nomatch h
  | ok b =>
    cases Bound.read d.table line' with
    | error cause' => exact fun h => nomatch h
    | ok b' =>
      intro h
      cases Except.ok.inj h
      exact .changed (b.apply d.table)

/-- **A bound may be written from right to left.** A row with `>=` and the row with `<=` of the same
    sides in the opposite order have the same effect. A line with both relations has none: it is
    refused. -/
theorem bound_mirrored (number : Nat) (d : Draft) :
    (∀ (sides : List Text) (down up : Text), 2 ≤ sides.length → Bound.Row '>' '<' sides down →
      Bound.Row '<' '>' sides.reverse up →
        SameEffect number d (bound number down d).verdict (bound number up d).verdict) ∧
      ∀ line : Text, ['<', '='] <:+: line → ['>', '='] <:+: line →
        ∃ cause, cause.kind = .malformedBound ∧
          (bound number line d).verdict = .failed d { cause, line := number } := by
  constructor
  · intro sides down up hlength hdown hup
    have hreverse : 2 ≤ (sides.reverse.map Text.trim).length := by
      rw [List.length_map, List.length_reverse]
      exact hlength
    have hne : sides.reverse ≠ [] := by
      intro hnil
      rw [hnil] at hreverse
      exact absurd hreverse (by decide)
    exact sameEffect_of_read number
      (Bound.mapError_read_congr d.table (hdown.segments_greater hlength) (hup.segments_less hne)
        hreverse)
  · intro line hless hgreater
    refine ⟨.mixedBound line, rfl, ?_⟩
    unfold bound
    rw [Bound.read_of_mixed d.table hless hgreater]

/-- Two bounds of one variable, in either order, and a line with both relations. -/
theorem bound_mirrored_between :
    let d : Draft := { table := [{ name := "x".toList }] }
    (SameEffect 7 d (bound 7 "10 >= x >= 2".toList d).verdict
      (bound 7 "2 <= x <= 10".toList d).verdict) ∧
      ∃ cause, cause.kind = .malformedBound ∧
        (bound 7 "10 >= x <= 2".toList d).verdict = .failed d { cause, line := 7 } :=
  ⟨(bound_mirrored 7 _).1 ["10".toList, "x".toList, "2".toList] _ _ (by decide)
      ⟨by decide, by decide, by decide⟩ ⟨by decide, by decide, by decide⟩,
    (bound_mirrored 7 _).2 _ (by decide) (by decide)⟩

end Declarations

end LinearProgram

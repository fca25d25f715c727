/-
  ConstraintLine — which lines state a comparison, and which one.

  1. **Parts** — the first operator of a line is its first relational character, with the next one
     if that is relational too. If it is one of the seven, the line comes apart at all its
     occurrences (`Parts`). Parts of blanks do not count.

  2. **Spellings** — what is left must be a value, or an expression and a value. So an operator may
     be repeated, and may stand in front of the expression and behind the value as well; which of
     its occurrences stands where makes no difference (`Spells`).

  3. **Reading** — a line is read as what it spells and refused if it spells nothing. If it holds
     one operator only, and does not end in it, that is the usual spelling: an expression, the
     operator and a value, or the operator and a value (`read_eq_ok_iff_spells`).
-/

import LinearProgram.ConstraintLine
import LinearProgram.Proofs.Written.Constraint

namespace LinearProgram

open Written (Operator Plain plain_iff plain_of_blankOnly plain_of_quantity
  not_blankOnly_of_quantity)

/-! ## The first operator -/

namespace Relation

theorem firstOperator?_of_plain {t : Text} (h : Plain t) (rest : Text) :
    firstOperator? (t ++ rest) = firstOperator? rest := by
  unfold firstOperator?
  rw [List.dropWhile_append_of_pos fun c hc => by rw [h c hc]; rfl]

/-- A text with relational characters begins without them up to the first one. -/
theorem exists_isRelational {t : Text} (h : ¬ Plain t) :
    ∃ front c back, t = front ++ c :: back ∧ Plain front ∧ isRelational c = true := by
  induction t with
  | nil => exact absurd (fun c hc => absurd hc List.not_mem_nil) h
  | cons c t ih =>
    by_cases hc : isRelational c = true
    · exact ⟨[], c, t, rfl, fun d hd => absurd hd List.not_mem_nil, hc⟩
    · have ht : ¬ Plain t := fun ht =>
        h (List.forall_mem_cons.mpr ⟨Bool.not_eq_true _ ▸ hc, ht⟩)
      obtain ⟨front, d, back, rfl, hfront, hd⟩ := ih ht
      exact ⟨c :: front, d, back, rfl,
        List.forall_mem_cons.mpr ⟨Bool.not_eq_true _ ▸ hc, hfront⟩, hd⟩

theorem firstOperator?_cons {c : Char} (h : isRelational c = true) (t : Text) :
    firstOperator? (c :: t) = some [c] ∨
      ∃ d t', t = d :: t' ∧ firstOperator? (c :: t) = some [c, d] := by
  unfold firstOperator?
  rw [List.dropWhile_cons_of_neg (by simp [h])]
  cases t with
  | nil => exact Or.inl rfl
  | cons d t =>
    dsimp only
    split
    · exact Or.inr ⟨d, t, rfl, rfl⟩
    · exact Or.inl rfl

end Relation

namespace ConstraintLine

/-! ## Parts -/

/-- The parts of a line around its first operator. -/
structure Parts (op : Operator) (parts : List Text) (line : Text) : Prop where
  first : Relation.firstOperator? line = some op.text
  join : Text.join op.text parts = line
  apart : ∀ part ∈ parts, ¬ op.text <:+: part

/-- Parts without content. -/
def Void (parts : List Text) : Prop := ∀ part ∈ parts, part.isBlankOnly = true

/-- Behind the first part, the line is at its end or an operator follows. -/
theorem Parts.exists_tail {op : Operator} {first : Text} {rest : List Text} {line : Text}
    (h : Parts op (first :: rest) line) :
    ∃ tail, line = first ++ tail ∧ (tail = [] ∨ ∃ behind, tail = op.text ++ behind) := by
  rw [← h.join]
  cases rest with
  | nil => exact ⟨[], by simp [Text.join], Or.inl rfl⟩
  | cons second rest =>
    refine ⟨op.text ++ Text.join op.text (second :: rest), ?_, Or.inr ⟨_, rfl⟩⟩
    rw [Text.join_cons_of_ne_nil _ _ (List.cons_ne_nil _ _), List.append_assoc]

/-- **In front of the first operator** there is no relational character at all. -/
theorem Parts.plain_head {op : Operator} {first : Text} {rest : List Text} {line : Text}
    (h : Parts op (first :: rest) line) : Plain first := by
  by_contra hplain
  obtain ⟨front, c, back, rfl, hfront, hc⟩ := Relation.exists_isRelational hplain
  have hapart := h.apart _ List.mem_cons_self
  obtain ⟨tail, hline, htail⟩ := h.exists_tail
  rw [List.append_assoc, List.cons_append] at hline
  have hfirst := h.first
  rw [hline, Relation.firstOperator?_of_plain hfront] at hfirst
  rcases Relation.firstOperator?_cons hc (back ++ tail) with hone | ⟨d, t', ht', htwo⟩
  · -- the operator is `c` alone, and stands in the part
    rw [hone] at hfirst
    rw [← Option.some.inj hfirst] at hapart
    exact hapart ⟨front, back, by simp⟩
  · rw [htwo] at hfirst
    have hop : op.text = [c, d] := (Option.some.inj hfirst).symm
    cases back with
    | cons b back =>
      -- the operator is `c` and the character behind it, and stands in the part
      cases ht'
      exact hapart ⟨front, back, by simp [hop]⟩
    | nil =>
      -- the character behind `c` begins the operator, so `c` would be said twice
      rcases htail with rfl | ⟨behind, rfl⟩
      · cases ht'
      · rw [hop] at ht'
        cases ht'
        exact op.ne_of_text hop rfl

/-- The parts around an operator are those that the line comes apart into. -/
theorem parts_iff {op : Operator} {parts : List Text} {line : Text} (hne : parts ≠ []) :
    Parts op parts line ↔ Relation.firstOperator? line = some op.text ∧
      Relation.piecesAround op.text line = parts := by
  rw [op.piecesAround_eq_iff]
  constructor
  · exact fun h => ⟨h.first, hne, h.join, h.apart⟩
  · rintro ⟨hfirst, -, hjoin, hapart⟩
    exact ⟨hfirst, hjoin, hapart⟩

theorem Parts.not_plain {op : Operator} {parts : List Text} {line : Text}
    (h : Parts op parts line) : ¬ Plain line := by
  intro hplain
  have hfirst := h.first
  rw [(Relation.firstOperator?_eq_none_iff line).mpr (plain_iff.mp hplain)] at hfirst
  cases hfirst

/-- One operator between two texts without relational characters. -/
theorem parts_pair (op : Operator) {front back : Text} (hfront : Plain front) (hback : Plain back) :
    Parts op [front, back] (front ++ (op.text ++ back)) :=
  (parts_iff (List.cons_ne_nil _ _)).mpr
    ⟨op.firstOperator? hfront hback, op.piecesAround hfront hback⟩

/-! ### Parts with content -/

/-- The parts with content, without the blanks around them. -/
def contents (parts : List Text) : List Text := (parts.map Text.trim).filter (! ·.isEmpty)

theorem contents_eq (parts : List Text) :
    contents parts = (parts.filter (! ·.isBlankOnly)).map Text.trim := by
  have hcontent : ∀ part : Text, part.trim.isEmpty = part.isBlankOnly := by
    intro part
    rw [Bool.eq_iff_iff, List.isEmpty_iff, Text.trim_eq_nil_iff]
  unfold contents
  rw [List.filter_map]
  exact congrArg _ (List.filter_congr fun part _ => congrArg not (hcontent part))

theorem contents_eq_nil_iff {parts : List Text} : contents parts = [] ↔ Void parts := by
  rw [contents_eq, List.map_eq_nil_iff, List.filter_eq_nil_iff]
  simp [Void]

theorem contents_eq_cons_iff {parts : List Text} {content : Text} {more : List Text} :
    contents parts = content :: more ↔
      ∃ before part behind, parts = before ++ part :: behind ∧ Void before ∧
        part.isBlankOnly = false ∧ part.trim = content ∧ contents behind = more := by
  rw [contents_eq, List.map_eq_cons_iff]
  constructor
  · rintro ⟨part, rest, hfilter, rfl, rfl⟩
    obtain ⟨before, behind, rfl, hbefore, hpart, rfl⟩ := List.filter_eq_cons_iff.mp hfilter
    refine ⟨before, part, behind, rfl, ?_, by simpa using hpart, rfl, contents_eq behind⟩
    intro gap hgap
    simpa using hbefore gap hgap
  · rintro ⟨before, part, behind, rfl, hbefore, hpart, rfl, rfl⟩
    refine ⟨part, behind.filter (! ·.isBlankOnly), ?_, rfl, (contents_eq behind).symm⟩
    refine List.filter_eq_cons_iff.mpr ⟨before, behind, rfl, ?_, by simp [hpart], rfl⟩
    intro gap hgap
    simp [hbefore gap hgap]

/-! ## Spellings -/

/-- What a line spells. Parts that are `Void` may stand around the expression and the value. -/
inductive Spells (line : Text) : ConstraintLine → Prop where
  /-- No relational character at all. -/
  | expression (hplain : Plain line) : Spells line (.expression line.trim)
  /-- A value, with an operator in front of it or behind it. -/
  | comparison {op : Operator} {before behind : List Text} {value : Text} {rhs : Float}
      (hparts : Parts op (before ++ value :: behind) line) (hbefore : Void before)
      (hbehind : Void behind) (hvalue : Quantity.read value = .ok rhs) (hplain : Plain value) :
      Spells line (.comparison op.relation rhs)
  /-- An expression and a value, with an operator in between. -/
  | both {op : Operator} {before between behind : List Text} {lhs value : Text} {rhs : Float}
      (hparts : Parts op (before ++ lhs :: (between ++ value :: behind)) line)
      (hbefore : Void before) (hbetween : Void between) (hbehind : Void behind)
      (hlhs : lhs.isBlankOnly = false) (hleft : before = [] → Plain lhs)
      (hvalue : Quantity.read value = .ok rhs) (hplain : Plain value) :
      Spells line (.both lhs.trim op.relation rhs)

/-- What a line spells with one operator, and a value behind it. -/
inductive SpellsOnce (line : Text) : ConstraintLine → Prop where
  | comparison {op : Operator} {gap value : Text} {rhs : Float}
      (hline : line = gap ++ (op.text ++ value)) (hgap : gap.isBlankOnly = true)
      (hvalue : Quantity.read value = .ok rhs) (hplain : Plain value) :
      SpellsOnce line (.comparison op.relation rhs)
  | both {op : Operator} {lhs value : Text} {rhs : Float}
      (hline : line = lhs ++ (op.text ++ value)) (hlhs : lhs.isBlankOnly = false)
      (hleft : Plain lhs) (hvalue : Quantity.read value = .ok rhs) (hplain : Plain value) :
      SpellsOnce line (.both lhs.trim op.relation rhs)

theorem void_nil : Void [] := fun _ h => absurd h List.not_mem_nil

theorem void_singleton {gap : Text} (h : gap.isBlankOnly = true) : Void [gap] :=
  List.forall_mem_singleton.mpr h

theorem SpellsOnce.spells {line : Text} {said : ConstraintLine} (h : SpellsOnce line said) :
    Spells line said := by
  cases h with
  | @comparison op gap value rhs hline hgap hvalue hplain =>
    have hparts : Parts op ([gap] ++ value :: []) line :=
      hline ▸ parts_pair op (plain_of_blankOnly hgap) hplain
    exact .comparison hparts (void_singleton hgap) void_nil hvalue hplain
  | @both op lhs value rhs hline hlhs hleft hvalue hplain =>
    have hparts : Parts op ([] ++ lhs :: ([] ++ value :: [])) line :=
      hline ▸ parts_pair op hleft hplain
    exact .both hparts void_nil void_nil void_nil hlhs (fun _ => hleft) hvalue hplain

/-- A line that is spelled with one operator has two parts, and the second is not blank. -/
theorem SpellsOnce.exists_parts {line : Text} {said : ConstraintLine} (h : SpellsOnce line said) :
    ∃ operator front value, Relation.firstOperator? line = some operator ∧
      Relation.piecesAround operator line = [front, value] ∧ value.isBlankOnly = false := by
  cases h with
  | @comparison op gap value rhs hline hgap hvalue hplain =>
    obtain ⟨hfirst, hpieces⟩ :=
      (parts_iff (by simp)).mp (parts_pair op (plain_of_blankOnly hgap) hplain)
    exact ⟨op.text, gap, value, hline ▸ hfirst, hline ▸ hpieces, not_blankOnly_of_quantity hvalue⟩
  | @both op lhs value rhs hline hlhs hleft hvalue hplain =>
    obtain ⟨hfirst, hpieces⟩ := (parts_iff (by simp)).mp (parts_pair op hleft hplain)
    exact ⟨op.text, lhs, value, hline ▸ hfirst, hline ▸ hpieces, not_blankOnly_of_quantity hvalue⟩

/-! ## Reading -/

section

variable {line : Text} {said : ConstraintLine}

theorem ofPieces_eq_ok_iff {relation : Relation} {ps : List Text} :
    ofPieces line relation ps = .ok said ↔
      (∃ value rhs, ps = [value] ∧ Quantity.read value = .ok rhs ∧
        said = .comparison relation rhs) ∨
      ∃ lhs value rhs, ps = [lhs, value] ∧ Quantity.read value = .ok rhs ∧
        said = .both lhs relation rhs := by
  unfold ofPieces
  constructor
  · intro h
    split at h
    · next value =>
      split at h
      · next rhs hvalue =>
        cases h
        exact Or.inl ⟨value, rhs, rfl, hvalue, rfl⟩
      · cases h
    · next lhs value =>
      split at h
      · next rhs hvalue =>
        cases h
        exact Or.inr ⟨lhs, value, rhs, rfl, hvalue, rfl⟩
      · cases h
    · cases h
  · rintro (⟨value, rhs, rfl, hvalue, rfl⟩ | ⟨lhs, value, rhs, rfl, hvalue, rfl⟩)
    · dsimp only
      rw [hvalue]
    · dsimp only
      rw [hvalue]

/-- A line with one of the seven operators first is read from its parts. -/
theorem read_of_first {op : Operator} (h : Relation.firstOperator? line = some op.text) :
    read line = ofPieces line op.relation (contents (Relation.piecesAround op.text line)) := by
  unfold read
  rw [h]
  dsimp only
  rw [op.known]
  rfl

/-- What is read has one of the seven operators first, or no operator at all. -/
theorem exists_operator (h : read line = .ok said) (hplain : ¬ Plain line) :
    ∃ op : Operator, Relation.firstOperator? line = some op.text := by
  unfold read at h
  split at h
  · next hnone =>
    exact absurd (plain_iff.mpr ((Relation.firstOperator?_eq_none_iff line).mp hnone)) hplain
  · next operator hfirst =>
    split at h
    · cases h
    · next relation hknown => exact ⟨⟨operator, relation, hknown⟩, hfirst⟩

/-- What a line with an operator is read as, it spells. -/
theorem spells_of_read {op : Operator} (hfirst : Relation.firstOperator? line = some op.text)
    (h : read line = .ok said) : Spells line said := by
  have hparts : ∀ {parts : List Text}, parts ≠ [] → Relation.piecesAround op.text line = parts →
      Parts op parts line := fun hne heq => (parts_iff hne).mpr ⟨hfirst, heq⟩
  rw [read_of_first hfirst] at h
  rcases ofPieces_eq_ok_iff.mp h with
    ⟨content, rhs, hcontents, hvalue, rfl⟩ | ⟨left, content, rhs, hcontents, hvalue, rfl⟩
  · obtain ⟨before, value, behind, heq, hbefore, -, rfl, hnil⟩ := contents_eq_cons_iff.mp hcontents
    rw [Quantity.read_trim] at hvalue
    exact .comparison (hparts (by simp) heq) hbefore (contents_eq_nil_iff.mp hnil) hvalue
      (plain_of_quantity hvalue)
  · obtain ⟨before, lhs, rest, heq, hbefore, hlhs, rfl, hrest⟩ := contents_eq_cons_iff.mp hcontents
    obtain ⟨between, value, behind, rfl, hbetween, -, rfl, hnil⟩ := contents_eq_cons_iff.mp hrest
    have hall := hparts (by simp) heq
    rw [Quantity.read_trim] at hvalue
    refine .both hall hbefore hbetween (contents_eq_nil_iff.mp hnil) hlhs ?_ hvalue
      (plain_of_quantity hvalue)
    rintro rfl
    exact hall.plain_head

/-- What a line spells, it is read as. -/
theorem Spells.read (h : Spells line said) : read line = .ok said := by
  cases h with
  | expression hplain =>
    have hfirst := (Relation.firstOperator?_eq_none_iff line).mpr (plain_iff.mp hplain)
    unfold ConstraintLine.read
    rw [hfirst]
  | @comparison op before behind value rhs hparts hbefore hbehind hvalue hplain =>
    obtain ⟨hfirst, heq⟩ := (parts_iff (by simp)).mp hparts
    rw [read_of_first hfirst, heq]
    refine ofPieces_eq_ok_iff.mpr
      (Or.inl ⟨value.trim, rhs, ?_, by rw [Quantity.read_trim, hvalue], rfl⟩)
    exact contents_eq_cons_iff.mpr ⟨before, value, behind, rfl, hbefore,
      not_blankOnly_of_quantity hvalue, rfl, contents_eq_nil_iff.mpr hbehind⟩
  | @both op before between behind lhs value rhs hparts hbefore hbetween hbehind hlhs hleft hvalue
      hplain =>
    obtain ⟨hfirst, heq⟩ := (parts_iff (by simp)).mp hparts
    rw [read_of_first hfirst, heq]
    refine ofPieces_eq_ok_iff.mpr
      (Or.inr ⟨lhs.trim, value.trim, rhs, ?_, by rw [Quantity.read_trim, hvalue], rfl⟩)
    refine contents_eq_cons_iff.mpr ⟨before, lhs, _, rfl, hbefore, hlhs, rfl, ?_⟩
    exact contents_eq_cons_iff.mpr ⟨between, value, behind, rfl, hbetween,
      not_blankOnly_of_quantity hvalue, rfl, contents_eq_nil_iff.mpr hbehind⟩

/-- **A line is read as what it spells.** -/
theorem read_eq_ok_iff : read line = .ok said ↔ Spells line said := by
  refine ⟨fun h => ?_, Spells.read⟩
  by_cases hplain : Plain line
  · have hread := (Spells.expression hplain).read
    rw [h] at hread
    cases hread
    exact .expression hplain
  · obtain ⟨op, hfirst⟩ := exists_operator h hplain
    exact spells_of_read hfirst h

/-- A line is refused for its operator, for the number of its parts, or for its value. -/
theorem kind_of_read_error {cause : Cause} (h : read line = .error cause) :
    cause.kind = .malformedConstraint ∨ cause.kind = .invalidNumber := by
  have hpieces : ∀ {relation : Relation} {ps : List Text},
      ofPieces line relation ps = .error cause →
      cause.kind = .malformedConstraint ∨ cause.kind = .invalidNumber := by
    intro relation ps h
    have hvalue : ∀ {value : Text}, Quantity.read value = .error cause →
        cause.kind = .malformedConstraint ∨ cause.kind = .invalidNumber := by
      intro value hvalue
      rw [Quantity.eq_invalidNumber_of_read hvalue]
      exact Or.inr rfl
    unfold ofPieces at h
    split at h
    · split at h
      · cases h
      · next hread =>
        cases h
        exact hvalue hread
    · split at h
      · cases h
      · next hread =>
        cases h
        exact hvalue hread
    · cases h
      exact Or.inl rfl
  unfold read at h
  split at h
  · cases h
  · split at h
    · cases h
      exact Or.inl rfl
    · exact hpieces h

/-- **A line with one operator**, and something behind it, spells what it spells with that one. -/
theorem spells_iff_spellsOnce {op : Operator} {front back : Text}
    (hline : line = front ++ (op.text ++ back)) (hfront : Plain front) (hback : Plain back)
    (hcontent : back.isBlankOnly = false) : Spells line said ↔ SpellsOnce line said := by
  refine ⟨fun h => ?_, SpellsOnce.spells⟩
  have hpair : Parts op [front, back] line := hline ▸ parts_pair op hfront hback
  obtain ⟨hfirst, hpieces⟩ := (parts_iff (by simp)).mp hpair
  -- the operator is the first one, so the parts are `front` and `back`
  have hsame : ∀ {op' : Operator} {parts : List Text}, parts ≠ [] → Parts op' parts line →
      op'.text = op.text ∧ parts = [front, back] := by
    intro op' parts hne hparts
    obtain ⟨hfirst', hpieces'⟩ := (parts_iff hne).mp hparts
    rw [hfirst] at hfirst'
    have htext := Option.some.inj hfirst'
    rw [← htext, hpieces] at hpieces'
    exact ⟨htext.symm, hpieces'.symm⟩
  cases h with
  | expression hplain => exact absurd hplain (hpair.not_plain)
  | @comparison op' before behind value rhs hparts hbefore hbehind hvalue hplain =>
    obtain ⟨htext, heq⟩ := hsame (by simp) hparts
    rw [← htext] at hline
    have hlength := congrArg List.length heq
    simp only [List.length_append, List.length_cons, List.length_nil] at hlength
    cases before with
    | nil =>
      -- nothing in front of the value, so what is behind the operator would be blank
      cases heq
      have hblank := hbehind back List.mem_cons_self
      rw [hcontent] at hblank
      cases hblank
    | cons gap before =>
      rw [List.length_cons] at hlength
      obtain rfl := List.eq_nil_of_length_eq_zero (show before.length = 0 by omega)
      cases heq
      exact .comparison hline (hbefore front List.mem_cons_self) hvalue hplain
  | @both op' before between behind lhs value rhs hparts hbefore hbetween hbehind hlhs hleft hvalue
      hplain =>
    obtain ⟨htext, heq⟩ := hsame (by simp) hparts
    rw [← htext] at hline
    have hlength := congrArg List.length heq
    simp only [List.length_append, List.length_cons, List.length_nil] at hlength
    obtain rfl := List.eq_nil_of_length_eq_zero (show before.length = 0 by omega)
    obtain rfl := List.eq_nil_of_length_eq_zero (show between.length = 0 by omega)
    cases heq
    exact .both hline hlhs hfront hvalue hplain

/-- **What a line is read as.** A line is read as what it spells: it has no relational character and
    is an expression, or it comes apart at the first operator, which is one of the seven, into a
    value, or an expression and a value, and parts that are void. Otherwise it is refused. If it
    holds one operator, and something behind it, there are no void parts: then it is an expression,
    or nothing, and the operator and a value. -/
theorem read_eq_ok_iff_spells (line : Text) :
    (∀ said, read line = .ok said ↔ Spells line said) ∧
      (∀ cause, read line = .error cause →
        cause.kind = .malformedConstraint ∨ cause.kind = .invalidNumber) ∧
      ∀ (op : Operator) (front back : Text), line = front ++ (op.text ++ back) → Plain front →
        Plain back → back.isBlankOnly = false →
        ∀ said, read line = .ok said ↔ SpellsOnce line said := by
  refine ⟨fun said => read_eq_ok_iff, fun cause => kind_of_read_error, ?_⟩
  intro op front back hline hfront hback hcontent said
  rw [read_eq_ok_iff]
  exact spells_iff_spellsOnce hline hfront hback hcontent

/-- An operator that is said twice is an operator, and so is one that stands behind its value; no
    line with one operator in front of a value is like that. -/
theorem not_spellsOnce_repeated :
    (read "x <= <= 5".toList = .ok (.both "x".toList .le 5.0) ∧
        ∀ said, ¬ SpellsOnce "x <= <= 5".toList said) ∧
      read "5 <=".toList = .ok (.comparison .le 5.0) ∧ ∀ said, ¬ SpellsOnce "5 <=".toList said := by
  refine ⟨⟨by decide +kernel, ?_⟩, by decide +kernel, ?_⟩
  · intro said h
    obtain ⟨operator, front, value, hfirst, hpieces, -⟩ := h.exists_parts
    have hoperator : Relation.firstOperator? "x <= <= 5".toList = some "<=".toList := by decide
    rw [hoperator] at hfirst
    rw [← Option.some.inj hfirst] at hpieces
    have hcount : (Relation.piecesAround "<=".toList "x <= <= 5".toList).length = 3 := by decide
    rw [hpieces] at hcount
    cases hcount
  · intro said h
    obtain ⟨operator, front, value, hfirst, hpieces, hvalue⟩ := h.exists_parts
    have hoperator : Relation.firstOperator? "5 <=".toList = some "<=".toList := by decide
    have hparts : Relation.piecesAround "<=".toList "5 <=".toList = ["5 ".toList, []] := by decide
    rw [hoperator] at hfirst
    rw [← Option.some.inj hfirst, hparts] at hpieces
    cases hpieces
    cases hvalue

end

end ConstraintLine

end LinearProgram

/-
  Declaration — bounds and lists of variables, each written on one line and read by one step.

  1. **Sides** — values and a variable with `<=` or `>=` in between come apart again, and the ones
     with `>=` come out in the opposite order.

  2. **Bounds** — a bound is one of five forms; those with an order relation may be written in
     either direction. Its step changes the column of its variable (`Bound.step_text`).

  3. **Lists** — the step of a line of variables gives all of them the kind of the section
     (`listed_step`).

  4. **Effects** — both change columns, one by one; what becomes of a table by many such changes is
     what becomes of each column by the changes that are about it (`applyAll_eq`).
-/

import LinearProgram.Document.Declarations
import LinearProgram.Proofs.Written.Constraint
import Mathlib.Algebra.GroupWithZero.Nat

namespace LinearProgram.Written

/-! ## Sides -/

/-- A blank in front of the first piece is trimmed off. -/
theorem extendFirst_map_trim {c : Char} (hc : Text.isBlank c = true) {ps : List Text}
    (h : ps ≠ []) : (Text.extendFirst c ps).map Text.trim = ps.map Text.trim := by
  cases ps with
  | nil => exact absurd rfl h
  | cons p ps =>
    show Text.trim (c :: p) :: ps.map Text.trim = _
    rw [Text.trim_cons_of_blank p hc]
    rfl

/-- Sides with an operator of two characters in between. -/
def sides (d : Char) (as : List Text) : Text := Text.join [' ', d, '=', ' '] as

theorem sides_cons_cons (d : Char) (a b : Text) (as : List Text) :
    sides d (a :: b :: as) = (a ++ [' ']) ++ d :: '=' :: (' ' :: sides d (b :: as)) := by
  show a ++ [' ', d, '=', ' '] ++ sides d (b :: as) = _
  simp

/-- An operator occurs in the sides, and between them if it is theirs. -/
theorem countPair_sides {e : Char} (hspace : e ≠ ' ') (heq : e ≠ '=') (d : Char)
    (as : List Text) :
    Text.countPair e '=' (sides d as) =
      (as.map (Text.countPair e '=')).sum + if d = e then as.length - 1 else 0 := by
  induction as with
  | nil => simp [sides, Text.join, Text.countPair]
  | cons a as ih =>
    cases as with
    | nil => simp [sides, Text.join]
    | cons b as =>
      have hbetween : Text.countPair e '=' (d :: '=' :: ' ' :: sides d (b :: as)) =
          (if d = e then 1 else 0) + Text.countPair e '=' (sides d (b :: as)) := by
        show (if d = e ∧ '=' = '=' then 1 else 0) + _ = _
        rw [Text.countPair_cons_of_ne _ heq.symm, Text.countPair_cons_of_ne _ hspace.symm]
        simp
      rw [sides_cons_cons, List.append_assoc, List.singleton_append,
        Text.countPair_append hspace.symm (by decide), hbetween, ih]
      simp only [List.map_cons, List.sum_cons, List.length_cons]
      split <;> omega

/-- Sides hold no operator but their own, if none of them does. -/
theorem hasPair_sides {d e : Char} (hspace : e ≠ ' ') (heq : e ≠ '=') (hde : d ≠ e)
    {as : List Text} (h : ∀ a ∈ as, Text.hasPair e '=' a = false) :
    Text.hasPair e '=' (sides d as) = false := by
  rw [Text.hasPair_eq_false_iff, countPair_sides hspace heq, if_neg hde, Nat.add_zero,
    List.sum_eq_zero_iff_forall_eq_nat]
  intro n hn
  obtain ⟨a, ha, rfl⟩ := List.mem_map.mp hn
  exact Text.hasPair_eq_false_iff.mp (h a ha)

/-- **Sides come apart at their operator**, if none of them holds it. -/
theorem map_trim_splitAtPair_sides {d : Char} (hspace : d ≠ ' ') (heq : d ≠ '=')
    {as : List Text} (hne : as ≠ []) (h : ∀ a ∈ as, Text.hasPair d '=' a = false) :
    (Text.splitAtPair d '=' (sides d as)).map Text.trim = as.map Text.trim := by
  induction as with
  | nil => exact absurd rfl hne
  | cons a as ih =>
    have ha := h a List.mem_cons_self
    cases as with
    | nil =>
      show (Text.splitAtPair d '=' a).map Text.trim = _
      rw [Text.splitAtPair_of_not_hasPair ha]
    | cons b as =>
      have hrest := ih (List.cons_ne_nil b as) fun c hc => h c (List.mem_cons_of_mem a hc)
      have hpadded : Text.hasPair d '=' (a ++ [' ']) = false := by
        rw [Text.hasPair_eq_false_iff] at ha ⊢
        rw [Text.countPair_append hspace.symm (by decide), ha]
        rfl
      rw [sides_cons_cons, Text.splitAtPair_append_of_not_hasPair heq _ hpadded, List.map_cons,
        Text.trim_append_of_blank _ (by decide), Text.splitAtPair_cons_of_ne _ hspace.symm,
        extendFirst_map_trim (by decide) (Text.splitAtPair_ne_nil _ _ _), hrest]
      rfl

/-- A side in which neither operator occurs. -/
def Orderless (a : Text) : Prop :=
  Text.hasPair '<' '=' a = false ∧ Text.hasPair '>' '=' a = false

/-- Sides with `<=` in between are the segments of the line. -/
theorem segments_less {as : List Text} (hne : as ≠ []) (h : ∀ a ∈ as, Orderless a) :
    Bound.segments (sides '<' as) = .ok (as.map Text.trim) := by
  have hgreater : Text.hasPair '>' '=' (sides '<' as) = false :=
    hasPair_sides (by decide) (by decide) (by decide) fun a ha => (h a ha).2
  unfold Bound.segments
  rw [hgreater, if_neg Bool.false_ne_true,
    map_trim_splitAtPair_sides (by decide) (by decide) hne fun a ha => (h a ha).1]

/-- Sides with `>=` in between are the segments of the line, in the opposite order. -/
theorem segments_greater {a b : Text} {as : List Text} (h : ∀ c ∈ a :: b :: as, Orderless c) :
    Bound.segments (sides '>' (a :: b :: as)) =
      .ok ((a :: b :: as).reverse.map Text.trim) := by
  have hpair : Text.hasPair '>' '=' (sides '>' (a :: b :: as)) = true := by
    rw [sides_cons_cons]
    exact Text.hasPair_append _ _
  have hless : Text.hasPair '<' '=' (sides '>' (a :: b :: as)) = false :=
    hasPair_sides (by decide) (by decide) (by decide) fun c hc => (h c hc).1
  unfold Bound.segments
  rw [hpair, if_pos rfl, hless, if_neg Bool.false_ne_true, List.map_reverse,
    map_trim_splitAtPair_sides (by decide) (by decide) (List.cons_ne_nil _ _)
      fun c hc => (h c hc).2, List.map_reverse]

theorem Plain.orderless {a : Text} (h : Plain a) : Orderless a :=
  ⟨Text.hasPair_of_not_mem (h.not_mem (by decide)),
    Text.hasPair_of_not_mem (h.not_mem (by decide))⟩

theorem map_trim_of_isTrimmed {as : List Text} (h : ∀ a ∈ as, a.IsTrimmed) :
    as.map Text.trim = as := by
  have hsame : as.map Text.trim = as.map id :=
    List.map_congr_left fun a ha => (h a ha).trim_eq
  rw [hsame, List.map_id]

/-- Sides that hold no relational character are told apart. -/
theorem segments_le {as : List Text} (hne : as ≠ []) (h : ∀ a ∈ as, Plain a ∧ a.IsTrimmed) :
    Bound.segments (sides '<' as) = .ok as := by
  rw [segments_less hne fun a ha => (h a ha).1.orderless,
    map_trim_of_isTrimmed fun a ha => (h a ha).2]

/-- With `>=` they are told apart likewise, and turned round. -/
theorem segments_ge {a b : Text} {as : List Text}
    (h : ∀ c ∈ a :: b :: as, Plain c ∧ c.IsTrimmed) :
    Bound.segments (sides '>' (a :: b :: as)) = .ok (a :: b :: as).reverse := by
  rw [segments_greater fun c hc => (h c hc).1.orderless,
    map_trim_of_isTrimmed fun c hc => (h c (List.mem_reverse.mp hc)).2]

/-! ## Bounds -/

/-- A bound of a variable. A bound with an order relation may be `mirrored`, that is, written from
    right to left with `>=`. -/
inductive Bound where
  | fixed (x : VariableName) (v : Value)
  | free (x : VariableName)
  | lower (x : VariableName) (v : Value) (mirrored : Bool)
  | upper (x : VariableName) (v : Value) (mirrored : Bool)
  | between (x : VariableName) (l u : Value) (mirrored : Bool)

namespace Bound

/-- The bounded variable. -/
def name : Bound → VariableName
  | fixed x _ => x
  | free x => x
  | lower x _ _ => x
  | upper x _ _ => x
  | between x _ _ _ => x

/-- What the bound says. -/
def change : Bound → LinearProgram.Bound.Change
  | fixed _ v => .both v.number v.number
  | free _ => .both (-Quantity.infinity) Quantity.infinity
  | lower _ v _ => .lower v.number
  | upper _ v _ => .upper v.number
  | between _ l u _ => .both l.number u.number

/-- The bound as it is written. -/
def text : Bound → Text
  | fixed x v => Text.join [' '] [x.text, ['='], v.text]
  | free x => Text.join [' '] [x.text, "free".toList]
  | lower x v false => sides '<' [v.text, x.text]
  | lower x v true => sides '>' [x.text, v.text]
  | upper x v false => sides '<' [x.text, v.text]
  | upper x v true => sides '>' [v.text, x.text]
  | between x l u false => sides '<' [l.text, x.text, u.text]
  | between x l u true => sides '>' [u.text, x.text, l.text]

end Bound

theorem GivenName.side (x : GivenName) : Plain x.text ∧ x.text.IsTrimmed :=
  ⟨x.plain, x.isWord.isTrimmed⟩

theorem Value.side (v : Value) : Plain v.text ∧ v.text.IsTrimmed := ⟨v.plain, v.isTrimmed⟩

section Members

variable {p : Text → Prop} {a b c : Text}

theorem forall_mem_two (ha : p a) (hb : p b) : ∀ t ∈ [a, b], p t :=
  List.forall_mem_cons.mpr ⟨ha, List.forall_mem_singleton.mpr hb⟩

theorem forall_mem_three (ha : p a) (hb : p b) (hc : p c) : ∀ t ∈ [a, b, c], p t :=
  List.forall_mem_cons.mpr ⟨ha, forall_mem_two hb hc⟩

end Members

/-! ### Forms -/

/-- The names of a table are names of variables. -/
def Nominal (table : Table) : Prop := ∀ name ∈ table.names, ∃ x : VariableName, name = x.text

/-- A value is not the name of a variable, where all variables have names. -/
theorem Nominal.not_has {table : Table} (h : Nominal table) (v : Value) :
    table.has v.text = false := by
  cases hv : table.has v.text with
  | false => rfl
  | true =>
    obtain ⟨x, hx⟩ := h _ ((Table.has_iff table _).mp hv)
    exact absurd hx (v.text_ne x)

/-- A line without an order relation has one side. -/
theorem segments_of_plain {line : Text} (h : ∀ c ∈ line, c ≠ '<' ∧ c ≠ '>') :
    LinearProgram.Bound.segments line = .ok [line.trim] := by
  unfold LinearProgram.Bound.segments
  rw [Text.hasPair_of_not_mem fun hc => (h _ hc).2 rfl, if_neg (by decide),
    Text.splitAtPair_of_not_mem fun hc => (h _ hc).1 rfl]
  rfl

theorem Plain.ne_angle {t : Text} (h : Plain t) : ∀ c ∈ t, c ≠ '<' ∧ c ≠ '>' := by
  intro c hc
  constructor
  · rintro rfl
    exact h.not_mem (by decide) hc
  · rintro rfl
    exact h.not_mem (by decide) hc

/-- A line with an equality is read as one; the value keeps the blank in front of it. -/
theorem form_fixed (table : Table) (x : VariableName) (v : Value) :
    LinearProgram.Bound.form table (Bound.fixed x v).text =
      .ok (.fixed x.text (' ' :: v.text)) := by
  have htext : (Bound.fixed x v).text = (x.text ++ [' ']) ++ '=' :: (' ' :: v.text) := by
    simp [Bound.text, Text.join]
  have hfront : '=' ∉ x.text ++ [' '] := (x.plain.append plain_space).not_mem (by decide)
  have hback : '=' ∉ ' ' :: v.text := (plain_space.append v.plain).not_mem (by decide)
  -- the line has an equals sign, and none of the characters that would make it an order relation
  have hangle : ∀ c ∈ (Bound.fixed x v).text, c ≠ '<' ∧ c ≠ '>' := by
    rw [htext]
    intro c hc
    rcases List.mem_append.mp hc with hc | hc
    · exact (x.plain.append plain_space).ne_angle c hc
    · rcases List.mem_cons.mp hc with rfl | hc
      · decide
      · exact (plain_space.append v.plain).ne_angle c hc
  unfold LinearProgram.Bound.form
  rw [segments_of_plain hangle]
  dsimp only
  unfold LinearProgram.Bound.equalityOrFree
  rw [htext, Text.splitAt_append _ hfront, Text.splitAt_of_not_mem hback]
  dsimp only
  rw [Text.trim_append_of_blank _ (by decide), x.isWord.isTrimmed.trim_eq]

/-- The word that frees a variable. -/
theorem isWord_free : Text.IsWord "free".toList :=
  ⟨by decide, List.all_iff_forall_prop.mp (by decide)⟩

theorem words_free (x : VariableName) :
    Text.words (Bound.free x).text = [x.text, "free".toList] := by
  apply Text.words_join
  intro w hw
  rcases List.mem_cons.mp hw with rfl | hw
  · exact x.isWord
  · rw [List.mem_singleton.mp hw]
    exact isWord_free

theorem plain_free (x : VariableName) : Plain (Bound.free x).text := by
  have htext : (Bound.free x).text = x.text ++ " free".toList := by
    simp [Bound.text, Text.join]
  have hfree : Plain " free".toList := List.all_iff_forall_prop.mp (by decide)
  rw [htext]
  exact x.plain.append hfree

/-- Two words of which the second is `free` are a free variable. -/
theorem form_free (table : Table) (x : VariableName) :
    LinearProgram.Bound.form table (Bound.free x).text = .ok (.free x.text) := by
  have hlower : Text.lower "free".toList = "free".toList := by decide
  unfold LinearProgram.Bound.form
  rw [segments_of_plain (plain_free x).ne_angle]
  dsimp only
  unfold LinearProgram.Bound.equalityOrFree
  rw [Text.splitAt_of_not_mem ((plain_free x).not_mem (by decide))]
  dsimp only
  rw [words_free]
  dsimp only
  rw [if_pos hlower]

/-- **A value in front of a variable bounds it from below**, in either direction of writing. -/
theorem form_lower {table : Table} (h : Nominal table) (x : VariableName) (v : Value)
    (mirrored : Bool) :
    LinearProgram.Bound.form table (Bound.lower x v mirrored).text = .ok (.below v.text x.text) := by
  have hsegments : LinearProgram.Bound.segments (Bound.lower x v mirrored).text =
      .ok [v.text, x.text] := by
    cases mirrored with
    | false => exact segments_le (List.cons_ne_nil _ _) (forall_mem_two v.side x.side)
    | true => exact segments_ge (forall_mem_two x.side v.side)
  unfold LinearProgram.Bound.form
  rw [hsegments]
  dsimp only
  rw [h.not_has v, if_neg (by decide)]

/-- **A value behind a variable bounds it from above**, if the variable is registered. -/
theorem form_upper {table : Table} (h : Nominal table) {x : VariableName}
    (hx : table.has x.text = true) (v : Value) (mirrored : Bool) :
    LinearProgram.Bound.form table (Bound.upper x v mirrored).text = .ok (.above x.text v.text) := by
  have hsegments : LinearProgram.Bound.segments (Bound.upper x v mirrored).text =
      .ok [x.text, v.text] := by
    cases mirrored with
    | false => exact segments_le (List.cons_ne_nil _ _) (forall_mem_two x.side v.side)
    | true => exact segments_ge (forall_mem_two v.side x.side)
  unfold LinearProgram.Bound.form
  rw [hsegments]
  dsimp only
  rw [hx, if_pos rfl, h.not_has v, if_neg (by decide)]

/-- Between two values stands the variable. -/
theorem form_between (table : Table) (x : VariableName) (l u : Value) (mirrored : Bool) :
    LinearProgram.Bound.form table (Bound.between x l u mirrored).text =
      .ok (.between l.text x.text u.text) := by
  have hsegments : LinearProgram.Bound.segments (Bound.between x l u mirrored).text =
      .ok [l.text, x.text, u.text] := by
    cases mirrored with
    | false => exact segments_le (List.cons_ne_nil _ _) (forall_mem_three l.side x.side u.side)
    | true => exact segments_ge (forall_mem_three u.side x.side l.side)
  unfold LinearProgram.Bound.form
  rw [hsegments]

/-- What a form says is read, where its variable is registered. -/
theorem read_of_form {table : Table} {line : Text} {form : LinearProgram.Bound.Form}
    {change : LinearProgram.Bound.Change} (hform : LinearProgram.Bound.form table line = .ok form)
    (hname : table.has form.name = true) (hchange : form.change = .ok change) :
    LinearProgram.Bound.read table line = .ok ⟨form.name, change⟩ := by
  unfold LinearProgram.Bound.read LinearProgram.Bound.ofForm
  rw [hform]
  dsimp only
  rw [if_pos hname, hchange]
  rfl

/-- **A bound is read as what it says**, if its variable is registered. -/
theorem Bound.read_text {table : Table} (h : Nominal table) {b : Bound}
    (hb : table.has b.name.text = true) :
    LinearProgram.Bound.read table b.text = .ok ⟨b.name.text, b.change⟩ := by
  -- the form of each bound is known; what is left are its values
  cases b with
  | fixed x v =>
    have hspace : Quantity.read (' ' :: v.text) = .ok v.number := by
      apply v.read_of_trim
      rw [Text.trim_cons_of_blank _ (by decide), v.isTrimmed.trim_eq]
    refine read_of_form (form_fixed table x v) hb ?_
    rw [LinearProgram.Bound.Form.change, hspace]
    rfl
  | free x => exact read_of_form (form_free table x) hb rfl
  | lower x v mirrored =>
    refine read_of_form (form_lower h x v mirrored) hb ?_
    rw [LinearProgram.Bound.Form.change, v.read]
    rfl
  | upper x v mirrored =>
    refine read_of_form (form_upper h hb v mirrored) hb ?_
    rw [LinearProgram.Bound.Form.change, v.read]
    rfl
  | between x l u mirrored =>
    refine read_of_form (form_between table x l u mirrored) hb ?_
    rw [LinearProgram.Bound.Form.change, l.read]
    dsimp only
    rw [u.read]
    rfl

/-! ### Lines -/

theorem GivenName.isLine (x : GivenName) : IsLine x.text :=
  ⟨x.isWord.isTrimmed, fun _ hc => unbroken_of_not_isStructural (x.not_isStructural hc)⟩

theorem Value.isLine (v : Value) : IsLine v.text :=
  ⟨v.isTrimmed, fun _ hc => unbroken_of_not_isStructural (v.not_isStructural hc)⟩

theorem join_ne_nil {separator t : Text} (ts : List Text) (h : t ≠ []) :
    Text.join separator (t :: ts) ≠ [] := by
  cases ts with
  | nil => exact h
  | cons u ts =>
    intro h0
    have hsplit : t ++ separator ++ Text.join separator (u :: ts) = [] := h0
    exact h (List.append_eq_nil_iff.mp (List.append_eq_nil_iff.mp hsplit).1).1

/-- Lines put together on one line. -/
theorem isLine_join {separator : Text} (hseparator : ∀ c ∈ separator, c ≠ '\\' ∧ c ≠ '\n')
    {ts : List Text} (h : ∀ t ∈ ts, IsLine t ∧ t ≠ []) : IsLine (Text.join separator ts) := by
  induction ts with
  | nil =>
    exact ⟨⟨fun c hc => (nomatch hc), fun c hc => (nomatch hc)⟩,
      fun c hc => absurd hc List.not_mem_nil⟩
  | cons t ts ih =>
    obtain ⟨ht, hne⟩ := h t List.mem_cons_self
    have hrest := ih fun u hu => h u (List.mem_cons_of_mem t hu)
    cases ts with
    | nil => exact ht
    | cons u ts =>
      have hu := h u (List.mem_cons_of_mem t List.mem_cons_self)
      have hune : Text.join separator (u :: ts) ≠ [] := join_ne_nil ts hu.2
      show IsLine (t ++ separator ++ Text.join separator (u :: ts))
      rw [List.append_assoc]
      refine ⟨isTrimmed_append separator ht.isTrimmed hrest.isTrimmed hne hune, ?_⟩
      intro c hc
      rcases List.mem_append.mp hc with hc | hc
      · exact ht.unbroken c hc
      · rcases List.mem_append.mp hc with hc | hc
        · exact hseparator c hc
        · exact hrest.unbroken c hc

theorem isLine_sides {d : Char} (hd : d ≠ '\\' ∧ d ≠ '\n') {as : List Text}
    (h : ∀ a ∈ as, IsLine a ∧ a ≠ []) : IsLine (sides d as) := by
  refine isLine_join ?_ h
  intro c hc
  simp only [List.mem_cons, List.not_mem_nil, or_false] at hc
  rcases hc with rfl | rfl | rfl | rfl
  · decide
  · exact hd
  · decide
  · decide

/-- **A bound is a line**: nothing is cut off it, and it is not broken. -/
theorem Bound.isLine (b : Bound) : IsLine b.text := by
  have hspace : ∀ c ∈ [' '], c ≠ '\\' ∧ c ≠ '\n' := List.all_iff_forall_prop.mp (by decide)
  have hname : ∀ x : VariableName, IsLine x.text ∧ x.text ≠ [] :=
    fun x => ⟨x.isLine, x.isWord.ne_nil⟩
  have hvalue : ∀ v : Value, IsLine v.text ∧ v.text ≠ [] := fun v => ⟨v.isLine, v.ne_nil⟩
  have hword : ∀ w : Text, w.IsWord → (∀ c ∈ w, c ≠ '\\' ∧ c ≠ '\n') → IsLine w ∧ w ≠ [] :=
    fun w hw hc => ⟨⟨hw.isTrimmed, hc⟩, hw.ne_nil⟩
  have hequals : IsLine ['='] ∧ ['='] ≠ [] :=
    hword _ ⟨by decide, List.all_iff_forall_prop.mp (by decide)⟩
      (List.all_iff_forall_prop.mp (by decide))
  have hfree : IsLine "free".toList ∧ "free".toList ≠ [] :=
    hword _ isWord_free (List.all_iff_forall_prop.mp (by decide))
  cases b with
  | fixed x v => exact isLine_join hspace (forall_mem_three (hname x) hequals (hvalue v))
  | free x => exact isLine_join hspace (forall_mem_two (hname x) hfree)
  | lower x v mirrored =>
    cases mirrored with
    | false => exact isLine_sides (by decide) (forall_mem_two (hvalue v) (hname x))
    | true => exact isLine_sides (by decide) (forall_mem_two (hname x) (hvalue v))
  | upper x v mirrored =>
    cases mirrored with
    | false => exact isLine_sides (by decide) (forall_mem_two (hname x) (hvalue v))
    | true => exact isLine_sides (by decide) (forall_mem_two (hvalue v) (hname x))
  | between x l u mirrored =>
    cases mirrored with
    | false => exact isLine_sides (by decide) (forall_mem_three (hvalue l) (hname x) (hvalue u))
    | true => exact isLine_sides (by decide) (forall_mem_three (hvalue u) (hname x) (hvalue l))

/-! ### Steps -/

/-- No keyword that begins a section has a space in it. -/
theorem not_section_of_space {line : Text} (h : ' ' ∈ Keyword.normal line) :
    Keyword.section? line = none := by
  have hspellings : ∀ s ∈ Keyword.sectionSpellings.map Prod.fst, ' ' ∉ s := by decide
  cases hs : Keyword.section? line with
  | none => rfl
  | some s => exact absurd h (hspellings _ (Keyword.mem_spellings_of_section? hs))

theorem not_section_of_equals {line : Text} (h : '=' ∈ line) : Keyword.section? line = none := by
  have hcaseless : Text.IsCaseless '=' := Text.isCaseless_of_ascii (by decide) (by decide)
  exact (Keyword.not_keyword_of_mem (Keyword.mem_normal hcaseless (by decide) h) (by decide)).2

/-- Words of a line that are no keyword: several of them, or one that is not reserved. -/
theorem not_section_join {ws : List Text} (hwords : ∀ w ∈ ws, w.IsWord)
    (hascii : ∀ w ∈ ws, ∀ c ∈ w, c.toNat < 0x80)
    (hsingle : ∀ w, ws = [w] → w.lower ∉ Keyword.sectionSpellings.map Prod.fst) :
    Keyword.section? (Text.join [' '] ws) = none := by
  have hnormal := Keyword.normal_join hwords hascii
  cases ws with
  | nil => decide
  | cons w ws =>
    cases ws with
    | nil =>
      cases hs : Keyword.section? (Text.join [' '] [w]) with
      | none => rfl
      | some s =>
        have hmem := Keyword.mem_spellings_of_section? hs
        rw [hnormal] at hmem
        exact absurd hmem (hsingle w rfl)
    | cons u ws =>
      apply not_section_of_space
      rw [hnormal]
      show ' ' ∈ w.lower ++ [' '] ++ Text.join [' '] ((u :: ws).map Text.lower)
      exact List.mem_append_left _ (List.mem_append_right _ List.mem_cons_self)

/-- **A bound is no keyword**, since it has a space in it, or an equality sign. -/
theorem Bound.not_section (b : Bound) : Keyword.section? b.text = none := by
  have hsides : ∀ (d : Char) (a b : Text) (as : List Text), '=' ∈ sides d (a :: b :: as) := by
    intro d a b as
    rw [sides_cons_cons]
    exact List.mem_append_right _ (List.mem_cons_of_mem _ List.mem_cons_self)
  -- all bounds but one have an equals sign; that one has two words
  cases b with
  | fixed x v =>
    apply not_section_of_equals
    show '=' ∈ x.text ++ [' '] ++ (['='] ++ [' '] ++ v.text)
    exact List.mem_append_right _ List.mem_cons_self
  | free x =>
    refine not_section_join (forall_mem_two x.isWord isWord_free)
      (forall_mem_two x.ascii (List.all_iff_forall_prop.mp (by decide))) ?_
    intro w hw
    cases hw
  | lower x v mirrored => cases mirrored <;> exact not_section_of_equals (hsides _ _ _ _)
  | upper x v mirrored => cases mirrored <;> exact not_section_of_equals (hsides _ _ _ _)
  | between x l u mirrored => cases mirrored <;> exact not_section_of_equals (hsides _ _ _ _)

/-- A bound is never blank: its first side is a name or a value. -/
theorem Bound.text_ne_nil (b : Bound) : b.text ≠ [] := by
  cases b with
  | fixed x v => exact join_ne_nil _ x.isWord.ne_nil
  | free x => exact join_ne_nil _ x.isWord.ne_nil
  | lower x v mirrored =>
    cases mirrored
    · exact join_ne_nil _ v.ne_nil
    · exact join_ne_nil _ x.isWord.ne_nil
  | upper x v mirrored =>
    cases mirrored
    · exact join_ne_nil _ x.isWord.ne_nil
    · exact join_ne_nil _ v.ne_nil
  | between x l u mirrored =>
    cases mirrored
    · exact join_ne_nil _ l.ne_nil
    · exact join_ne_nil _ u.ne_nil

/-- **The step of a bound's line changes the column of its variable**, and no other. -/
theorem Bound.step_text (b : Bound) (n : Nat) {d : Draft} (hstage : d.stage = .bounds)
    (h : Nominal d.table) (hb : d.table.has b.name.text = true) :
    (Declarations.step n b.text d).verdict =
      .more { d with table := d.table.update b.name.text b.change.apply } := by
  have hkind : Declarations.kind? d.stage = none := by rw [hstage]; rfl
  rw [Declarations.verdict_step b.text_ne_nil]
  unfold Declarations.line
  rw [b.not_section]
  dsimp only
  rw [hkind]
  dsimp only
  unfold Declarations.bound
  rw [b.read_text h hb]
  rfl

/-! ## Effects -/

/-- A variable and what becomes of its column. -/
abbrev Effect := Text × (Column → Column)

/-- What becomes of a table by one effect after the other. -/
def applyAll (effects : List Effect) (table : Table) : Table :=
  effects.foldl (fun table e => table.update e.1 e.2) table

theorem applyAll_append (effects more : List Effect) (table : Table) :
    applyAll (effects ++ more) table = applyAll more (applyAll effects table) :=
  List.foldl_append

/-- What becomes of one column by the effects that are about it. -/
def columnBehind (effects : List Effect) (c : Column) : Column :=
  (effects.filter (·.1 = c.name)).foldl (fun c e => e.2 c) c

/-- Effects that rename nothing. -/
def KeepNames (effects : List Effect) : Prop := ∀ e ∈ effects, ∀ c, (e.2 c).name = c.name

/-- Effects that rename nothing keep the names and their order. -/
theorem names_applyAll {effects : List Effect} (h : KeepNames effects) (table : Table) :
    (applyAll effects table).names = table.names := by
  induction effects generalizing table with
  | nil => rfl
  | cons e effects ih =>
    have hrest : KeepNames effects := fun e' he' => h e' (List.mem_cons_of_mem e he')
    show (applyAll effects (table.update e.1 e.2)).names = _
    rw [ih hrest, Table.names_update table e.1 (h e List.mem_cons_self)]

/-- **Each column is changed by the effects that are about it.** -/
theorem applyAll_eq {effects : List Effect} (h : KeepNames effects) (table : Table) :
    applyAll effects table = table.map (columnBehind effects) := by
  induction effects generalizing table with
  | nil => exact (List.map_id' table).symm
  | cons e effects ih =>
    have hrest : KeepNames effects := fun e' he' => h e' (List.mem_cons_of_mem e he')
    show applyAll effects (table.update e.1 e.2) = _
    rw [ih hrest]
    unfold Table.update
    rw [List.map_map]
    apply List.map_congr_left
    intro c _
    unfold columnBehind
    by_cases hc : c.name = e.1
    · have hname : (e.2 c).name = c.name := h e List.mem_cons_self c
      simp [Function.comp, hc, hname ▸ hc]
    · have hc' : ¬ e.1 = c.name := fun h' => hc h'.symm
      simp [Function.comp, hc, hc']

/-! ## Lists -/

/-- A list of variables as it is written. -/
def listText (xs : List VariableName) : Text := Text.join [' '] (xs.map fun x => x.text)

/-- What a section that gives a kind does with a list of variables. -/
def listEffects (kind : Variable.Kind) (xs : List VariableName) : List Effect :=
  xs.map fun x => (x.text, fun c => { c with kind })

theorem keepNames_listEffects (kind : Variable.Kind) (xs : List VariableName) :
    KeepNames (listEffects kind xs) := by
  intro e he c
  obtain ⟨x, -, rfl⟩ := List.mem_map.mp he
  rfl

theorem forall_mem_texts {p : Text → Prop} (xs : List VariableName)
    (h : ∀ x : VariableName, p x.text) : ∀ t ∈ xs.map fun x => x.text, p t := by
  intro t ht
  obtain ⟨x, -, rfl⟩ := List.mem_map.mp ht
  exact h x

theorem isLine_listText (xs : List VariableName) : IsLine (listText xs) :=
  isLine_join (List.all_iff_forall_prop.mp (by decide))
    (forall_mem_texts xs fun x => ⟨x.isLine, x.isWord.ne_nil⟩)

theorem words_listText (xs : List VariableName) :
    (listText xs).words = xs.map fun x => x.text :=
  Text.words_join (forall_mem_texts xs fun x => x.isWord)

/-- Variables are not named like keywords, so that a list of them is none. -/
theorem not_section_listText (xs : List VariableName) :
    Keyword.section? (listText xs) = none := by
  refine not_section_join (forall_mem_texts xs fun x => x.isWord)
    (forall_mem_texts xs fun x => x.ascii) ?_
  intro w hw
  have hmem : w ∈ xs.map fun x => x.text := by
    rw [hw]
    exact List.mem_cons_self
  obtain ⟨x, -, rfl⟩ := List.mem_map.mp hmem
  exact fun h => x.unreserved (List.mem_append_left _ h)

/-- A list of registered variables is assigned to its end. -/
theorem assign_names (kind : Variable.Kind) (xs : List VariableName) {table : Table}
    (h : ∀ x ∈ xs, table.has x.text = true) :
    Declarations.assign kind (xs.map fun x => x.text) table =
      (applyAll (listEffects kind xs) table, none) := by
  induction xs generalizing table with
  | nil => rfl
  | cons x xs ih =>
    have hnames : (table.update x.text fun c => { c with kind }).names = table.names :=
      Table.names_update table x.text fun _ => rfl
    rw [List.map_cons, Declarations.assign, if_pos (h x List.mem_cons_self), ih]
    · rfl
    · intro y hy
      rw [Table.has_iff, hnames, ← Table.has_iff]
      exact h y (List.mem_cons_of_mem x hy)

/-- **The step of a list gives its variables the kind of the section.** -/
theorem listed_step (xs : List VariableName) (n : Nat) {d : Draft} {kind : Variable.Kind}
    (hkind : Declarations.kind? d.stage = some kind) (h : ∀ x ∈ xs, d.table.has x.text = true) :
    (Declarations.step n (listText xs) d).verdict =
      .more { d with table := applyAll (listEffects kind xs) d.table } := by
  have hassign := assign_names kind xs h
  by_cases hempty : listText xs = []
  · -- an empty line lists nothing
    have hwords := words_listText xs
    rw [hempty] at hwords
    have hxs : xs = [] := List.map_eq_nil_iff.mp hwords.symm
    rw [hxs]
    rfl
  · rw [Declarations.verdict_step hempty]
    unfold Declarations.line
    rw [not_section_listText]
    dsimp only
    rw [hkind]
    dsimp only
    unfold Declarations.listed
    rw [words_listText, hassign]

end LinearProgram.Written

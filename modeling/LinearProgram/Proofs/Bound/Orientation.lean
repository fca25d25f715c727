/-
  Orientation — which side of a one-sided bound is the variable.

  The side that is a registered name is the variable, whatever the two sides look like. That names
  and values can be told apart is what makes this work.

  1. **Names and values** — a name begins with no character that a literal may begin with. The
     texts that are both a name and a quantity are the spellings of infinity without a sign, in any
     case (`Quantity.reads_both_iff`).

  2. **Orientation** — so a line with a variable on one side and a value on the other is a bound on
     the side that the variable stands on, unless the value is a spelling of infinity that names a
     variable too (`Bound.oriented_of_sides`).
-/

import LinearProgram.Proofs.Bound.Shape

namespace LinearProgram

/-! ## Names and values -/

/-- A name is no literal. -/
theorem Name.not_literal {t : Text} (h : isName t = true) : Decimal.Literal.read? t = none :=
  Written.GivenName.read?_text ⟨t, h⟩

namespace Quantity

/-- The text spells infinity without a sign, in any case. -/
def SpellsInfinity (t : Text) : Prop := t.lower = "inf".toList ∨ t.lower = "infinity".toList

/-- The letters of a spelling of infinity are letters of names. -/
theorem isInitial_of_asciiLower {c : Char} (hc : c.toNat < 0x80)
    (h : (Text.asciiLower c).isLower = true) : Name.isInitial c = true := by
  revert h
  exact Text.forall_ascii hc (by decide)

/-- A spelling of infinity without a sign is a name. -/
theorem SpellsInfinity.isName {t : Text} (h : SpellsInfinity t) : Name.isName t = true := by
  have hletters : ∀ d ∈ t.lower, d.isLower = true ∧ d ≠ 'k' := by
    rcases h with h | h <;> rw [h] <;> simp
  have hascii : ∀ c ∈ t, c.toNat < 0x80 := Text.ascii_of_lower hletters
  have hinitial : ∀ c ∈ t, Name.isInitial c = true := by
    intro c hc
    refine isInitial_of_asciiLower (hascii c hc) (hletters _ ?_).1
    rw [Text.lower_ascii hascii]
    exact List.mem_map_of_mem hc
  cases t with
  | nil => rcases h with h | h <;> cases h
  | cons c rest =>
    have hinner : rest.all Name.isInner = true := by
      refine List.all_eq_true.mpr fun d hd => ?_
      simp [Name.isInner, hinitial d (List.mem_cons_of_mem c hd)]
    simp [Name.isName, hinitial c List.mem_cons_self, hinner]

/-- A spelling of infinity without a sign is read as infinity. -/
theorem SpellsInfinity.infinity?_eq {t : Text} (h : SpellsInfinity t) :
    infinity? t = some infinity := by
  unfold infinity?
  rcases h with h | h <;> rw [h] <;> rfl

/-- The lower-case form of a name begins with no sign. -/
theorem head_lower_of_isName {t : Text} (h : Name.isName t = true) :
    t.lower.head? ≠ some '+' ∧ t.lower.head? ≠ some '-' := by
  obtain ⟨c, rest, ht, hc, -⟩ := Written.GivenName.eq_cons ⟨t, h⟩
  have hascii := Written.GivenName.ascii ⟨t, h⟩
  rw [Text.lower_ascii hascii]
  dsimp only at ht hascii
  subst ht
  have hsign : Text.asciiLower c ≠ '+' ∧ Text.asciiLower c ≠ '-' := by
    have hlt := hascii c List.mem_cons_self
    revert hc
    exact Text.forall_ascii hlt (by decide)
  simpa using hsign

/-- Of the spellings of infinity those without a sign are names. -/
theorem spellsInfinity_of_infinity? {t : Text} {x : Float} (hname : Name.isName t = true)
    (h : infinity? t = some x) : SpellsInfinity t := by
  obtain ⟨hplus, hminus⟩ := head_lower_of_isName hname
  have hmem := Written.mem_of_infinity? h
  simp only [positiveInfinities, negativeInfinities, List.cons_append, List.nil_append,
    List.mem_cons, List.not_mem_nil, or_false] at hmem
  rcases hmem with hmem | hmem | hmem | hmem | hmem | hmem
  · exact Or.inl hmem
  · exact absurd (by rw [hmem]; rfl) hplus
  · exact Or.inr hmem
  · exact absurd (by rw [hmem]; rfl) hplus
  · exact absurd (by rw [hmem]; rfl) hminus
  · exact absurd (by rw [hmem]; rfl) hminus

/-- **A text is read both as a quantity and as a name exactly if it spells infinity without a
    sign**, blanks around it apart. -/
theorem reads_both_iff (t : Text) :
    ((∃ v, read t = .ok v) ∧ ∃ name, Name.read t = .ok name) ↔ SpellsInfinity t.trim := by
  constructor
  · rintro ⟨⟨v, hv⟩, name, hname⟩
    have hisName := ((Name.read_eq_ok_iff t name).mp hname).2
    rw [((Name.read_eq_ok_iff t name).mp hname).1] at hisName
    cases hinfinity : infinity? t.trim with
    | some x => exact spellsInfinity_of_infinity? hisName hinfinity
    | none =>
      have hfinite : finite? t.trim = none := by
        unfold finite?
        rw [Name.not_literal hisName]
        rfl
      unfold read at hv
      rw [hinfinity, hfinite] at hv
      cases hv
  · intro h
    refine ⟨⟨infinity, ?_⟩, t.trim, (Name.read_eq_ok_iff t t.trim).mpr ⟨rfl, h.isName⟩⟩
    unfold read
    rw [h.infinity?_eq]

end Quantity

/-! ## Orientation -/

namespace Bound

open Written (Plain plain_trim_iff plain_of_quantity)

variable {table : Table} {line x value : Text}

/-- Two variables with an order relation in between are refused. -/
theorem read_between_variables (h : Sides line [x, value]) (hx : x ∈ table.names)
    (hvalue : value ∈ table.names) : read table line = .error (.boundBetweenVariables line) := by
  unfold read form
  rw [segments_eq_ok_iff.mpr h]
  dsimp only
  rw [if_pos ((Table.has_iff table x).mpr hx), if_pos ((Table.has_iff table value).mpr hvalue)]

/-- The line is read as the bound, unless its value names a variable as well. This can only be so
    where the value spells infinity. -/
inductive Oriented (table : Table) (line value : Text) (b : Bound) : Prop where
  | read (hvalue : value.trim ∉ table.names) (h : read table line = .ok b)
  | refused (hvalue : value.trim ∈ table.names) (hspells : Quantity.SpellsInfinity value.trim)
      (h : Bound.read table line = .error (.boundBetweenVariables line))

section

variable (hnames : ∀ name ∈ table.names, Name.isName name = true) (hx : x.trim ∈ table.names)
  {v : Float} (hv : Quantity.read value = .ok v)
include hnames hx hv

/-- Neither side of a one-sided bound has relational characters. -/
theorem plain_sides : Plain x ∧ Plain value :=
  ⟨plain_trim_iff.mp (Written.GivenName.plain ⟨x.trim, hnames _ hx⟩), plain_of_quantity hv⟩

omit hx in
/-- A value that names a variable spells infinity. -/
theorem spellsInfinity_of_mem (hvalue : value.trim ∈ table.names) :
    Quantity.SpellsInfinity value.trim :=
  (Quantity.reads_both_iff value).mp
    ⟨⟨v, hv⟩, value.trim, (Name.read_eq_ok_iff value value.trim).mpr ⟨rfl, hnames _ hvalue⟩⟩

/-- A variable in front of a value has it as its upper bound. -/
theorem oriented_above (h : Chain line [x, value]) :
    Oriented table line value ⟨x.trim, .upper v⟩ := by
  obtain ⟨hplain, hplain'⟩ := plain_sides hnames hx hv
  have hsides : Sides line [x.trim, value.trim] :=
    sides_of_chain h (Written.forall_mem_two hplain hplain')
  by_cases hvalue : value.trim ∈ table.names
  · exact .refused hvalue (spellsInfinity_of_mem hnames hv hvalue)
      (read_between_variables hsides hx hvalue)
  · exact .read hvalue
      (read_eq_ok_iff.mpr (.upper hsides hx hvalue ((Quantity.read_trim value).trans hv)))

/-- A variable behind a value has it as its lower bound. -/
theorem oriented_below (h : Chain line [value, x]) :
    Oriented table line value ⟨x.trim, .lower v⟩ := by
  obtain ⟨hplain, hplain'⟩ := plain_sides hnames hx hv
  have hsides : Sides line [value.trim, x.trim] :=
    sides_of_chain h (Written.forall_mem_two hplain' hplain)
  by_cases hvalue : value.trim ∈ table.names
  · exact .refused hvalue (spellsInfinity_of_mem hnames hv hvalue)
      (read_between_variables hsides hvalue hx)
  · exact .read hvalue
      (read_eq_ok_iff.mpr (.lower hsides hx hvalue ((Quantity.read_trim value).trans hv)))

end

/-- **A one-sided bound is about the side that its variable stands on.** Names and quantities are
    told apart, but for the spellings of infinity without a sign; so in a table of names a line
    with a variable and a value is read as the bound that it looks like, and it is refused only
    where some variable is called infinity. -/
theorem oriented_of_sides (table : Table)
    (hnames : ∀ name ∈ table.names, Name.isName name = true) :
    (∀ t, ((∃ v, Quantity.read t = .ok v) ∧ ∃ name, Name.read t = .ok name) ↔
        Quantity.SpellsInfinity t.trim) ∧
      ∀ line x value v, x.trim ∈ table.names → Quantity.read value = .ok v →
        (Chain line [x, value] → Oriented table line value ⟨x.trim, .upper v⟩) ∧
        (Chain line [value, x] → Oriented table line value ⟨x.trim, .lower v⟩) :=
  ⟨Quantity.reads_both_iff, fun _ _ _ _ hx hv =>
    ⟨oriented_above hnames hx hv, oriented_below hnames hx hv⟩⟩

/-- A variable with a bound on it, from the right and from the left, and one that is called
    infinity. -/
theorem oriented_of_sides_infinity :
    let table : Table := [{ name := "x".toList }, { name := "Inf".toList }]
    Oriented table "x <= 4".toList " 4".toList ⟨"x".toList, .upper 4.0⟩ ∧
      Oriented table "x >= 4".toList " 4".toList ⟨"x".toList, .lower 4.0⟩ ∧
      Oriented table "Inf <= x".toList "Inf ".toList ⟨"x".toList, .lower Quantity.infinity⟩ := by
  have hnames : ∀ name ∈ Table.names [{ name := "x".toList }, { name := "Inf".toList }],
      Name.isName name = true := by
    decide
  have hlines := (oriented_of_sides _ hnames).2
  have hfour : Quantity.read " 4".toList = .ok 4.0 := by decide +kernel
  exact ⟨(hlines _ "x ".toList _ _ (by decide) hfour).1 (Or.inl (by decide)),
    (hlines _ "x ".toList _ _ (by decide) hfour).2 (Or.inr (by decide)),
    (hlines _ " x".toList _ _ (by decide) (by decide +kernel)).2 (Or.inl (by decide))⟩

end Bound

end LinearProgram

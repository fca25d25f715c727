/-
  Shape — the shapes of a bound as they stand in a line.

  `Bound.Says` speaks of the pieces that a line comes apart into. Here a line is put together from
  its sides instead, and the two ways of looking at it agree.

  1. **Chains** — sides with `<=` in between, or with `>=` and the sides from right to left. A line
     that comes apart into pieces is a chain of them, and a chain of sides without relational
     characters comes apart into these sides.

  2. **Shapes** — `Bound.Shape` lists `x = v`, `x free`, `v <= x`, `x <= v` and `l <= x <= u` with
     their mirrors. `Bound.Trailing` is the one other line that is read: an equality with a further
     `=` behind its value, and whatever follows that is dropped.

  3. **Reading** — a line is read as a bound exactly if it has one of the shapes or is such an
     equality, and never both (`Bound.Trailing.not_shape`). The way back needs that the name of the
     variable has no relational characters, which is so in a table of names
     (`Bound.read_eq_ok_iff_of_isName`).
-/

import LinearProgram.Proofs.Bound
import LinearProgram.Proofs.Written.Declaration

namespace LinearProgram.Bound

open Written (Plain plain_iff plain_trim_iff plain_of_quantity not_isBlank_of_isRelational)

/-! ## Chains -/

/-- A line is made of sides with `<=` in between, or with `>=` and the sides from right to left. -/
def Chain (line : Text) (parts : List Text) : Prop :=
  line = Text.join ['<', '='] parts ∨ line = Text.join ['>', '='] parts.reverse

/-- A line holds neither `<=` nor `>=`. -/
def Unordered (line : Text) : Prop := ¬ ['<', '='] <:+: line ∧ ¬ ['>', '='] <:+: line

section

variable {line : Text}

/-- What comes apart into pieces is a chain of them, up to blanks. -/
theorem exists_chain {pieces : List Text} (h : Sides line pieces) :
    ∃ parts, Chain line parts ∧ parts.map Text.trim = pieces := by
  rcases h with ⟨-, hpieces⟩ | ⟨-, -, hpieces⟩
  · exact ⟨_, Or.inl (Text.join_splitAtPair '<' '=' line).symm, hpieces⟩
  · refine ⟨(Text.splitAtPair '>' '=' line).reverse, Or.inr ?_, ?_⟩
    · rw [List.reverse_reverse, Text.join_splitAtPair]
    · rw [List.map_reverse, hpieces, List.reverse_reverse]

theorem exists_chain_two {a b : Text} (h : Sides line [a, b]) :
    ∃ first second, Chain line [first, second] ∧ first.trim = a ∧ second.trim = b := by
  obtain ⟨parts, hchain, hparts⟩ := exists_chain h
  obtain ⟨first, rest, rfl, hfirst, hrest⟩ := List.map_eq_cons_iff.mp hparts
  obtain ⟨second, rfl, hsecond⟩ := List.map_eq_singleton_iff.mp hrest
  exact ⟨first, second, hchain, hfirst, hsecond⟩

theorem exists_chain_three {a b c : Text} (h : Sides line [a, b, c]) :
    ∃ first second third, Chain line [first, second, third] ∧
      first.trim = a ∧ second.trim = b ∧ third.trim = c := by
  obtain ⟨parts, hchain, hparts⟩ := exists_chain h
  obtain ⟨first, rest, rfl, hfirst, hrest⟩ := List.map_eq_cons_iff.mp hparts
  obtain ⟨second, rest, rfl, hsecond, hrest⟩ := List.map_eq_cons_iff.mp hrest
  obtain ⟨third, rfl, hthird⟩ := List.map_eq_singleton_iff.mp hrest
  exact ⟨first, second, third, hchain, hfirst, hsecond, hthird⟩

/-- Plain sides joined with an operator come apart at it. -/
theorem splitAtPair_join_of_plain {d : Char} (hd : Relation.isRelational d = true) (heq : d ≠ '=')
    {parts : List Text} (hne : parts ≠ []) (hplain : ∀ part ∈ parts, Plain part) :
    Text.splitAtPair d '=' (Text.join [d, '='] parts) = parts :=
  Text.splitAtPair_join heq hne fun part hpart =>
    Text.hasPair_of_not_mem ((hplain part hpart).not_mem hd)

/-- Plain sides joined with an operator do not hold the other one. -/
theorem hasPair_join_of_plain {d e : Char} (he : Relation.isRelational e = true) (hed : e ≠ d)
    (heq : e ≠ '=') {parts : List Text} (hplain : ∀ part ∈ parts, Plain part) :
    Text.hasPair e '=' (Text.join [d, '='] parts) = false := by
  refine Text.hasPair_of_not_mem fun hmem => ?_
  rcases Text.mem_of_mem_join hmem with hmem | ⟨part, hpart, hmem⟩
  · simp [hed, heq] at hmem
  · exact (hplain part hpart).not_mem he hmem

/-- **A chain of plain sides comes apart into them.** -/
theorem sides_of_chain {first second : Text} {rest : List Text}
    (h : Chain line (first :: second :: rest))
    (hplain : ∀ part ∈ first :: second :: rest, Plain part) :
    Sides line ((first :: second :: rest).map Text.trim) := by
  have hne : first :: second :: rest ≠ [] := List.cons_ne_nil _ _
  rcases h with rfl | rfl
  · refine Or.inl ⟨hasPair_join_of_plain (by decide) (by decide) (by decide) hplain, ?_⟩
    rw [splitAtPair_join_of_plain (by decide) (by decide) hne hplain]
  · have hreverse : ∀ part ∈ (first :: second :: rest).reverse, Plain part :=
      fun part hpart => hplain part (List.mem_reverse.mp hpart)
    have hpieces :
        Text.splitAtPair '>' '=' (Text.join ['>', '='] (first :: second :: rest).reverse) =
          (first :: second :: rest).reverse :=
      splitAtPair_join_of_plain (by decide) (by decide) (List.reverse_ne_nil_iff.mpr hne) hreverse
    refine Or.inr ⟨?_, hasPair_join_of_plain (by decide) (by decide) (by decide) hreverse, ?_⟩
    · -- without the operator there would be one side only
      rw [← Bool.not_eq_false]
      intro hpair
      rw [Text.splitAtPair_of_not_hasPair hpair] at hpieces
      have hlength := congrArg List.length hpieces
      simp at hlength
    · rw [hpieces, List.map_reverse]

/-- A line in one piece is one without order relations. -/
theorem sides_singleton_iff {whole : Text} :
    Sides line [whole] ↔ Unordered line ∧ line.trim = whole := by
  have hone : ∀ {d : Char}, (Text.splitAtPair d '=' line).map Text.trim = [whole] →
      Text.hasPair d '=' line = false := by
    intro d h
    obtain ⟨piece, hpiece, -⟩ := List.map_eq_singleton_iff.mp h
    have hjoin := Text.join_splitAtPair d '=' line
    rw [hpiece] at hjoin
    have hline : piece = line := hjoin
    rw [← hline]
    exact Text.not_hasPair_of_mem_splitAtPair (by rw [hpiece]; exact List.mem_singleton.mpr rfl)
  unfold Sides Unordered
  rw [← Text.hasPair_eq_true_iff, ← Text.hasPair_eq_true_iff, Bool.not_eq_true, Bool.not_eq_true]
  constructor
  · rintro (⟨hgreater, hpieces⟩ | ⟨hgreater, -, hpieces⟩)
    · have hless := hone hpieces
      rw [Text.splitAtPair_of_not_hasPair hless] at hpieces
      exact ⟨⟨hless, hgreater⟩, List.singleton_inj.mp hpieces⟩
    · rw [hone hpieces] at hgreater
      cases hgreater
  · rintro ⟨⟨hless, hgreater⟩, rfl⟩
    refine Or.inl ⟨hgreater, ?_⟩
    rw [Text.splitAtPair_of_not_hasPair hless]
    rfl

end

/-! ## Shapes -/

/-- The shapes of a bound, where these names are registered. A text with a value has no relational
    characters (`Written.plain_of_quantity`), so that no operator is left over in a side. -/
inductive Shape (names : List Text) (line : Text) : Bound → Prop where
  /-- The shape `x = v`. -/
  | fixed {x value : Text} {v : Float} (h : line = x ++ '=' :: value) (hx : x.trim ∈ names)
      (hv : Quantity.read value = .ok v) (hplain : Plain value) :
      Shape names line ⟨x.trim, .both v v⟩
  /-- The shape `x free`, in any case. -/
  | free {x word : Text} (h : line.words = [x, word]) (hfree : word.lower = "free".toList)
      (hx : x ∈ names) : Shape names line ⟨x, .both (-Quantity.infinity) Quantity.infinity⟩
  /-- The shapes `v <= x` and `x >= v`. -/
  | lower {value x : Text} {v : Float} (h : Chain line [value, x]) (hx : x.trim ∈ names)
      (hvalue : value.trim ∉ names) (hv : Quantity.read value = .ok v) (hplain : Plain value) :
      Shape names line ⟨x.trim, .lower v⟩
  /-- The shapes `x <= v` and `v >= x`. -/
  | upper {x value : Text} {v : Float} (h : Chain line [x, value]) (hx : x.trim ∈ names)
      (hvalue : value.trim ∉ names) (hv : Quantity.read value = .ok v) (hplain : Plain value) :
      Shape names line ⟨x.trim, .upper v⟩
  /-- The shapes `l <= x <= u` and `u >= x >= l`. -/
  | between {low x high : Text} {l u : Float} (h : Chain line [low, x, high])
      (hx : x.trim ∈ names) (hl : Quantity.read low = .ok l) (hlow : Plain low)
      (hu : Quantity.read high = .ok u) (hhigh : Plain high) :
      Shape names line ⟨x.trim, .both l u⟩

/-- An equality with a further `=` behind its value. What follows is dropped, unless it makes the
    line an order relation. -/
inductive Trailing (names : List Text) (line : Text) : Bound → Prop where
  | intro {x value tail : Text} {v : Float} (h : line = x ++ '=' :: (value ++ '=' :: tail))
      (hline : Unordered line) (hx : x.trim ∈ names) (hv : Quantity.read value = .ok v)
      (hplain : Plain value) : Trailing names line ⟨x.trim, .both v v⟩

section

variable {names : List Text} {line : Text} {b b' : Bound}

/-- **What a line says, it has the shape of**, or it is an equality that goes on. -/
theorem Says.shape (h : Says names line b) : Shape names line b ∨ Trailing names line b := by
  cases h with
  | @upper x value v h hx hvalue hv =>
    obtain ⟨x, value, hchain, rfl, rfl⟩ := exists_chain_two h
    rw [Quantity.read_trim] at hv
    exact Or.inl (.upper hchain hx hvalue hv (plain_of_quantity hv))
  | @lower x value v h hx hvalue hv =>
    obtain ⟨value, x, hchain, rfl, rfl⟩ := exists_chain_two h
    rw [Quantity.read_trim] at hv
    exact Or.inl (.lower hchain hx hvalue hv (plain_of_quantity hv))
  | @between low x high l u h hx hl hu =>
    obtain ⟨low, x, high, hchain, rfl, rfl, rfl⟩ := exists_chain_three h
    rw [Quantity.read_trim] at hl hu
    exact Or.inl (.between hchain hx hl (plain_of_quantity hl) hu (plain_of_quantity hu))
  | @fixed whole x value rest v h hline hx hv =>
    have hplain := plain_of_quantity hv
    have hjoin := Text.join_splitAt '=' line
    rw [hline] at hjoin
    cases rest with
    | nil =>
      refine Or.inl (.fixed ?_ hx hv hplain)
      rw [← hjoin]
      simp [Text.join]
    | cons next rest =>
      have hwhole : line = x ++ '=' :: (value ++ '=' :: Text.join ['='] (next :: rest)) := by
        rw [← hjoin]
        simp [Text.join]
      exact Or.inr (.intro hwhole (sides_singleton_iff.mp h).1 hx hv hplain)
  | @free whole x word h hline hwords hfree hx => exact Or.inl (.free hwords hfree hx)

/-! ### The way back -/

/-- Before its first `=` and behind it an equality of plain texts comes apart. -/
theorem splitAt_equality {x value : Text} (hx : Plain x) (hvalue : Plain value) :
    Text.splitAt '=' (x ++ '=' :: value) = [x, value] := by
  rw [Text.splitAt_append value (hx.not_mem (by decide)),
    Text.splitAt_of_not_mem (hvalue.not_mem (by decide))]

/-- An equality of plain texts is no order relation. -/
theorem sides_equality {x value : Text} (hx : Plain x) (hvalue : Plain value) :
    Sides (x ++ '=' :: value) [(x ++ '=' :: value).trim] := by
  apply segments_eq_ok_iff.mp
  apply Written.segments_of_plain
  intro c hc
  rcases List.mem_append.mp hc with hc | hc
  · exact hx.ne_angle c hc
  · rcases List.mem_cons.mp hc with rfl | hc
    · decide
    · exact hvalue.ne_angle c hc

/-- A word that spells `free` has no relational characters. -/
theorem plain_of_lower_free {word : Text} (h : word.lower = "free".toList) : Plain word := by
  have hfree : ∀ c ∈ "free".toList, Written.isStructural c = false :=
    List.all_iff_forall_prop.mp (by decide)
  rw [← h] at hfree
  exact Written.plain_of_not_isStructural (Written.not_isStructural_of_lower hfree)

/-- A line of plain words is plain. -/
theorem plain_of_words (h : ∀ word ∈ line.words, Plain word) : Plain line := by
  intro c hc
  rw [← Bool.not_eq_true]
  intro hrelational
  obtain ⟨word, hword, hmem⟩ := Text.exists_mem_words hc (not_isBlank_of_isRelational hrelational)
  exact (h word hword).not_mem hrelational hmem

theorem plain_of_free {x word : Text} (h : line.words = [x, word])
    (hfree : word.lower = "free".toList) (hx : Plain x) : Plain line := by
  apply plain_of_words
  rw [h]
  exact Written.forall_mem_two hx (plain_of_lower_free hfree)

/-- **What a line has the shape of, it says**, if the variable has a plain name. -/
theorem Shape.toSays (h : Shape names line b) (hname : Plain b.name) : Says names line b := by
  cases h with
  | @fixed x value v h hx hv hplain =>
    have hleft : Plain x := plain_trim_iff.mp hname
    subst h
    exact .fixed (sides_equality hleft hplain) (splitAt_equality hleft hplain) hx hv
  | @free x word h hfree hx =>
    have hline : Plain line := plain_of_free h hfree hname
    exact .free (segments_eq_ok_iff.mp (Written.segments_of_plain hline.ne_angle))
      (hline.not_mem (by decide)) h hfree hx
  | @lower value x v h hx hvalue hv hplain =>
    have hsides := sides_of_chain h (Written.forall_mem_two hplain (plain_trim_iff.mp hname))
    rw [← Quantity.read_trim] at hv
    exact .lower hsides hx hvalue hv
  | @upper x value v h hx hvalue hv hplain =>
    have hsides := sides_of_chain h (Written.forall_mem_two (plain_trim_iff.mp hname) hplain)
    rw [← Quantity.read_trim] at hv
    exact .upper hsides hx hvalue hv
  | @between low x high l u h hx hl hlow hu hhigh =>
    have hsides :=
      sides_of_chain h (Written.forall_mem_three hlow (plain_trim_iff.mp hname) hhigh)
    rw [← Quantity.read_trim] at hl hu
    exact .between hsides hx hl hu

/-- An equality that goes on comes apart into more than two pieces. -/
theorem splitAt_trailing {x value : Text} (tail : Text) (hx : Plain x) (hvalue : Plain value) :
    Text.splitAt '=' (x ++ '=' :: (value ++ '=' :: tail)) =
      x :: value :: Text.splitAt '=' tail := by
  rw [Text.splitAt_append _ (hx.not_mem (by decide)),
    Text.splitAt_append tail (hvalue.not_mem (by decide))]

theorem Trailing.toSays (h : Trailing names line b) (hname : Plain b.name) : Says names line b := by
  cases h with
  | @intro x value tail v h hline hx hv hplain =>
    have hsides : Sides line [line.trim] := sides_singleton_iff.mpr ⟨hline, rfl⟩
    have hsplit := splitAt_trailing tail (plain_trim_iff.mp hname) hplain
    rw [← h] at hsplit
    exact .fixed hsides hsplit hx hv

/-- A line without order relations is no chain. -/
theorem Unordered.not_chain (h : Unordered line) {first second : Text} {rest : List Text}
    (hplain : ∀ part ∈ first :: second :: rest, Plain part) :
    ¬ Chain line (first :: second :: rest) := by
  intro hchain
  have hsides : Sides line [line.trim] := sides_singleton_iff.mpr ⟨h, rfl⟩
  have hlength := congrArg List.length (hsides.unique (sides_of_chain hchain hplain))
  simp at hlength

/-- **An equality that goes on has none of the shapes.** -/
theorem Trailing.not_shape (h : Trailing names line b) (hname : Plain b.name)
    (hname' : Plain b'.name) : ¬ Shape names line b' := by
  intro hshape
  cases h with
  | @intro x value tail v hwhole hline hx hv hplain =>
    have hleft : Plain x := plain_trim_iff.mp hname
    cases hshape with
    | @fixed x' value' v' h' hx' hv' hplain' =>
      have hsplit := splitAt_equality (plain_trim_iff.mp hname') hplain'
      rw [← h', hwhole, splitAt_trailing tail hleft hplain] at hsplit
      exact Text.splitAt_ne_nil '=' tail (List.cons.inj (List.cons.inj hsplit).2).2
    | @free x' word h' hfree hx' =>
      refine (plain_of_free h' hfree hname').not_mem (c := '=') (by decide) ?_
      rw [hwhole]
      exact List.mem_append_right x List.mem_cons_self
    | @lower value' x' v' h' hx' hvalue' hv' hplain' =>
      exact hline.not_chain (Written.forall_mem_two hplain' (plain_trim_iff.mp hname')) h'
    | @upper x' value' v' h' hx' hvalue' hv' hplain' =>
      exact hline.not_chain (Written.forall_mem_two (plain_trim_iff.mp hname') hplain') h'
    | @between low x' high l u h' hx' hl hlow hu hhigh =>
      exact hline.not_chain
        (Written.forall_mem_three hlow (plain_trim_iff.mp hname') hhigh) h'

theorem Shape.name_mem (h : Shape names line b) : b.name ∈ names := by
  cases h with
  | fixed _ hx => exact hx
  | free _ _ hx => exact hx
  | lower _ hx => exact hx
  | upper _ hx => exact hx
  | between _ hx => exact hx

theorem Trailing.name_mem (h : Trailing names line b) : b.name ∈ names := by
  cases h with
  | intro _ _ hx => exact hx

/-- **The two ways of looking at a line agree**, where the variable has a plain name. -/
theorem says_iff_shape (hname : Plain b.name) :
    Says names line b ↔ Shape names line b ∨ Trailing names line b := by
  refine ⟨Says.shape, ?_⟩
  rintro (h | h)
  · exact h.toSays hname
  · exact h.toSays hname

end

/-! ## Reading -/

/-- In a table of names, such as expressions leave behind, the two ways agree on every line. -/
theorem read_eq_ok_iff_of_isName {table : Table} {line : Text} {b : Bound}
    (h : ∀ name ∈ table.names, Name.isName name = true) :
    read table line = .ok b ↔ Shape table.names line b ∨ Trailing table.names line b := by
  have hplain : ∀ name ∈ table.names, Plain name := fun name hname =>
    Written.GivenName.plain ⟨name, h name hname⟩
  rw [read_eq_ok_iff]
  refine ⟨Says.shape, fun hline => (says_iff_shape (hplain _ ?_)).mpr hline⟩
  rcases hline with hshape | htrailing
  · exact hshape.name_mem
  · exact htrailing.name_mem

/-- **A line is read as a bound exactly if it has the shape of it**, or is an equality that goes on
    behind its value. In every table what is read is one of the two; what is one of the two is
    read, if its variable has a name without relational characters. -/
theorem read_shape (table : Table) (line : Text) (b : Bound) :
    (read table line = .ok b → Shape table.names line b ∨ Trailing table.names line b) ∧
      (Relation.occursIn b.name = false →
        Shape table.names line b ∨ Trailing table.names line b → read table line = .ok b) := by
  rw [read_eq_ok_iff]
  exact ⟨Says.shape, fun hname => (says_iff_shape (plain_iff.mpr hname)).mpr⟩

/-- A second equality is dropped: the line has none of the shapes, and is read. -/
theorem not_shape_second_equality :
    read [{ name := "x".toList }] "x = 5 = 6".toList =
        .ok ⟨"x".toList, .both 5.0 5.0⟩ ∧
      ∀ b, ¬ Shape ["x".toList] "x = 5 = 6".toList b := by
  have hx : Plain "x".toList := List.all_iff_forall_prop.mp (by decide)
  have hline : "x = 5 = 6".toList = "x ".toList ++ '=' :: (" 5 ".toList ++ '=' :: " 6".toList) := by
    decide
  have htrailing : Trailing ["x".toList] "x = 5 = 6".toList
      ⟨"x".toList, .both 5.0 5.0⟩ :=
    .intro hline ⟨by decide, by decide⟩ (by decide) (by decide +kernel)
      (List.all_iff_forall_prop.mp (by decide))
  refine ⟨read_eq_ok_iff.mpr (htrailing.toSays hx), fun b h => ?_⟩
  have hname : Plain b.name := by
    rw [List.mem_singleton.mp h.name_mem]
    exact hx
  exact htrailing.not_shape hx hname h

end LinearProgram.Bound

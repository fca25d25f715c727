/-
  Document — whole documents, written line by line, and what they mean.

  1. **Headings** — keywords and the word of the direction may be spelled in any case. Each of them
     is a line of its own, and is found in the table of spellings (`Heading.section?_text`).

  2. **Blocks** — the declaring sections, in any order and any number: a heading and its lines.

  3. **Documents** — a direction, objectives, constraints and blocks that declare mentioned variables
     only. `write` puts one statement on each line.

  4. **Meaning** — `meaning` says without any reading which model the document describes: the
     objectives and constraints that were written, and for each variable, in the order of first
     mention, what the declarations made of it. It has no model only if a variable's bounds are
     inverted in the end. What this amounts to in signs, numbers and names is told in `Meaning`.
-/

import LinearProgram.Document.Session
import LinearProgram.Proofs.Written.Declaration

namespace LinearProgram.Written

/-! ## Headings -/

/-- A text is a line if its lower-case form is one. -/
theorem isLine_of_lower {t : Text} (h : IsLine t.lower) : IsLine t where
  isTrimmed := Text.isTrimmed_of_lower h.isTrimmed
  unbroken c hc := by
    -- both characters are the same in either case, and would be in the lower-case form as well
    have hkept : ∀ d, Text.IsCaseless d → c = d → d ∈ t.lower := by
      rintro d hd rfl
      exact Text.mem_lower hd hc
    constructor
    · intro hd
      have hmem := hkept '\\' (Text.isCaseless_of_ascii (by decide) (by decide)) hd
      exact (h.unbroken _ hmem).1 rfl
    · intro hd
      have hmem := hkept '\n' (Text.isCaseless_of_ascii (by decide) (by decide)) hd
      exact (h.unbroken _ hmem).2 rfl

/-- What names a direction, in any case, is a word. -/
theorem isWord_of_direction {direction : Direction} {word : Text}
    (h : word.lower ∈ direction.spellings) : word.IsWord := by
  have hall : ∀ direction : Direction, ∀ s ∈ direction.spellings,
      s ≠ [] ∧ (s.all fun c => Text.isBlank c = false) = true := by
    intro direction
    cases direction <;> decide
  obtain ⟨hne, hblank⟩ := hall direction _ h
  exact Text.isWord_of_lower ⟨hne, List.all_iff_forall_prop.mp hblank⟩

/-- The word of a direction is a line, in any case. -/
theorem isLine_of_direction {direction : Direction} {word : Text}
    (h : word.lower ∈ direction.spellings) : IsLine word := by
  have hall : ∀ direction : Direction, ∀ s ∈ direction.spellings,
      s.trim = s ∧ (s.all fun c => c ≠ '\\' ∧ c ≠ '\n') = true := by
    intro direction
    cases direction <;> decide
  obtain ⟨htrim, hunbroken⟩ := hall direction _ h
  exact isLine_of_lower
    ⟨(Text.isTrimmed_iff _).mpr htrim, List.all_iff_forall_prop.mp hunbroken⟩

/-- The spellings of keywords are lines, and are compared as they are. -/
theorem spelling_spec {spelling : Text}
    (h : spelling ∈ Keyword.constraintsSpellings ++ Keyword.sectionSpellings.map Prod.fst) :
    IsLine spelling ∧ spelling ≠ [] ∧ Text.join [' '] spelling.words = spelling := by
  have hall : ∀ s ∈ Keyword.constraintsSpellings ++ Keyword.sectionSpellings.map Prod.fst,
      s.trim = s ∧ (s.all fun c => c ≠ '\\' ∧ c ≠ '\n') = true ∧ s ≠ [] ∧
        Text.join [' '] s.words = s := by
    decide
  obtain ⟨htrim, hunbroken, hne, hjoin⟩ := hall spelling h
  have hline : IsLine spelling :=
    ⟨(Text.isTrimmed_iff spelling).mpr htrim, List.all_iff_forall_prop.mp hunbroken⟩
  exact ⟨hline, hne, hjoin⟩

/-- A line that leads to a section, in any case. -/
structure Heading (target : Section) where
  text : Text
  spelled : (text.lower, target) ∈ Keyword.sectionSpellings

namespace Heading

variable {target : Section}

/-- The table of spellings holds lines only, and a heading is one of them but for its case. -/
theorem spec (k : Heading target) :
    IsLine k.text.lower ∧ k.text.lower ≠ [] ∧ Keyword.normal k.text = k.text.lower :=
  spelling_spec (List.mem_append_right _ (List.mem_map.mpr ⟨_, k.spelled, rfl⟩))

theorem isLine (k : Heading target) : IsLine k.text := isLine_of_lower k.spec.1

theorem text_ne_nil (k : Heading target) : k.text ≠ [] :=
  fun h => k.spec.2.1 (by rw [h]; rfl)

/-- **A heading leads to its section.** -/
theorem section?_text (k : Heading target) : Keyword.section? k.text = some target := by
  have hlookup : ∀ entry ∈ Keyword.sectionSpellings,
      Keyword.sectionSpellings.lookup entry.1 = some entry.2 := by
    decide
  unfold Keyword.section?
  rw [k.spec.2.2]
  exact hlookup _ k.spelled

end Heading

/-! ## Blocks -/

/-- A declaring section: a heading and lines. -/
inductive Block where
  | bounds (heading : Heading .bounds) (statements : List Bound)
  | binaries (heading : Heading .binary) (lists : List (List VariableName))
  | generals (heading : Heading .general) (lists : List (List VariableName))

namespace Block

/-- The section that the heading leads to. -/
def target : Block → Section
  | bounds _ _ => .bounds
  | binaries _ _ => .binary
  | generals _ _ => .general

/-- The heading. -/
def heading : (b : Block) → Heading b.target
  | bounds k _ => k
  | binaries k _ => k
  | generals k _ => k

/-- The lines behind the heading. -/
def body : Block → List Text
  | bounds _ statements => statements.map Bound.text
  | binaries _ lists => lists.map listText
  | generals _ lists => lists.map listText

/-- The variables that are declared. -/
def names : Block → List VariableName
  | bounds _ statements => statements.map Bound.name
  | binaries _ lists => lists.flatten
  | generals _ lists => lists.flatten

/-- What becomes of the columns. -/
def effects : Block → List Effect
  | bounds _ statements => statements.map fun b => (b.name.text, b.change.apply)
  | binaries _ lists => lists.flatMap (listEffects .binary)
  | generals _ lists => lists.flatMap (listEffects .integer)

theorem isLine_of_mem_body (b : Block) {l : Text} (h : l ∈ b.body) : IsLine l := by
  have hlists : ∀ lists : List (List VariableName), l ∈ lists.map listText → IsLine l := by
    intro lists hl
    obtain ⟨xs, -, rfl⟩ := List.mem_map.mp hl
    exact isLine_listText xs
  cases b with
  | bounds k statements =>
    obtain ⟨b, -, rfl⟩ := List.mem_map.mp h
    exact b.isLine
  | binaries k lists => exact hlists lists h
  | generals k lists => exact hlists lists h

/-- Declarations rename no variable. -/
theorem keepNames_effects (b : Block) : KeepNames b.effects := by
  have hlists : ∀ (kind : Variable.Kind) (lists : List (List VariableName)),
      KeepNames (lists.flatMap (listEffects kind)) := by
    intro kind lists e he
    obtain ⟨xs, -, hxs⟩ := List.mem_flatMap.mp he
    exact keepNames_listEffects kind xs e hxs
  cases b with
  | bounds k statements =>
    intro e he c
    obtain ⟨b, -, rfl⟩ := List.mem_map.mp he
    cases b.change <;> rfl
  | binaries k lists => exact hlists .binary lists
  | generals k lists => exact hlists .integer lists

end Block

/-! ## Documents -/

/-- The names that objectives and constraints mention, in the order of mention. -/
def mentionedIn (objectives : List Objective) (constraints : List Constraint) : List Text :=
  objectives.flatMap Objective.mentions ++ constraints.flatMap Constraint.mentions

/-- A document: the words and keywords in any case, at least one objective, and declarations of
    mentioned variables only. -/
structure Document where
  direction : Direction
  word : Text
  directed : word.lower ∈ direction.spellings
  objectives : List Objective
  ne_nil : objectives ≠ []
  keyword : Text
  opens : keyword.lower ∈ Keyword.constraintsSpellings
  constraints : List Constraint
  blocks : List Block
  ending : Heading .finish
  mentioned : ∀ b ∈ blocks, ∀ x ∈ b.names, x.text ∈ mentionedIn objectives constraints

/-- The lines of the declaring sections, and the end marker. -/
def declarationLines (ending : Heading .finish) (blocks : List Block) : List Text :=
  blocks.flatMap (fun b => b.heading.text :: b.body) ++ [ending.text]

namespace Document

/-- The lines: one statement on each. -/
def lines (d : Document) : List Text :=
  d.word :: (d.objectives.map Objective.text ++
    d.keyword :: (d.constraints.map Constraint.text ++ declarationLines d.ending d.blocks))

/-- The document as a text. -/
def write (d : Document) : Text := d.lines.flatMap fun l => l ++ ['\n']

/-! ## Meaning -/

/-- The names that are mentioned, in the order of mention. -/
def mentions (d : Document) : List Text := mentionedIn d.objectives d.constraints

/-- What the declarations make of the columns, one after the other. -/
def effects (d : Document) : List Effect := d.blocks.flatMap Block.effects

/-- The columns in the order of first mention, each changed by what was declared about it. -/
def columns (d : Document) : List Column :=
  d.mentions.eraseDups.map fun name => columnBehind d.effects { name := name }

/-- The line of the first constraint, behind the direction, the objectives and the keyword. -/
def firstConstraintLine (d : Document) : Nat := d.objectives.length + 3

/-- The model that the document describes; or the first variable whose bounds are inverted, a fault
    that is met behind the last line. -/
def meaning (d : Document) : Except Fault Model :=
  match d.columns.find? fun c => c.finalLower > c.finalUpper with
  | some c =>
    .error
      { cause := .invertedBounds c.name c.finalLower c.finalUpper
        line := d.lines.length
        within := some .finish }
  | none =>
    .ok
      { objectives := d.objectives.map (Objective.objective d.direction)
        constraints := (d.constraints.zipIdx d.firstConstraintLine).map fun (c, n) =>
          c.constraint n
        vars := d.columns.map fun c => ⟨c.name, c.finalLower, c.finalUpper, c.kind⟩ }

end Document

/-! ### A document -/

/-- A document with an objective, a constraint, a bound and a binary variable. -/
def sample : Document :=
  let x : VariableName := ⟨⟨"x".toList, by decide⟩, by decide⟩
  let y : VariableName := ⟨⟨"y".toList, by decide⟩, by decide⟩
  { direction := .maximize
    word := "Max".toList
    directed := by decide
    objectives := [⟨⟨"cost".toList, by decide⟩, [⟨.plus, none, x⟩, ⟨.minus, none, y⟩]⟩]
    ne_nil := List.cons_ne_nil _ _
    keyword := "Subject To".toList
    opens := by decide
    constraints :=
      [ { name := ⟨"c".toList, by decide⟩
          terms := [⟨.plus, none, x⟩, ⟨.plus, none, x⟩]
          ne_nil := List.cons_ne_nil _ _
          operator := ⟨"<=".toList, .le, by decide⟩
          rhs := ⟨"4".toList, 4.0, (Text.isTrimmed_iff _).mpr (by decide), rfl⟩ } ]
    blocks :=
      [ .bounds ⟨"bounds".toList, by decide⟩ [.free x, .free y],
        .binaries ⟨"BIN".toList, by decide⟩ [[y]] ]
    ending := ⟨"end".toList, by decide⟩
    mentioned := by decide }

example : sample.write =
    ("Max\ncost: + x - y\nSubject To\nc: + x + x <= 4\n" ++
      "bounds\nx free\ny free\nBIN\ny\nend\n").toList := by
  decide

example : sample.meaning.toOption = some
    { objectives := [⟨"cost".toList, .maximize, [("x".toList, 1.0), ("y".toList, -1.0)]⟩]
      constraints := [⟨"c".toList, 4, [("x".toList, 2.0)], .le, 4.0⟩]
      vars := [⟨"x".toList, -Quantity.infinity, Quantity.infinity, .continuous⟩,
        ⟨"y".toList, 0.0, 1.0, .binary⟩] } := by
  decide +kernel

/-! ## Lines of documents -/

namespace Document

/-- The word of the direction is a word in the sense of texts. -/
theorem isWord_word (d : Document) : d.word.IsWord := isWord_of_direction d.directed

theorem isLine_word (d : Document) : IsLine d.word := isLine_of_direction d.directed

/-- **The word names its direction.** -/
theorem ofWord?_word (d : Document) : Direction.ofWord? d.word = some d.direction := by
  have hall : ∀ direction : Direction, ∀ s ∈ direction.spellings,
      [Direction.maximize, .minimize].find? (fun other => other.spellings.contains s) =
        some direction := by
    intro direction
    cases direction <;> decide
  exact hall d.direction _ d.directed

theorem keyword_spec (d : Document) :
    IsLine d.keyword.lower ∧ d.keyword.lower ≠ [] ∧ Keyword.normal d.keyword = d.keyword.lower :=
  spelling_spec (List.mem_append_left _ d.opens)

theorem isLine_keyword (d : Document) : IsLine d.keyword := isLine_of_lower d.keyword_spec.1

theorem keyword_ne_nil (d : Document) : d.keyword ≠ [] :=
  fun h => d.keyword_spec.2.1 (by rw [h]; rfl)

/-- **The keyword opens the constraints.** -/
theorem opensConstraints_keyword (d : Document) : Keyword.opensConstraints d.keyword = true := by
  unfold Keyword.opensConstraints
  rw [d.keyword_spec.2.2]
  exact List.contains_iff_mem.mpr d.opens

end Document

theorem isLine_of_mem_declarationLines {ending : Heading .finish} {blocks : List Block} {l : Text}
    (h : l ∈ declarationLines ending blocks) : IsLine l := by
  rcases List.mem_append.mp h with h | h
  · obtain ⟨b, -, hb⟩ := List.mem_flatMap.mp h
    rcases List.mem_cons.mp hb with rfl | hb
    · exact b.heading.isLine
    · exact b.isLine_of_mem_body hb
  · rw [List.mem_singleton.mp h]
    exact ending.isLine

/-- **Every line of a document is a line**, so that it is read as it was written. -/
theorem Document.isLine_of_mem_lines (d : Document) {l : Text} (h : l ∈ d.lines) : IsLine l := by
  rcases List.mem_cons.mp h with rfl | h
  · exact d.isLine_word
  · rcases List.mem_append.mp h with h | h
    · obtain ⟨o, -, rfl⟩ := List.mem_map.mp h
      exact o.isLine
    · rcases List.mem_cons.mp h with rfl | h
      · exact d.isLine_keyword
      · rcases List.mem_append.mp h with h | h
        · obtain ⟨c, -, rfl⟩ := List.mem_map.mp h
          exact c.isLine
        · exact isLine_of_mem_declarationLines h

/-- **The lines of the text are the lines that were written.** -/
theorem Document.lines_write (d : Document) : d.write.lines = d.lines :=
  Text.lines_flatMap fun _ hl hfeed => ((d.isLine_of_mem_lines hl).unbroken _ hfeed).2 rfl

end LinearProgram.Written

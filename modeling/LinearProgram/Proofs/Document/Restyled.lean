/-
  Restyled — layout and the spelling of keywords do not matter.

  1. **Restyling** — `Section.Restyles` relates the lines of a document to lines that say the same:
     void lines inserted anywhere, blanks around a line, comments behind it, and keywords and the
     word of the direction spelled otherwise. What is a keyword depends on the section.

  2. **Steps** — a keyword has one effect in all its spellings (`Progress.step_respelled`), and a
     void line has none.

  3. **Documents** — so the reading of a restyled document is the renumbered reading of the document
     (`Progress.run_restyled`): it has the same outcome, on the new lines
     (`Source.model_of_restyled`).
-/

import LinearProgram.Proofs.Document.Place
import LinearProgram.Proofs.Document.Renumbering
import LinearProgram.Proofs.Text.Content
import LinearProgram.Proofs.Text.Spelling

namespace LinearProgram

/-! ## Restyling -/

namespace Section

/-- The line is a keyword in the section, and leads to another one. In front of the direction there
    are no keywords. -/
inductive Switches : Section → Text → Section → Prop where
  | opening {spelling text : Text} (h : spelling ∈ Keyword.constraintsSpellings)
      (hspells : Keyword.Spells spelling text) : Switches .objective text .constraints
  | keyword {s target : Section} {spelling text : Text} (hs : s ≠ .start)
      (h : (spelling, target) ∈ Keyword.sectionSpellings)
      (hspells : Keyword.Spells spelling text) : Switches s text target

/-- A line of the section and the same line with another spelling of its keyword or direction. -/
inductive Respells : Section → Text → Text → Prop where
  | same (s : Section) (text : Text) : Respells s text text
  | keyword {s target : Section} {text text' : Text} (h : s.Switches text target)
      (h' : s.Switches text' target) : Respells s text text'
  | direction {direction : Direction} {word word' : Text} (h : direction.Spells word)
      (h' : direction.Spells word') : Respells .start word word'
  | directed {direction : Direction} {word word' gap gap' rest rest' : Text}
      (h : direction.Spells word) (h' : direction.Spells word')
      (hgap : Text.isBlankOnly gap = true ∧ gap ≠ [])
      (hgap' : Text.isBlankOnly gap' = true ∧ gap' ≠ [])
      (hrest : rest.IsTrimmed ∧ rest ≠ []) (hrest' : rest'.IsTrimmed ∧ rest' ≠ [])
      (hbody : Respells .objective rest rest') :
      Respells .start (word ++ gap ++ rest) (word' ++ gap' ++ rest')

/-- A raw line of the section in another style: with blanks in front of it, and blanks and a comment
    behind it; and perhaps with its content spelled otherwise. -/
inductive RestylesLine (s : Section) (raw : Text) : Text → Prop where
  | padded {front tail : Text} (hfront : Text.isBlankOnly front = true) (htail : tail.IsVoid) :
      RestylesLine s raw (front ++ raw ++ tail)
  | respelled {front core tail : Text} (hfront : Text.isBlankOnly front = true)
      (htail : tail.IsVoid) (hcore : core.content = core) (h : s.Respells raw.content core) :
      RestylesLine s raw (front ++ core ++ tail)

/-- The lines of a document from the section on, how many void lines are inserted in front of each
    of them, and the restyled lines. -/
inductive Restyles : Section → List Text → List Nat → List Text → Prop where
  | nothing {s : Section} {voids : List Text} (hvoids : ∀ v ∈ voids, v.IsVoid) :
      Restyles s [] [] voids
  | line {s : Section} {raw raw' : Text} {raws raws' voids : List Text} {gaps : List Nat}
      (hvoids : ∀ v ∈ voids, v.IsVoid) (hline : s.RestylesLine raw raw')
      (hrest : Restyles (s.behind raw.content) raws gaps raws') :
      Restyles s (raw :: raws) (voids.length :: gaps) (voids ++ raw' :: raws')

/-- The content of a restyled line is the content of the line, or spells it otherwise. -/
theorem RestylesLine.respells {s : Section} {raw raw' : Text} (h : s.RestylesLine raw raw') :
    s.Respells raw.content raw'.content := by
  cases h with
  | padded hfront htail =>
    rw [Text.content_padded raw hfront htail]
    exact .same s _
  | respelled hfront htail hcore h =>
    rw [Text.content_padded _ hfront htail, hcore]
    exact h

/-- **A keyword is found in all its spellings.** -/
theorem Switches.reads {s target : Section} {text : Text} (h : s.Switches text target) :
    (s = .objective ∧ Keyword.opensConstraints text = true ∧ target = .constraints) ∨
      (s ≠ .start ∧ Keyword.section? text = some target) := by
  cases h with
  | opening h hspells => exact Or.inl ⟨rfl, Keyword.opensConstraints_of_spells h hspells, rfl⟩
  | keyword hs h hspells => exact Or.inr ⟨hs, Keyword.section?_of_spells h hspells⟩

end Section

/-- How many lines are inserted in front of the `n`-th line, if as many as `gaps` tells are inserted
    in front of each. -/
def Line.inserted : List Nat → Nat → Nat
  | _, 0 => 0
  | [], _ + 1 => 0
  | gap :: gaps, n + 1 => gap + inserted gaps n

/-- The lines behind the inserted ones. -/
def Renumbering.inserting (gaps : List Nat) : Renumbering where
  apply n := n + Line.inserted gaps n
  apply_eq_zero_iff n := by
    constructor
    · intro h
      omega
    · rintro rfl
      rw [Line.inserted]

/-! ## Steps -/

/-- A word, a gap and a trimmed rest are cut apart again. -/
theorem Text.IsWord.firstWord?_append {w gap rest : Text} (hw : w.IsWord)
    (hgap : isBlankOnly gap = true ∧ gap ≠ []) (hrest : rest.IsTrimmed ∧ rest ≠ []) :
    (w ++ gap ++ rest).firstWord? = some (w, some rest) := by
  obtain ⟨hblanks, hgapne⟩ := hgap
  obtain ⟨htrimmed, hrestne⟩ := hrest
  have hall : ∀ c ∈ w, (! isBlank c) = true := by
    intro c hc
    rw [hw.not_blank c hc]
    rfl
  have hstart : trimStart (w ++ gap ++ rest) = w ++ (gap ++ rest) := by
    have h := hw.trimStart_append [] (gap ++ rest)
    rw [List.append_assoc]
    exact h
  -- the first word stops at the first blank of the gap
  have hstop : ∀ p : Char → Bool, (∀ c, isBlank c = true → p c = false) →
      (gap ++ rest).takeWhile p = [] ∧ (gap ++ rest).dropWhile p = gap ++ rest := by
    intro p hp
    cases gap with
    | nil => exact absurd rfl hgapne
    | cons b gap =>
      have hb : p b = false := hp b (List.all_eq_true.mp hblanks b List.mem_cons_self)
      constructor
      · rw [List.cons_append, List.takeWhile_cons_of_neg (by rw [hb]; decide)]
      · rw [List.cons_append, List.dropWhile_cons_of_neg (by rw [hb]; decide)]
  obtain ⟨htake, hdrop⟩ := hstop (! isBlank ·) fun c hc => by rw [hc]; rfl
  unfold Text.firstWord?
  rw [hstart]
  dsimp only
  rw [List.takeWhile_append_of_pos hall, List.dropWhile_append_of_pos hall, htake, hdrop,
    trimStart_append_of_blankOnly rest hblanks, trimStart_of_head htrimmed.head, List.append_nil]
  cases w with
  | nil => exact absurd rfl hw.ne_nil
  | cons c w =>
    cases rest with
    | nil => exact absurd rfl hrestne
    | cons d rest => rfl

namespace Progress

/-- Behind a keyword in the objective section. -/
theorem step_objectives_switch {l : Line} {target : Section}
    (h : Section.objective.Switches l.text target) (s : Objectives.State) :
    (objectives s).step l =
      if target = .constraints then .constraints { draft := beforeConstraints s }
      else behindKeyword l.number (Objectives.complete (s.draft.switch target)) := by
  rcases h.reads with ⟨-, hopens, rfl⟩ | ⟨-, hkeyword⟩
  · rw [if_pos rfl, step_opensConstraints hopens]
  · have htarget : target ≠ .constraints := by
      rintro rfl
      rcases Section.declares_of_keyword hkeyword with (h | h | h) | h <;> cases h
    rw [if_neg htarget, step_objectives_section hkeyword]

/-- The direction is looked for in front of everything else. -/
theorem eq_start {p : Progress} (hp : p.Stands) (hs : p.state.draft.stage = .start)
    (hended : p.isEnded = false) : p = .start := by
  cases p with
  | start => rfl
  | objectives s => cases hs.symm.trans hp.1
  | constraints s => cases hs.symm.trans hp.1
  | declarations d => rcases hp with hp | hp | hp <;> cases hp.symm.trans hs
  | ended result => cases hended

/-- **Spelling does not matter**: a respelled line leads to where the line leads. -/
theorem step_respelled {p : Progress} (hp : p.Stands) {text text' : Text}
    (h : p.state.draft.stage.Respells text text') (n : Nat) :
    p.step ⟨n, text'⟩ = p.step ⟨n, text⟩ := by
  cases hended : p.isEnded with
  | true =>
    obtain ⟨result, rfl⟩ := eq_ended hended
    rfl
  | false =>
    generalize hs : p.state.draft.stage = s at h
    induction h generalizing p with
    | same s text => rfl
    | keyword h h' =>
      cases p with
      | start =>
        rw [← hs] at h
        rcases h.reads with ⟨hobjective, -⟩ | ⟨hstart, -⟩
        · cases hobjective
        · exact absurd rfl hstart
      | objectives state =>
        rw [← hs, show (objectives state).state.draft.stage = .objective from hp.1] at h h'
        rw [step_objectives_switch h', step_objectives_switch h]
      | constraints state =>
        rw [← hs, show (constraints state).state.draft.stage = .constraints from hp.1] at h h'
        obtain ⟨-, hkeyword⟩ := h.reads.resolve_left nofun
        obtain ⟨-, hkeyword'⟩ := h'.reads.resolve_left nofun
        rw [step_constraints_section hkeyword', step_constraints_section hkeyword]
      | declarations d =>
        have hd : ¬ d.stage = .objective := by
          intro hd
          rcases hp with hp | hp | hp <;> cases hp.symm.trans hd
        rw [← hs] at h h'
        obtain ⟨-, hkeyword⟩ := h.reads.resolve_left fun hr => hd hr.1
        obtain ⟨-, hkeyword'⟩ := h'.reads.resolve_left fun hr => hd hr.1
        rw [step_declarations_section hkeyword', step_declarations_section hkeyword]
      | ended result => rfl
    | direction h h' =>
      have hword := Direction.isWord_of_spells h
      have hword' := Direction.isWord_of_spells h'
      rw [eq_start hp hs hended,
        step_start hword'.ne_nil hword'.firstWord? (Direction.ofWord?_of_spells h'),
        step_start hword.ne_nil hword.firstWord? (Direction.ofWord?_of_spells h)]
    | @directed direction word word' gap gap' rest rest' h h' hgap hgap' hrest hrest' hbody ih =>
      have hword := Direction.isWord_of_spells h
      have hword' := Direction.isWord_of_spells h'
      have hstays : Objectives.State.Stays { draft := Session.directed direction } :=
        ⟨rfl, Option.some_ne_none direction⟩
      have hne : ∀ {w g r : Text}, w.IsWord → w ++ g ++ r ≠ [] := by
        intro w g r hw h0
        rw [List.append_assoc] at h0
        exact hw.ne_nil (List.append_eq_nil_iff.mp h0).1
      rw [eq_start hp hs hended,
        step_start (hne hword') (hword'.firstWord?_append hgap' hrest')
          (Direction.ofWord?_of_spells h'),
        step_start (hne hword) (hword.firstWord?_append hgap hrest)
          (Direction.ofWord?_of_spells h)]
      exact ih (p := .objectives { draft := Session.directed direction }) hstays rfl rfl

/-- Void lines lead nowhere. -/
theorem run_void {voids : List Text} (h : ∀ v ∈ voids, v.IsVoid) (p : Progress) (n : Nat) :
    p.run (Line.numbered n voids) = p := by
  induction voids generalizing n with
  | nil => rfl
  | cons v voids ih =>
    rw [Line.numbered, run_cons, (h v List.mem_cons_self).content_eq_nil, step_blank]
    exact ih (fun u hu => h u (List.mem_cons_of_mem v hu)) (n + 1)

theorem isEnded_renumbered (f : Renumbering) (p : Progress) :
    (p.renumbered f).isEnded = p.isEnded := by
  cases p <;> rfl

theorem stage_renumbered (f : Renumbering) (p : Progress) :
    (p.renumbered f).state.draft.stage = p.state.draft.stage := by
  cases p <;> rfl

/-- **A restyled document is read on new lines as the document is.** By induction on the lines that
    are left: `n` lines of the document correspond to `n'` lines of the restyled one. -/
theorem run_restyled {s : Section} {raws raws' : List Text} {gaps : List Nat}
    (h : s.Restyles raws gaps raws') {p : Progress} (hp : p.Stands)
    (hs : p.isEnded = false → p.state.draft.stage = s) {f : Renumbering} {n n' : Nat}
    (hf : ∀ i, 0 < i → f.apply (n + i) = n' + i + Line.inserted gaps i) :
    (p.renumbered f).run (Line.numbered n' raws') =
      (p.run (Line.numbered n raws)).renumbered f := by
  induction h generalizing p n n' with
  | nothing hvoids => exact run_void hvoids _ _
  | @line s raw raw' raws raws' voids gaps hvoids hline hrest ih =>
    cases hended : p.isEnded with
    | true => rw [run_of_isEnded hended, run_of_isEnded (by rw [isEnded_renumbered, hended])]
    | false =>
      have hnext : f.apply (n + 1) = n' + voids.length + 1 := by
        have h1 := hf 1 Nat.one_pos
        rw [Line.inserted, Line.inserted] at h1
        omega
      have hstep : (p.renumbered f).step ⟨n' + voids.length + 1, raw'.content⟩ =
          (p.step ⟨n + 1, raw.content⟩).renumbered f := by
        have hrespells := hline.respells
        rw [← hs hended] at hrespells
        rw [← step_respelled hp hrespells, step_renumbered, ← hnext]
        rfl
      have harrives := arrives_step hp hended (l := ⟨n + 1, raw.content⟩) (Nat.succ_pos n)
      rw [Line.numbered_append, run_append, run_void hvoids, Line.numbered, run_cons, hstep,
        Line.numbered, run_cons]
      refine ih ?_ ?_ ?_
      · cases hp' : p.step ⟨n + 1, raw.content⟩ with
        | ended result => trivial
        | _ =>
          rw [hp'] at harrives
          exact harrives.1
      · intro hended'
        rw [(harrives.stands hended').2, hs hended]
      · intro i hi
        have hi' := hf (i + 1) (Nat.succ_pos i)
        rw [Line.inserted] at hi'
        rw [Nat.add_assoc n 1 i, Nat.add_comm 1 i, hi']
        omega

end Progress

/-! ## Documents -/

/-- The fault in a restyled document of `last` lines: on its new line, or on the last one if the
    lines have run out. -/
def Fault.restyled (f : Renumbering) (last : Nat) (fault : Fault) : Fault :=
  if fault.cause = .endOfInput then { fault with line := last } else fault.renumbered f

/-- **Layout and spelling do not matter.** A restyled text has the model of the text, its
    constraints on their new lines, or else the fault of the text on its new line. -/
theorem Source.model_of_restyled {t t' : Text} {gaps : List Nat}
    (h : Section.start.Restyles (ofText t).lines gaps (ofText t').lines) :
    (ofText t').model =
      match (ofText t).model with
      | .ok m => .ok (m.renumbered (.inserting gaps))
      | .error fault => .error (fault.restyled (.inserting gaps) (ofText t').lines.length) := by
  have hnumber : ∀ i, 0 < i →
      (Renumbering.inserting gaps).apply (0 + i) = 0 + i + Line.inserted gaps i := by
    intro i _
    rw [Nat.zero_add]
    rfl
  have hbehind : Progress.behind (ofText t').lines =
      (Progress.behind (ofText t).lines).renumbered (.inserting gaps) :=
    Progress.run_restyled h (p := .start) trivial (fun _ => rfl) hnumber
  cases hended : (Progress.behind (ofText t).lines).isEnded with
  | true =>
    obtain ⟨raws, raw, rest, -, -, -, harrives⟩ := exists_last_arrives hended
    rw [model_eq_behind, hbehind, behind_eq_ended hended]
    cases hmodel : (ofText t).model with
    | ok m => rfl
    | error fault =>
      rw [hmodel] at harrives
      have hcause : fault.cause ≠ .endOfInput := harrives.cause
      exact congrArg Except.error (if_neg hcause).symm
  | false =>
    rw [(ofText t).model_eq_behind, (ofText t').model_eq_behind, hbehind,
      Progress.outcome_eq hended, Progress.outcome_eq (by rw [Progress.isEnded_renumbered, hended]),
      Progress.stage_renumbered]
    rfl

/-- Two inserted lines, a synonym, capitals, blanks and a comment. -/
theorem Source.model_of_restyled_headings :
    ∃ gaps, Section.start.Restyles (ofText "max\nst\nc: x <= 1\nend".toList).lines gaps
        (ofText "\nMaximise \\ goal\nSuch  That\n \\ rows\n c: x <= 1\nEND".toList).lines ∧
      ∃ m, (ofText "max\nst\nc: x <= 1\nend".toList).model = .ok m ∧
        (ofText "\nMaximise \\ goal\nSuch  That\n \\ rows\n c: x <= 1\nEND".toList).model =
          .ok (m.renumbered (.inserting gaps)) ∧
        m.constraints.map Constraint.line = [3] ∧
        (m.renumbered (.inserting gaps)).constraints.map Constraint.line = [5] := by
  have hlines : (ofText "max\nst\nc: x <= 1\nend".toList).lines =
      ["max".toList, "st".toList, "c: x <= 1".toList, "end".toList] := by
    decide +kernel
  have hlines' :
      (ofText "\nMaximise \\ goal\nSuch  That\n \\ rows\n c: x <= 1\nEND".toList).lines =
        [[], [] ++ "Maximise".toList ++ " \\ goal".toList, [] ++ "Such  That".toList ++ [],
          " \\ rows".toList, " ".toList ++ "c: x <= 1".toList ++ [], [] ++ "END".toList ++ []] := by
    decide +kernel
  have hempty : Text.IsVoid [] := ⟨[], [], rfl, Or.inl rfl⟩
  have hgoal : Text.IsVoid " \\ goal".toList := ⟨[' '], " goal".toList, rfl, Or.inr (by decide)⟩
  have hrows : Text.IsVoid " \\ rows".toList := ⟨[' '], " rows".toList, rfl, Or.inr (by decide)⟩
  -- the three lines that are spelled otherwise
  have hdirection : Section.start.Respells (Text.content "max".toList) "Maximise".toList := by
    rw [show Text.content "max".toList = "max".toList by decide +kernel]
    exact .direction (show Direction.Spells .maximize _ by decide +kernel) (by decide +kernel)
  have hopening : Section.objective.Respells (Text.content "st".toList) "Such  That".toList := by
    rw [show Text.content "st".toList = "st".toList by decide +kernel]
    exact .keyword
      (.opening (show "st".toList ∈ _ by decide +kernel) (by decide +kernel))
      (.opening (show "such that".toList ∈ _ by decide +kernel) (by decide +kernel))
  have hending : Section.constraints.Respells (Text.content "end".toList) "END".toList := by
    rw [show Text.content "end".toList = "end".toList by decide +kernel]
    exact .keyword
      (.keyword nofun (show ("end".toList, Section.finish) ∈ _ by decide +kernel)
        (by decide +kernel))
      (.keyword nofun (show ("end".toList, Section.finish) ∈ _ by decide +kernel)
        (by decide +kernel))
  -- the lines from the last one on, from the constraint on, from the opening on
  have hlast : Section.constraints.Restyles ["end".toList] [0] [[] ++ "END".toList ++ []] :=
    @Section.Restyles.line .constraints _ _ _ _ [] _ nofun
      (.respelled rfl hempty (by decide +kernel) hending) (.nothing nofun)
  have hrow : Section.constraints.Restyles ["c: x <= 1".toList, "end".toList] [1, 0]
      [" \\ rows".toList, " ".toList ++ "c: x <= 1".toList ++ [], [] ++ "END".toList ++ []] := by
    refine @Section.Restyles.line .constraints _ _ _ _ [" \\ rows".toList] _
      (List.forall_mem_singleton.mpr hrows) (.padded (by decide +kernel) hempty) ?_
    rw [show Section.behind .constraints (Text.content "c: x <= 1".toList) = .constraints
      by decide +kernel]
    exact hlast
  have hbody : Section.objective.Restyles ["st".toList, "c: x <= 1".toList, "end".toList] [0, 1, 0]
      [[] ++ "Such  That".toList ++ [], " \\ rows".toList,
        " ".toList ++ "c: x <= 1".toList ++ [], [] ++ "END".toList ++ []] := by
    refine @Section.Restyles.line .objective _ _ _ _ [] _ nofun
      (.respelled rfl hempty (by decide +kernel) hopening) ?_
    rw [show Section.behind .objective (Text.content "st".toList) = .constraints
      by decide +kernel]
    exact hrow
  have hall : Section.start.Restyles (ofText "max\nst\nc: x <= 1\nend".toList).lines [1, 0, 1, 0]
      (ofText "\nMaximise \\ goal\nSuch  That\n \\ rows\n c: x <= 1\nEND".toList).lines := by
    rw [hlines, hlines']
    refine @Section.Restyles.line .start _ _ _ _ [[]] _ (List.forall_mem_singleton.mpr hempty)
      (.respelled rfl hgoal (by decide +kernel) hdirection) ?_
    rw [show Section.behind .start (Text.content "max".toList) = .objective by decide +kernel]
    exact hbody
  have hmodel : (ofText "max\nst\nc: x <= 1\nend".toList).model = .ok
      { objectives := [⟨"obj".toList, .maximize, []⟩]
        constraints := [⟨"c".toList, 3, [("x".toList, 1.0)], .le, 1.0⟩]
        vars := [⟨"x".toList, 0.0, Quantity.infinity, .continuous⟩] } := by
    decide +kernel
  have hmodel' := model_of_restyled hall
  rw [hmodel] at hmodel'
  exact ⟨_, hall, _, hmodel, hmodel', rfl, rfl⟩

end LinearProgram

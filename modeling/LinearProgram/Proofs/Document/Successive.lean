/-
  Successive — documents that are read one after the other in one session.

  1. **The first line** — whether a fresh session leaves its start is told by the document's first
     line with content: without a direction the draft is as empty as before, and with one the start
     is never seen again.

  2. **Sessions** — as long as no document had a direction, the next one is read as in a fresh
     session; once one had, every further document is refused.

  3. **Results** — so a model is the one of its own document, and at most one document of a session
     has a model (`Session.parseEach_apart`).
-/

import LinearProgram.Proofs.Document.Body
import LinearProgram.Proofs.Document.Calls

namespace LinearProgram

/-! ## The first line -/

/-- Skipping blank lines, the next line is the first one with content, if there is one. -/
theorem Cursor.nextOf_toOption (ending : Source.Ending) (lines : List Text) (n : Nat) :
    (nextOf ending true lines n).1.toOption = (lines.map Text.content).find? (! ·.isEmpty) := by
  induction lines generalizing n with
  | nil => rfl
  | cons raw rest ih =>
    unfold nextOf
    by_cases hraw : raw.content.isEmpty = true
    · rw [if_pos (by simp [hraw]), ih, List.map_cons, List.find?_cons_of_neg (by simp [hraw])]
    · rw [if_neg (by simp [hraw]), List.map_cons, List.find?_cons_of_pos (by simpa using hraw)]
      rfl

/-- Nothing leads back to the start. -/
theorem Section.ne_start_of_mayPrecede {s s' : Section} (hs : s ≠ .start)
    (h : Relation.ReflTransGen MayPrecede s s') : s' ≠ .start := by
  induction h with
  | refl => exact hs
  | @tail s₁ s₂ _ hstep _ =>
    rintro rfl
    have hmem : Section.start ∈ s₁.successors := hstep
    cases s₁ <;> exact absurd hmem (by decide)

namespace Session

/-- The direction of a document is the one of its first line with content. -/
theorem readDirection_ofSource (source : Source) :
    match source.direction? with
    | none => (∃ fault, (readDirection (ofSource source)).result = .error fault) ∧
        (readDirection (ofSource source)).session.draft = {}
    | some direction => (∃ rest, (readDirection (ofSource source)).result = .ok rest) ∧
        (readDirection (ofSource source)).session.draft = directed direction := by
  have hstage : (ofSource source).draft.stage ∈ [Section.start] := List.mem_singleton.mpr rfl
  have hfind := Cursor.nextOf_toOption source.ending source.lines 0
  unfold Source.direction?
  rw [← hfind]
  unfold readDirection
  rw [within_eq hstage]
  dsimp only [ofSource, Cursor.ofSource, Cursor.next]
  rcases Cursor.nextOf source.ending true source.lines 0 with ⟨fault | line, cursor⟩
  · exact ⟨⟨fault, rfl⟩, rfl⟩
  · dsimp only [Except.toOption, Option.bind_some, directionWords]
    cases line.firstWord? with
    | none => exact ⟨⟨_, rfl⟩, rfl⟩
    | some split =>
      obtain ⟨word, rest⟩ := split
      dsimp only [Option.bind_some]
      cases Direction.ofWord? word with
      | none => exact ⟨⟨_, rfl⟩, rfl⟩
      | some direction => exact ⟨⟨rest, rfl⟩, rfl⟩

/-! ## Sessions -/

variable {s : Session} {source : Source}

/-- Where nothing was read, a document has its own result. -/
theorem result_parse (hs : s.draft = {}) : (parse source s).result = source.model := by
  obtain ⟨draft, cursor⟩ := s
  subst hs
  rfl

/-- A document without a direction leaves nothing behind. -/
theorem draft_parse_undirected (hs : s.draft = {}) (h : source.direction? = none) :
    (parse source s).session.draft = {} := by
  obtain ⟨draft, cursor⟩ := s
  subst hs
  have hread := readDirection_ofSource source
  rw [h] at hread
  obtain ⟨⟨fault, hfault⟩, hdraft⟩ := hread
  show (Outcome.andThen (readDirection (ofSource source)) _).session.draft = {}
  unfold Outcome.andThen
  rw [hfault]
  exact hdraft

/-- A document with a direction leaves the start, whatever comes of it. -/
theorem stage_parse_directed (hs : s.draft = {}) {direction : Direction}
    (h : source.direction? = some direction) : (parse source s).session.draft.stage ≠ .start := by
  obtain ⟨draft, cursor⟩ := s
  subst hs
  have hread := readDirection_ofSource source
  have hcoherent := (readDirection_advances (s := ofSource source) Draft.coherent_empty).coherent
  rw [h] at hread
  obtain ⟨⟨rest, hrest⟩, hdraft⟩ := hread
  have hbody := (readBody_becomes hcoherent rest).grows.stage
  rw [hdraft] at hbody
  have hleft : (directed direction).stage ≠ .start := by
    show Section.objective ≠ .start
    decide
  have hstage := Section.ne_start_of_mayPrecede hleft hbody
  show (Outcome.andThen (readDirection (ofSource source)) _).session.draft.stage ≠ _
  unfold Outcome.andThen
  rw [hrest]
  exact hstage

/-- Behind the start, every document is refused. -/
theorem parse_refused (hs : s.draft.stage ≠ .start) (source : Source) :
    (parse source s).Refused [.start] s.draft := by
  have hdirection :
      (readDirection { s with cursor := .ofSource source }).Refused [.start] s.draft :=
    within_refused fun hmem => hs (List.mem_singleton.mp hmem)
  exact (hdirection.andThen _).located

/-! ## Results -/

/-- The results of documents that are read one after the other in a session. -/
def parseEach : Session → List Source → List (Except Fault Model)
  | _, [] => []
  | s, source :: sources => (parse source s).result :: parseEach (parse source s).session sources

/-- The session behind documents that were read in it one after the other. -/
def behindEach (s : Session) (sources : List Source) : Session :=
  sources.foldl (fun s source => (parse source s).session) s

/-- Each document is read in the session behind those in front of it. -/
theorem parseEach_getElem? (s : Session) (sources : List Source) (i : Nat) :
    (parseEach s sources)[i]? =
      sources[i]?.map fun source => (parse source (s.behindEach (sources.take i))).result := by
  induction sources generalizing s i with
  | nil => rfl
  | cons first sources ih =>
    cases i with
    | zero => rfl
    | succ i => exact ih (parse first s).session i

/-- Documents without a direction leave nothing behind. -/
theorem behindEach_undirected {sources : List Source} (hs : s.draft = {})
    (h : ∀ source ∈ sources, source.direction? = none) : (s.behindEach sources).draft = {} := by
  induction sources generalizing s with
  | nil => exact hs
  | cons first sources ih =>
    have hfirst := draft_parse_undirected hs (h first List.mem_cons_self)
    exact ih hfirst fun source hsource => h source (List.mem_cons_of_mem first hsource)

/-- The start that was left stays left. -/
theorem behindEach_started {sources : List Source} (hs : s.draft.stage ≠ .start) :
    (s.behindEach sources).draft.stage ≠ .start := by
  induction sources generalizing s with
  | nil => exact hs
  | cons first sources ih =>
    refine ih ?_
    rw [(parse_refused hs first).2]
    exact hs

/-- One document with a direction is enough to leave the start. -/
theorem behindEach_directed {sources : List Source} (hs : s.draft = {})
    (h : ∃ source ∈ sources, source.direction? ≠ none) :
    (s.behindEach sources).draft.stage ≠ .start := by
  induction sources generalizing s with
  | nil =>
    obtain ⟨source, hmem, -⟩ := h
    exact absurd hmem List.not_mem_nil
  | cons first sources ih =>
    cases hfirst : first.direction? with
    | some direction =>
      exact behindEach_started (s := (parse first s).session) (stage_parse_directed hs hfirst)
    | none =>
      obtain ⟨source, hmem, hsource⟩ := h
      rcases List.mem_cons.mp hmem with rfl | hmem
      · exact absurd hfirst hsource
      · exact ih (draft_parse_undirected hs hfirst) ⟨source, hmem, hsource⟩

variable {sources : List Source} {i j : Nat}

/-- In front of the first direction, each document is read as in a fresh session. -/
theorem parseEach_fresh (hsource : sources[i]? = some source)
    (h : ∀ earlier ∈ sources.take i, earlier.direction? = none) :
    (parseEach {} sources)[i]? = some source.model := by
  rw [parseEach_getElem?, hsource, Option.map_some, result_parse (behindEach_undirected rfl h)]

/-- Behind the first direction, each document is refused. -/
theorem parseEach_refused (hsource : sources[i]? = some source)
    (h : ∃ earlier ∈ sources.take i, earlier.direction? ≠ none) :
    ∃ fault, (parseEach {} sources)[i]? = some (.error fault) ∧
      fault.cause.kind = .sectionOrder := by
  obtain ⟨fault, hfault, hcause⟩ :=
    (parse_refused (behindEach_directed (s := {}) rfl h) source).1
  refine ⟨fault, ?_, ?_⟩
  · rw [parseEach_getElem?, hsource, Option.map_some, hfault]
  · rw [hcause]
    rfl

/-- A model was read in front of the first direction but its own. -/
theorem model_of_parseEach {m : Model} (h : (parseEach {} sources)[i]? = some (.ok m)) :
    ∃ source, sources[i]? = some source ∧ source.model = .ok m := by
  cases hsource : sources[i]? with
  | none =>
    rw [parseEach_getElem?, hsource] at h
    cases h
  | some source =>
    refine ⟨source, rfl, ?_⟩
    by_cases hdirected : ∃ earlier ∈ sources.take i, earlier.direction? ≠ none
    · obtain ⟨fault, hfault, -⟩ := parseEach_refused hsource hdirected
      rw [hfault] at h
      cases h
    · have hfresh := parseEach_fresh hsource fun earlier hmem =>
        Decidable.not_not.mp fun hne => hdirected ⟨earlier, hmem, hne⟩
      rw [hfresh] at h
      exact Option.some.inj h

/-- A document behind one with a direction is refused. -/
theorem parseEach_behind {earlier : Source} (hij : i < j) (hj : j < sources.length)
    (hearlier : sources[i]? = some earlier) (hdirection : earlier.direction? ≠ none) :
    ∃ fault, (parseEach {} sources)[j]? = some (.error fault) ∧
      fault.cause.kind = .sectionOrder := by
  have htake : (sources.take j)[i]? = some earlier := by
    rw [List.getElem?_take_of_lt hij, hearlier]
  exact parseEach_refused (List.getElem?_eq_getElem hj)
    ⟨earlier, List.mem_of_getElem? htake, hdirection⟩

/-- **No document leaks into another.** Of any documents that are read one after the other in one
    session, each model is the one that a fresh session has for its document, at most one document
    has a model, and every document behind one whose direction was read is refused for the order of
    sections. -/
theorem parseEach_apart (sources : List Source) :
    (∀ (i : Nat) (m : Model), (parseEach {} sources)[i]? = some (.ok m) →
        ∃ source, sources[i]? = some source ∧ source.model = .ok m) ∧
      (∀ (i j : Nat) (m m' : Model), (parseEach {} sources)[i]? = some (.ok m) →
        (parseEach {} sources)[j]? = some (.ok m') → i = j) ∧
      (∀ i j source direction, i < j → j < sources.length → sources[i]? = some source →
        source.direction? = some direction →
        ∃ fault, (parseEach {} sources)[j]? = some (.error fault) ∧
          fault.cause.kind = .sectionOrder) := by
  -- behind a model, there is no other
  have hlast : ∀ (i j : Nat) (m m' : Model), (parseEach {} sources)[i]? = some (.ok m) →
      (parseEach {} sources)[j]? = some (.ok m') → ¬ i < j := by
    intro i j m m' hi hj hij
    obtain ⟨source, hsource, hmodel⟩ := model_of_parseEach hi
    obtain ⟨source', hsource', -⟩ := model_of_parseEach hj
    obtain ⟨direction, hdirection⟩ := Source.exists_direction hmodel
    obtain ⟨hlength, -⟩ := List.getElem?_eq_some_iff.mp hsource'
    obtain ⟨fault, hfault, -⟩ := parseEach_behind hij hlength hsource
      (hdirection ▸ Option.some_ne_none direction)
    rw [hfault] at hj
    cases hj
  refine ⟨fun i m h => model_of_parseEach h, ?_, ?_⟩
  · intro i j m m' hi hj
    have hij := hlast i j m m' hi hj
    have hji := hlast j i m' m hj hi
    omega
  · intro i j source direction hij hj hsource hdirection
    exact parseEach_behind hij hj hsource (hdirection ▸ Option.some_ne_none direction)

/-- A text without a direction, one with a model, and the same once more. -/
example : (parseEach {} (["x\nend", "max x\nend", "max x\nend"].map fun t => .ofText t.toList)).map
    Except.toBool = [false, true, false] := by
  decide +kernel

end Session

end LinearProgram

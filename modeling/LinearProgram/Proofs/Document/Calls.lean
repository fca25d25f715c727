/-
  Calls — the readers of a session, called in any order.

  1. **Readers** — each reader insists on its section. Where it is refused it changes nothing; where
     it reads, and also where it fails in the middle of it, the draft becomes a coherent one that
     has grown, in the same section or in the one behind it (`Outcome.Advances`).

  2. **Sequences** — readers one after the other make the draft grow as well, and so does `parse`;
     they may pass through several sections (`Outcome.Becomes`).

  3. **Calls** — a session from which any readers were called, with any line sources and any lines
     that were read before, has a coherent draft; each further call moves it as its reader does,
     and makes it grow (`Session.after_calls`).
-/

import LinearProgram.Proofs.Document.Coherence

namespace LinearProgram

/-! ## Readers -/

/-- What each step keeps, and what follows from it where the steps end, holds of the last state. -/
theorem Cursor.feedOf_state {σ α : Type} {I J : σ → Prop} {step : Nat → Text → σ → Turn σ α}
    (hstep : ∀ n text s, I s →
      (step n text s).verdict.Leads I (fun s _ => J s) (fun s _ => J s))
    (hend : ∀ s, I s → J s) {ending : Source.Ending} {lines : List Text} {number : Nat} {s : σ}
    (h : I s) : J (feedOf ending step lines number s).state := by
  have hleads : (feedOf ending step lines number s).Leads
      (fun _ s _ => J s) (fun _ s _ => J s) :=
    feedOf_leads (P := fun _ => I) (Q := fun _ s _ => J s) (F := fun _ s _ => J s)
      (fun n text s => hstep (n + 1) text s) (fun _ s => hend s) h
  unfold Fed.Leads at hleads
  split at hleads
  · exact hleads
  · exact hleads

namespace Session

variable {α β σ : Type}

/-- The same, from a line that was read before if there is one. -/
theorem run_state {I J : σ → Prop} {first step : Nat → Text → σ → Cursor.Turn σ α}
    (hfirst : ∀ n text s, I s →
      (first n text s).verdict.Leads I (fun s _ => J s) (fun s _ => J s))
    (hstep : ∀ n text s, I s →
      (step n text s).verdict.Leads I (fun s _ => J s) (fun s _ => J s))
    (hend : ∀ s, I s → J s) {s : σ} (h : I s) (pending : Option Text) (cursor : Cursor) :
    J (run first step pending cursor s).state := by
  cases pending with
  | none => exact Cursor.feedOf_state hstep hend h
  | some text =>
    have hleads := hfirst cursor.number text s h
    dsimp only [run]
    rcases hturn : first cursor.number text s with ⟨verdict, events⟩
    rw [hturn] at hleads
    cases verdict with
    | more s' => exact Cursor.feedOf_state hstep hend hleads
    | done s' a => exact hleads
    | failed s' fault => exact hleads

/-- What comes of a reader that is refused: a fault about the order of sections, and no change. -/
def Outcome.Refused (sections : List Section) (d : Draft) (o : Outcome α) : Prop :=
  (∃ fault, o.result = .error fault ∧ fault.cause = .sectionOrder sections d.stage) ∧
    o.session.draft = d

theorem within_refused {sections : List Section} {reader : Session → Outcome α} {s : Session}
    (h : s.draft.stage ∉ sections) : (within sections reader s).Refused sections s.draft := by
  unfold within
  rw [if_neg h]
  exact ⟨⟨_, rfl, rfl⟩, rfl⟩

theorem Outcome.Refused.andThen {sections : List Section} {d : Draft} {o : Outcome α}
    (h : o.Refused sections d) (next : α → Session → Outcome β) :
    (o.andThen next).Refused sections d := by
  obtain ⟨⟨fault, hfault, hcause⟩, hdraft⟩ := h
  unfold Outcome.andThen
  rw [hfault]
  exact ⟨⟨fault, rfl, hcause⟩, hdraft⟩

theorem Outcome.Refused.located {sections : List Section} {d : Draft} {o : Outcome α}
    (h : o.Refused sections d) : o.located.Refused sections d := by
  obtain ⟨⟨fault, hfault, hcause⟩, hdraft⟩ := h
  unfold Outcome.located
  rw [hfault]
  exact ⟨⟨_, rfl, hcause⟩, hdraft⟩

/-- What one reader leaves behind, whether or not it has an answer. -/
def Outcome.Advances (d : Draft) (o : Outcome α) : Prop := d.Advances o.session.draft

/-- What readers one after the other leave behind. -/
def Outcome.Becomes (d : Draft) (o : Outcome α) : Prop := d.Becomes o.session.draft

/-- A reader is refused, or it reads. -/
theorem within_advances {sections : List Section} {reader : Session → Outcome α} {s : Session}
    (h : s.draft.Coherent)
    (hreader : s.draft.stage ∈ sections → (reader s).Advances s.draft) :
    (within sections reader s).Advances s.draft := by
  unfold within
  split
  · next hstage => exact hreader hstage
  · exact (Draft.Becomes.refl h).advances rfl

theorem andThen_becomes {d : Draft} {o : Outcome α} {next : α → Session → Outcome β}
    (h : o.Becomes d) (hnext : ∀ a s, s.draft.Coherent → (next a s).Becomes s.draft) :
    (o.andThen next).Becomes d := by
  obtain ⟨result, s, events⟩ := o
  cases result with
  | error fault => exact h
  | ok a => exact Draft.Becomes.trans h (hnext a s h.coherent)

variable {s : Session} (h : s.draft.Coherent)
include h

/-- A draft that is left as it is advances. -/
theorem unchanged_advances : s.draft.Advances s.draft := (Draft.Becomes.refl h).advances rfl

/-- At the start the direction is read, which is the only time that it is set. -/
theorem readDirection_advances : (readDirection s).Advances s.draft := by
  have hwords : ∀ n line, s.draft.stage = .start →
      s.draft.Advances (directionWords n line s.draft).2.1 := by
    intro n line hstage
    obtain ⟨hdirection, hobjectives⟩ := h.start hstage
    unfold directionWords
    split
    · exact unchanged_advances h
    · split
      · exact unchanged_advances h
      · next direction _ =>
        have hmay : s.draft.stage.MayPrecede .objective := by
          rw [hstage]
          exact List.mem_singleton.mpr rfl
        refine ⟨⟨⟨(fun hstart => nomatch hstart), fun _ => Option.some_ne_none direction, ?_,
          h.objectives, h.constraints⟩, ⟨.single hmay, Or.inl hdirection, List.prefix_rfl,
          List.prefix_rfl, List.prefix_rfl⟩⟩, .single hmay⟩
        intro o ho
        rw [show s.draft.objectives = [] from hobjectives] at ho
        exact absurd ho List.not_mem_nil
  refine within_advances h fun hstage => ?_
  rcases s.cursor.next true with ⟨line | line, cursor⟩
  · exact unchanged_advances h
  · exact hwords cursor.number line (List.mem_singleton.mp hstage)

theorem readObjectives_advances (pending : Option Text) :
    (readObjectives pending s).Advances s.draft := by
  refine within_advances h fun hstage => ?_
  by_cases hnone : s.draft.direction.isNone = true
  · rw [if_pos hnone]
    exact unchanged_advances h
  · rw [if_neg hnone]
    have hknown : s.draft.direction ≠ none := fun h0 => hnone (Option.isNone_iff_eq_none.mpr h0)
    have hobjective := List.mem_singleton.mp hstage
    have hfrom : Objectives.State.From s.draft { draft := s.draft } :=
      ⟨.refl h, hknown, hobjective, hobjective, fun hopen => nomatch hopen⟩
    have hstate := run_state (I := Objectives.State.From s.draft)
      (J := fun s' => s.draft.Advances s'.draft)
      (fun n text s' hs' => hs'.effect (Objectives.line_effect n text s'))
      (fun n text s' hs' => hs'.effect (Objectives.step_effect n text s'))
      (fun _ hs' => hs'.advances) hfrom pending s.cursor
    dsimp only
    split
    · have hcomplete := hstate.coherent.complete (hstate.grows.direction_ne_none hknown)
      exact hstate.trans_becomes hcomplete (Objectives.complete_stage _)
    · exact hstate

theorem readConstraints_advances (pending : Option Text) :
    (readConstraints pending s).Advances s.draft := by
  refine within_advances h fun hstage => ?_
  have hstage' : s.draft.stage = .constraints := List.mem_singleton.mp hstage
  have hfrom : Constraints.State.From s.draft { draft := s.draft } :=
    ⟨.refl h, h.started (by rw [hstage']; decide), hstage', hstage', fun c hc => nomatch hc⟩
  exact run_state (I := Constraints.State.From s.draft)
    (J := fun s' => s.draft.Advances s'.draft)
    (fun n text s' hs' => hs'.effect (Constraints.line_effect n text s'))
    (fun n text s' hs' => hs'.effect (Constraints.step_effect n text s'))
    (fun _ hs' => hs'.advances) hfrom pending s.cursor

theorem declare_advances (hstage : s.draft.stage.Declares) :
    (declare Declarations.step s).Advances s.draft :=
  Cursor.feedOf_state (I := Declarations.From s.draft) (J := fun d => s.draft.Advances d)
    (fun n text d hd => hd.effect (Declarations.step_effect n text d))
    (fun _ hd => hd.advances) ⟨.refl h, hstage, rfl⟩

theorem readBounds_advances : (readBounds s).Advances s.draft :=
  within_advances h fun hstage => declare_advances h (Or.inl (List.mem_singleton.mp hstage))

theorem readKinds_advances : (readKinds s).Advances s.draft := by
  refine within_advances h fun hstage => ?_
  have hdeclares : s.draft.stage.Declares := by
    rcases List.mem_cons.mp hstage with hbinary | hgeneral
    · exact Or.inr (Or.inl hbinary)
    · exact Or.inr (Or.inr (List.mem_singleton.mp hgeneral))
  split
  · exact unchanged_advances h
  · exact declare_advances h hdeclares

theorem assemble_advances : (assemble s).Advances s.draft := by
  refine within_advances h fun _ => ?_
  split
  · exact unchanged_advances h
  · exact unchanged_advances h

/-! ## Sequences -/

theorem readDeclaring_becomes : (readDeclaring s).Becomes s.draft := by
  unfold readDeclaring
  split
  · exact (readBounds_advances h).toBecomes
  · exact (readKinds_advances h).toBecomes

theorem readConstraintsIfAny_becomes (pending : Option Text) :
    (readConstraintsIfAny pending s).Becomes s.draft := by
  unfold readConstraintsIfAny
  split
  · exact (readConstraints_advances h pending).toBecomes
  · exact .refl h

/-- Section after section, by induction on the lines that are left. -/
theorem readDeclarations_becomes : (readDeclarations s).Becomes s.draft := by
  induction hk : s.cursor.lines.length using Nat.strongRecOn generalizing s with
  | ind k ih =>
    rw [readDeclarations_eq]
    split
    · exact .refl h
    · have hdeclaring := readDeclaring_becomes h
      have hlines := readDeclaring_lines_lt (s := s)
      revert hdeclaring hlines
      rcases readDeclaring s with ⟨fault | -, s', events⟩
      · exact fun hdeclaring _ => hdeclaring
      · intro hdeclaring hlines
        rw [hk] at hlines
        exact Draft.Becomes.trans hdeclaring (ih _ (hlines rfl) hdeclaring.coherent rfl)

/-- The readers behind the direction, one after the other. -/
theorem readBody_becomes (rest : Option Text) :
    ((readObjectives rest s).andThen fun pending s =>
      (readConstraintsIfAny pending s).andThen fun _ s =>
        (readDeclarations s).andThen fun _ s => assemble s).Becomes s.draft :=
  andThen_becomes (readObjectives_advances h rest).toBecomes
    fun pending _ h => andThen_becomes (readConstraintsIfAny_becomes h pending)
      fun _ _ h => andThen_becomes (readDeclarations_becomes h)
        fun _ _ h => (assemble_advances h).toBecomes

theorem parse_becomes (source : Source) : (parse source s).Becomes s.draft := by
  have hread : (readAll { s with cursor := .ofSource source }).Becomes s.draft :=
    andThen_becomes
      (readDirection_advances (s := { s with cursor := .ofSource source }) h).toBecomes
      fun rest _ h => readBody_becomes h rest
  exact hread

omit h

/-! ## Calls -/

/-- The readers that may be called, with the lines that were read before. -/
inductive Call where
  | parse (source : Source)
  | direction
  | objectives (pending : Option Text)
  | constraints (pending : Option Text)
  | bounds
  | kinds
  | assemble

/-- An outcome without its answer. -/
def Outcome.withoutAnswer (o : Outcome α) : Outcome Unit :=
  { o with result := o.result.map fun _ => () }

theorem Outcome.Refused.withoutAnswer {sections : List Section} {d : Draft} {o : Outcome α}
    (h : o.Refused sections d) : o.withoutAnswer.Refused sections d := by
  obtain ⟨⟨fault, hfault, hcause⟩, hdraft⟩ := h
  unfold Outcome.withoutAnswer
  rw [hfault]
  exact ⟨⟨fault, rfl, hcause⟩, hdraft⟩

namespace Call

/-- The sections in which a reader may be called. -/
def sections : Call → List Section
  | parse _ => [.start]
  | direction => [.start]
  | objectives _ => [.objective]
  | constraints _ => [.constraints]
  | bounds => [.bounds]
  | kinds => [.binary, .general]
  | assemble => [.finish]

/-- Calls the reader. -/
def make : Call → Session → Outcome Unit
  | parse source, s => (Session.parse source s).withoutAnswer
  | direction, s => (readDirection s).withoutAnswer
  | objectives pending, s => (readObjectives pending s).withoutAnswer
  | constraints pending, s => readConstraints pending s
  | bounds, s => readBounds s
  | kinds, s => readKinds s
  | assemble, s => (Session.assemble s).withoutAnswer

/-- Where a call may lead from a section. One reader stays in the section or goes on to one that may
    come directly behind it; reading a whole document may do so several times. -/
def Moves : Call → Section → Section → Prop
  | parse _ => Relation.ReflTransGen Section.MayPrecede
  | _ => Relation.ReflGen Section.MayPrecede

/-- **Whatever is called**, and whether or not it fails, the draft has grown, and the section has
    moved as it may. -/
theorem make_becomes (call : Call) {s : Session} (h : s.draft.Coherent) :
    (call.make s).Becomes s.draft ∧
      call.Moves s.draft.stage (call.make s).session.draft.stage := by
  have hreader : ∀ {α : Type} {o : Outcome α}, o.Advances s.draft → o.Becomes s.draft ∧
      Relation.ReflGen Section.MayPrecede s.draft.stage o.session.draft.stage :=
    fun ho => ⟨ho.toBecomes, ho.moves⟩
  cases call with
  | parse source =>
    have hparse := parse_becomes h source
    exact ⟨hparse, hparse.grows.stage⟩
  | direction => exact hreader (readDirection_advances h)
  | objectives pending => exact hreader (readObjectives_advances h pending)
  | constraints pending => exact hreader (readConstraints_advances h pending)
  | bounds => exact hreader (readBounds_advances h)
  | kinds => exact hreader (readKinds_advances h)
  | assemble => exact hreader (assemble_advances h)

/-- **A call outside its section is refused.** -/
theorem make_refused (call : Call) {s : Session} (h : s.draft.stage ∉ call.sections) :
    (call.make s).Refused call.sections s.draft := by
  cases call with
  | parse source =>
    have hdirection : (readDirection { s with cursor := .ofSource source }).Refused [.start] s.draft :=
      within_refused (s := { s with cursor := .ofSource source }) h
    exact (hdirection.andThen _).located.withoutAnswer
  | direction => exact (within_refused h).withoutAnswer
  | objectives pending => exact (within_refused h).withoutAnswer
  | constraints pending => exact within_refused h
  | bounds => exact within_refused h
  | kinds => exact within_refused h
  | assemble => exact (within_refused h).withoutAnswer

end Call

/-- The session after calls, one after the other. In front of each call the line source may be
    exchanged. -/
def after (s : Session) (calls : List (Option Cursor × Call)) : Session :=
  calls.foldl (fun s (cursor?, call) =>
    (call.make { s with cursor := cursor?.getD s.cursor }).session) s

theorem after_becomes {s : Session} (h : s.draft.Coherent) (calls : List (Option Cursor × Call)) :
    s.draft.Becomes (s.after calls).draft := by
  induction calls generalizing s with
  | nil => exact .refl h
  | cons entry calls ih =>
    obtain ⟨cursor?, call⟩ := entry
    have hcall : s.draft.Becomes
        (call.make { s with cursor := cursor?.getD s.cursor }).session.draft :=
      (call.make_becomes (s := { s with cursor := cursor?.getD s.cursor }) h).1
    exact hcall.trans (ih hcall.coherent)

/-- **At every point of any sequence of calls** the draft is coherent; a call outside its section is
    refused; a call of one reader leaves the section as it is or moves it to one that may come
    directly behind it, and only a call that reads a whole document may pass through several; and
    whatever is called later only makes the draft grow. Behind the end marker the section stays. -/
theorem after_calls (cursor : Cursor) (calls more : List (Option Cursor × Call)) :
    (after { cursor } calls).draft.Coherent ∧
      (∀ (call : Call) (source : Cursor),
        ((after { cursor } calls).draft.stage ∉ call.sections →
          (call.make { after { cursor } calls with cursor := source }).Refused call.sections
            (after { cursor } calls).draft) ∧
        call.Moves (after { cursor } calls).draft.stage
          (call.make { after { cursor } calls with cursor := source }).session.draft.stage) ∧
      (after { cursor } calls).draft.Grows (after { cursor } (calls ++ more)).draft ∧
      ((after { cursor } calls).draft.stage = .finish →
        (after { cursor } (calls ++ more)).draft.stage = .finish) := by
  have hcoherent := (after_becomes (s := { cursor }) Draft.coherent_empty calls).coherent
  have happend : after { cursor } (calls ++ more) = (after { cursor } calls).after more :=
    List.foldl_append
  have hgrows := (after_becomes hcoherent more).grows
  rw [happend]
  refine ⟨hcoherent, fun call source => ⟨fun h => call.make_refused h, ?_⟩, hgrows,
    fun hfinish => ?_⟩
  · have hmake := call.make_becomes (s := { after { cursor } calls with cursor := source }) hcoherent
    exact hmake.2
  · exact Section.eq_of_finish (hfinish ▸ hgrows.stage)

end Session

end LinearProgram

/-
  Course — what holds in the course of reading a whole document.

  1. **Invariants** — an `Invariant` says what holds of the state in each of the three parts of a
     document, and of the faults that are met, by the number of lines read. It is `Kept` if one line
     after the other keeps it, and the passages from part to part do.

  2. **Documents** — a kept invariant holds of the draft from which the model is assembled, and of
     the fault if there is one (`Invariant.Kept.parse`).

  The proof has to show that each part ends where the next one may begin: that no reader is ever
  called outside its section, without a direction, for a kind that its section does not give, or for
  the first word of a line without words. So none of these can be the fault of a document, whatever
  invariant is chosen.
-/

import LinearProgram.Proofs.Document.Step
import LinearProgram.Proofs.Feed
import LinearProgram.Proofs.Text.Trim

namespace LinearProgram

open Cursor (Verdict Follows Stands)

/-- The direction that the first line with content begins with. -/
def Source.direction? (source : Source) : Option Direction :=
  ((source.lines.map Text.content).find? (! ·.isEmpty)).bind fun line =>
    line.firstWord?.bind fun (word, _) => Direction.ofWord? word

/-! ## Invariants -/

/-- What holds of the states and the faults, given the number of lines read. -/
structure Invariant where
  objectives : Nat → Objectives.State → Prop
  constraints : Nat → Constraints.State → Prop
  declarations : Nat → Draft → Prop
  fault : Nat → Fault → Prop

/-- An invariant that reading a source keeps. -/
structure Invariant.Kept (I : Invariant) (source : Source) : Prop where
  ending : ∀ n, I.fault n { cause := source.ending.cause, line := n }
  undirected : ∀ n line, I.fault n { cause := .unrecognizedDirection line, line := n }
  start : ∀ n direction, source.direction? = some direction →
    I.objectives n { draft := { direction := some direction, stage := .objective } }
  objective : ∀ {m n text s v}, I.objectives m s → m < n → Objectives.Effect n text s v →
    v.Leads (I.objectives n) (fun s _ => I.objectives n s) (fun _ f => I.fault n f)
  constrained : ∀ m n s, I.objectives m s → s.draft.stage = .constraints →
    I.constraints n { draft := Objectives.complete s.draft }
  declared : ∀ n s, I.objectives n s → I.declarations n (Objectives.complete s.draft)
  constraint : ∀ {m n text s v}, I.constraints m s → m < n → Constraints.Effect n text s v →
    v.Leads (I.constraints n) (fun s _ => I.declarations n s.draft) (fun _ f => I.fault n f)
  declaration : ∀ {m n text d v}, I.declarations m d → m < n → Declarations.Effect n text d v →
    v.Leads (I.declarations n) (fun d _ => I.declarations n d) (fun _ f => I.fault n f)
  assembly : ∀ n d cause, I.declarations n d → d.stage = .finish →
    Session.modelOf d = .error cause → I.fault n { cause }

/-! ## Sections -/

/-- The sections in which variables are declared. -/
def Section.Declares (s : Section) : Prop := s = .bounds ∨ s = .binary ∨ s = .general

/-- A section keyword leads to declarations or to the end. -/
theorem Section.declares_of_keyword {text : Text} {target : Section}
    (h : Keyword.section? text = some target) : target.Declares ∨ target = .finish := by
  have hmem := Keyword.mem_of_section? h
  unfold Section.Declares
  simp only [List.mem_cons, List.not_mem_nil, or_false] at hmem
  rcases hmem with rfl | rfl | rfl | rfl <;> decide

/-- Where the objective section leads to. -/
def Section.FollowsObjectives (s : Section) : Prop := s = .constraints ∨ s.Declares ∨ s = .finish

/-! ### What a line does to section and direction -/

theorem Draft.mergeLast_stage (d : Draft) (cs : Coefficients) :
    (d.mergeLast cs).stage = d.stage := by
  unfold mergeLast
  split <;> rfl

theorem Draft.mergeLast_direction (d : Draft) (cs : Coefficients) :
    (d.mergeLast cs).direction = d.direction := by
  unfold mergeLast
  split <;> rfl

namespace Objectives

/-- The objective section, the direction being known. -/
def State.Stays (s : State) : Prop := s.draft.stage = .objective ∧ s.draft.direction ≠ none

theorem State.Stays.opened {s : State} (h : s.Stays) (name? : Option Text) :
    State.Stays (s.named name?).opened := by
  unfold State.opened State.named
  cases name? with
  | none =>
    dsimp only
    split
    · exact h
    · exact h
  | some name => exact h

theorem stays_effect {n : Nat} {text : Text} {s : State} {v : Verdict State (Option Text)}
    (h : s.Stays) (hv : Effect n text s v) :
    v.Leads State.Stays (fun s _ => s.draft.stage.FollowsObjectives) (fun _ _ => True) := by
  cases hv with
  | blank _ => exact h
  | keyword target ht =>
    rcases ht with ⟨-, rfl⟩ | ht
    · exact Or.inl rfl
    · exact Or.inr (Section.declares_of_keyword ht)
  | implicit _ => exact Or.inl rfl
  | misnamed cause _ => trivial
  | named name? _ =>
    cases name? with
    | none => exact h
    | some name => exact h
  | adds name? body terms _ _ =>
    have ho := h.opened name?
    refine ⟨?_, ?_⟩
    · show ((Draft.mention _ terms).mergeLast _).stage = _
      rw [Draft.mergeLast_stage]
      exact ho.1
    · show ((Draft.mention _ terms).mergeLast _).direction ≠ none
      rw [Draft.mergeLast_direction]
      exact ho.2
  | breaksOff _ _ _ _ _ _ => trivial

theorem complete_stage (d : Draft) : (complete d).stage = d.stage := by
  unfold complete
  split <;> rfl

end Objectives

namespace Constraints

theorem stays_effect {n : Nat} {text : Text} {s : State} {v : Verdict State Unit}
    (h : s.draft.stage = .constraints) (hv : Effect n text s v) :
    v.Leads (fun s => s.draft.stage = .constraints)
      (fun s _ => s.draft.stage.Declares ∨ s.draft.stage = .finish) (fun _ _ => True) := by
  have henters : ∀ {body s'}, Enters n text s body s' → s'.draft = s.draft := by
    intro body s' he
    cases he <;> rfl
  cases hv with
  | blank _ => exact h
  | keyword target ht _ => exact Section.declares_of_keyword ht
  | unfinished _ _ => trivial
  | misnamed _ _ => trivial
  | enters s' he =>
    show s'.draft.stage = _
    rw [henters he, h]
  | contributes body s' v he hv =>
    have hs' : s'.draft.stage = .constraints := by rw [henters he, h]
    cases hv with
    | unread _ _ => trivial
    | withoutLeft _ _ _ _ => trivial
    | adds _ _ _ _ => exact hs'
    | breaksOff _ _ _ _ _ _ _ => trivial
    | closes c d _ _ _ _ hc finished _ =>
      rcases hc with ⟨-, -, rfl⟩ | ⟨_, _, -, -, -, rfl⟩
      · exact hs'
      · exact hs'
    | unclosed _ _ _ _ _ _ _ _ _ => trivial

end Constraints

namespace Declarations

theorem stays_effect {n : Nat} {text : Text} {d : Draft} {v : Verdict Draft Unit}
    (h : d.stage.Declares) (hv : Effect n text d v) :
    v.Leads (fun d => d.stage.Declares) (fun d _ => d.stage.Declares ∨ d.stage = .finish)
      (fun _ _ => True) := by
  cases hv with
  | blank _ => exact h
  | keyword target ht => exact Section.declares_of_keyword ht
  | lists _ _ _ _ => exact h
  | unlisted _ _ _ _ _ => trivial
  | bounds _ _ _ => exact h
  | refused _ _ _ => trivial

end Declarations

/-! ## Readers -/

namespace Session

variable {α β : Type}

/-- What an outcome leads to. -/
def Outcome.Leads (Q : Session → α → Prop) (F : Session → Fault → Prop) (o : Outcome α) : Prop :=
  match o.result with
  | .ok a => Q o.session a
  | .error fault => F o.session fault

theorem Outcome.Leads.andThen {Q : Session → α → Prop} {R : Session → β → Prop}
    {F : Session → Fault → Prop} {o : Outcome α} {next : α → Session → Outcome β}
    (h : o.Leads Q F) (hnext : ∀ a s, Q s a → (next a s).Leads R F) :
    (o.andThen next).Leads R F := by
  obtain ⟨result, s, events⟩ := o
  cases result with
  | error fault => exact h
  | ok a => exact hnext a s h

theorem within_eq {sections : List Section} {reader : Session → Outcome α} {s : Session}
    (h : s.draft.stage ∈ sections) : within sections reader s = reader s := if_pos h

/-- The faults of an invariant, at a place of the source. -/
def Faulty (I : Invariant) (source : Source) (s : Session) (fault : Fault) : Prop :=
  s.cursor.Stands source ∧ I.fault s.cursor.number fault

variable {I : Invariant} {source : Source}

/-! ### The direction -/

/-- Skipping blank lines, the next line is the first one with content. -/
theorem nextOf_skip {ending : Source.Ending} {lines : List Text} {number : Nat}
    (h : Follows source ⟨lines, ending, number⟩) :
    match Cursor.nextOf ending true lines number with
    | (.ok line, c) => c.Follows source ∧ number < c.number ∧ line.IsTrimmed ∧ line ≠ [] ∧
        (lines.map Text.content).find? (! ·.isEmpty) = some line
    | (.error fault, c) => c.Stands source ∧ fault = { cause := ending.cause, line := c.number } := by
  induction lines generalizing number with
  | nil => exact ⟨h.tried, rfl⟩
  | cons raw rest ih =>
    unfold Cursor.nextOf
    by_cases hraw : raw.content.isEmpty = true
    · -- a line without content is skipped, and is none of those looked for
      rw [if_pos (by simp [hraw])]
      have hrest := ih h.next
      split at hrest
      · next line c hc =>
        obtain ⟨hf, hn, ht, hne, hfind⟩ := hrest
        refine ⟨hf, by omega, ht, hne, ?_⟩
        rw [List.map_cons, List.find?_cons_of_neg (by simp [hraw]), hfind]
      · exact hrest
    · rw [if_neg (by simp [hraw])]
      refine ⟨h.next, Nat.lt_succ_self _, Text.isTrimmed_trim _, ?_, ?_⟩
      · intro h0
        exact hraw (by rw [h0]; rfl)
      · rw [List.map_cons, List.find?_cons_of_pos (by simpa using hraw)]

theorem next_skip {c : Cursor} (h : c.Follows source) :
    match c.next true with
    | (.ok line, c') => c'.Follows source ∧ c.number < c'.number ∧ line.IsTrimmed ∧ line ≠ [] ∧
        (c.lines.map Text.content).find? (! ·.isEmpty) = some line
    | (.error fault, c') =>
      c'.Stands source ∧ fault = { cause := c.ending.cause, line := c'.number } :=
  nextOf_skip h

theorem readDirection_leads (hI : I.Kept source) :
    (readDirection { cursor := .ofSource source }).Leads
      (fun s _ => s.cursor.Follows source ∧ 0 < s.cursor.number ∧
        ∃ direction, source.direction? = some direction ∧
          s.draft = { direction := some direction, stage := .objective })
      (Faulty I source) := by
  have hnext := next_skip (Cursor.follows_ofSource source)
  have hstage : Section.start ∈ [Section.start] := List.mem_singleton.mpr rfl
  unfold readDirection
  rw [within_eq hstage]
  split at hnext
  · next line c hc =>
    obtain ⟨hf, hn, ht, hne, hfind⟩ := hnext
    simp only [hc, directionWords]
    cases hword : line.firstWord? with
    | none => exact absurd hword (Text.firstWord?_ne_none ht hne)
    | some split =>
      obtain ⟨word, rest⟩ := split
      simp only
      cases hdirection : Direction.ofWord? word with
      | none => exact ⟨hf.stands, hI.undirected _ _⟩
      | some direction =>
        refine ⟨hf, hn, direction, ?_, rfl⟩
        unfold Source.direction?
        have hfind' : (source.lines.map Text.content).find? (! ·.isEmpty) = some line := hfind
        rw [hfind', Option.bind_some, hword, Option.bind_some]
        exact hdirection
  · next fault c hc =>
    dsimp only
    rw [hc]
    obtain ⟨hs, rfl⟩ := hnext
    exact ⟨hs, hI.ending _⟩

/-! ### Objectives and constraints -/

/-- A run that may begin with a line that was read before. -/
theorem run_leads {σ : Type} {P : Nat → σ → Prop} {Q : Nat → σ → α → Prop}
    {F : Nat → σ → Fault → Prop} (first step : Nat → Text → σ → Cursor.Turn σ α)
    (pending : Option Text) {cursor : Cursor} (state : σ) (hf : cursor.Follows source)
    (hpos : 0 < cursor.number) (h : ∀ n, P n state)
    (hfirst : ∀ {m n text s}, P m s → m < n →
      (first n text s).verdict.Leads (P n) (Q n) (F n))
    (hstep : ∀ {m n text s}, P m s → m < n →
      (step n text s).verdict.Leads (P n) (Q n) (F n))
    (hending : ∀ n s, P n s → F n s ⟨source.ending.cause, n, none⟩) :
    (run first step pending cursor state).Leads Q F ∧
      (run first step pending cursor state).Proceeds source cursor.number := by
  have hfeed : ∀ s, P cursor.number s → (cursor.feed step s).Leads Q F ∧
      (cursor.feed step s).Proceeds source cursor.number := by
    intro s hs
    refine ⟨Cursor.feedOf_leads (fun n text s hs => hstep hs (Nat.lt_succ_self n)) ?_ hs,
      Cursor.feedOf_proceeds hf⟩
    rw [hf.ending]
    exact hending
  unfold run
  cases pending with
  | none => exact hfeed state (h _)
  | some text =>
    have hverdict : (first cursor.number text state).verdict.Leads _ _ _ := hfirst (h 0) hpos
    dsimp only
    split
    · next state' events hs =>
      rw [hs] at hverdict
      have hrest := hfeed state' hverdict
      exact ⟨hrest.1, hrest.2.stands, hrest.2.follows, hrest.2.number⟩
    · next state' a events hs =>
      rw [hs] at hverdict
      exact ⟨hverdict, hf.stands, fun _ _ => hf, Nat.le_refl _⟩
    · next state' fault events hs =>
      rw [hs] at hverdict
      exact ⟨hverdict, hf.stands, fun _ _ => hf, Nat.le_refl _⟩

/-- Two properties of a verdict hold together. -/
theorem leads_and {σ : Type} {P P' : σ → Prop} {Q Q' : σ → α → Prop} {F F' : σ → Fault → Prop}
    {v : Verdict σ α} (h : v.Leads P Q F) (h' : v.Leads P' Q' F') :
    v.Leads (fun s => P s ∧ P' s) (fun s a => Q s a ∧ Q' s a) (fun s f => F s f ∧ F' s f) := by
  cases v <;> exact ⟨h, h'⟩

/-- The objective section, read from its first line on. -/
theorem readObjectives_leads (hI : I.Kept source) (pending : Option Text) {s : Session}
    (hf : s.cursor.Follows source) (hpos : 0 < s.cursor.number) {direction : Direction}
    (hdirection : source.direction? = some direction)
    (hs : s.draft = { direction := some direction, stage := .objective }) :
    (readObjectives pending s).Leads
      (fun s _ => s.cursor.Follows source ∧ 0 < s.cursor.number ∧
        ∃ state : Objectives.State, s.draft = Objectives.complete state.draft ∧
          I.objectives s.cursor.number state ∧ state.draft.stage.FollowsObjectives)
      (Faulty I source) := by
  have hstage : s.draft.stage ∈ [Section.objective] := by
    rw [hs]
    exact List.mem_singleton.mpr rfl
  have hknown : s.draft.direction.isNone = false := by rw [hs]; rfl
  -- what is to be kept, and that the section stays the objective section until it is left
  have hline : ∀ {m n text} {state : Objectives.State} {v}, I.objectives m state ∧ state.Stays →
      m < n → Objectives.Effect n text state v → v.Leads
        (fun s => I.objectives n s ∧ s.Stays)
        (fun s _ => I.objectives n s ∧ s.draft.stage.FollowsObjectives)
        (fun _ f => I.fault n f ∧ True) :=
    fun h hmn hv => leads_and (hI.objective h.1 hmn hv) (Objectives.stays_effect h.2 hv)
  obtain ⟨hleads, hproceeds⟩ := run_leads
    (P := fun n state => I.objectives n state ∧ state.Stays)
    (Q := fun n state _ => I.objectives n state ∧ state.draft.stage.FollowsObjectives)
    (F := fun n _ fault => I.fault n fault ∧ True)
    Objectives.line Objectives.step pending { draft := s.draft } hf hpos
    (fun n => by
      rw [hs]
      exact ⟨hI.start n direction hdirection, rfl, by simp⟩)
    (fun h hmn => hline h hmn (Objectives.line_effect ..))
    (fun h hmn => hline h hmn (Objectives.step_effect ..))
    (fun n _ _ => ⟨hI.ending n, trivial⟩)
  unfold readObjectives
  rw [within_eq hstage, if_neg (by rw [hknown]; decide)]
  unfold Cursor.Fed.Leads at hleads
  dsimp only
  split
  · next answer hresult =>
    rw [hresult] at hleads
    exact ⟨hproceeds.follows answer hresult, Nat.lt_of_lt_of_le hpos hproceeds.number, _, rfl,
      hleads.1, hleads.2⟩
  · next fault hresult =>
    rw [hresult] at hleads
    exact ⟨hproceeds.stands, hleads.1⟩

/-- The constraints section, or nothing where the document has none. -/
theorem readConstraintsIfAny_leads (hI : I.Kept source) (pending : Option Text) {s : Session}
    (hf : s.cursor.Follows source) (hpos : 0 < s.cursor.number) {state : Objectives.State}
    (hs : s.draft = Objectives.complete state.draft) (h : I.objectives s.cursor.number state)
    (hstage : state.draft.stage.FollowsObjectives) :
    (readConstraintsIfAny pending s).Leads
      (fun s _ => s.cursor.Follows source ∧ I.declarations s.cursor.number s.draft ∧
        (s.draft.stage.Declares ∨ s.draft.stage = .finish))
      (Faulty I source) := by
  have hstage' : s.draft.stage = state.draft.stage := by rw [hs, Objectives.complete_stage]
  unfold readConstraintsIfAny
  split
  · next hconstraints =>
    have hmem : s.draft.stage ∈ [Section.constraints] := List.mem_singleton.mpr hconstraints
    have hline : ∀ {m n text} {state : Constraints.State} {v},
        I.constraints m state ∧ state.draft.stage = .constraints → m < n →
        Constraints.Effect n text state v → v.Leads
          (fun s => I.constraints n s ∧ s.draft.stage = .constraints)
          (fun s _ => I.declarations n s.draft ∧
            (s.draft.stage.Declares ∨ s.draft.stage = .finish))
          (fun _ f => I.fault n f ∧ True) :=
      fun h hmn hv => leads_and (hI.constraint h.1 hmn hv) (Constraints.stays_effect h.2 hv)
    obtain ⟨hleads, hproceeds⟩ := run_leads
      (P := fun n state => I.constraints n state ∧ state.draft.stage = .constraints)
      (Q := fun n state _ => I.declarations n state.draft ∧
        (state.draft.stage.Declares ∨ state.draft.stage = .finish))
      (F := fun n _ fault => I.fault n fault ∧ True)
      Constraints.line Constraints.step pending { draft := s.draft } hf hpos
      (fun n => by
        refine ⟨?_, hconstraints⟩
        rw [hs]
        exact hI.constrained _ n _ h (hstage'.symm.trans hconstraints))
      (fun h hmn => hline h hmn (Constraints.line_effect ..))
      (fun h hmn => hline h hmn (Constraints.step_effect ..))
      (fun n _ _ => ⟨hI.ending n, trivial⟩)
    unfold readConstraints
    rw [within_eq hmem]
    unfold Cursor.Fed.Leads at hleads
    unfold Outcome.Leads
    dsimp only
    split
    · next answer hresult =>
      rw [hresult] at hleads
      exact ⟨hproceeds.follows answer hresult, hleads.1, hleads.2⟩
    · next fault hresult =>
      rw [hresult] at hleads
      exact ⟨hproceeds.stands, hleads.1⟩
  · next hconstraints =>
    refine ⟨hf, ?_, ?_⟩
    · show I.declarations s.cursor.number s.draft
      rw [hs]
      exact hI.declared _ _ h
    · show s.draft.stage.Declares ∨ s.draft.stage = .finish
      rw [hstage'] at hconstraints ⊢
      exact hstage.resolve_left hconstraints

/-! ### Declarations and model -/

/-- In a declaring section, neither guard of the readers misfires. -/
theorem readDeclaring_eq {s : Session} (h : s.draft.stage.Declares) :
    readDeclaring s = declare Declarations.step s := by
  unfold readDeclaring readBounds readKinds
  rcases h with h | h | h
  · rw [if_pos h, within_eq (by rw [h]; decide)]
  · rw [if_neg (by rw [h]; decide), within_eq (by rw [h]; decide), if_neg (by rw [h]; decide)]
  · rw [if_neg (by rw [h]; decide), within_eq (by rw [h]; decide), if_neg (by rw [h]; decide)]

theorem readDeclaring_leads (hI : I.Kept source) {s : Session} (hf : s.cursor.Follows source)
    (h : I.declarations s.cursor.number s.draft) (hstage : s.draft.stage.Declares) :
    (readDeclaring s).Leads
      (fun s' _ => s'.cursor.lines.length < s.cursor.lines.length ∧ s'.cursor.Follows source ∧
        I.declarations s'.cursor.number s'.draft ∧
        (s'.draft.stage.Declares ∨ s'.draft.stage = .finish))
      (Faulty I source) := by
  have hlt : (readDeclaring s).result = .ok () →
      (readDeclaring s).session.cursor.lines.length < s.cursor.lines.length :=
    readDeclaring_lines_lt
  rw [readDeclaring_eq hstage] at hlt ⊢
  have hproceeds : (s.cursor.feed Declarations.step s.draft).Proceeds source s.cursor.number :=
    Cursor.feedOf_proceeds hf
  have hleads : (s.cursor.feed Declarations.step s.draft).Leads
      (fun n d _ => I.declarations n d ∧ (d.stage.Declares ∨ d.stage = .finish))
      (fun n _ fault => I.fault n fault ∧ True) := by
    refine Cursor.feedOf_leads (P := fun n d => I.declarations n d ∧ d.stage.Declares) ?_ ?_
      ⟨h, hstage⟩
    · intro n text d hd
      have hv := Declarations.step_effect (n + 1) text d
      exact leads_and (hI.declaration hd.1 (Nat.lt_succ_self n) hv)
        (Declarations.stays_effect hd.2 hv)
    · intro n d _
      rw [hf.ending]
      exact ⟨hI.ending n, trivial⟩
  unfold Cursor.Fed.Leads at hleads
  unfold declare at hlt ⊢
  unfold Outcome.Leads
  dsimp only at hlt ⊢
  split
  · next answer hresult =>
    rw [hresult] at hleads
    exact ⟨hlt hresult, hproceeds.follows answer hresult, hleads.1, hleads.2⟩
  · next fault hresult =>
    rw [hresult] at hleads
    exact ⟨hproceeds.stands, hleads.1⟩

/-- All declarations, by induction on the lines that are left. -/
theorem readDeclarations_leads (hI : I.Kept source) {s : Session} (hf : s.cursor.Follows source)
    (h : I.declarations s.cursor.number s.draft)
    (hstage : s.draft.stage.Declares ∨ s.draft.stage = .finish) :
    (readDeclarations s).Leads
      (fun s _ => s.cursor.Stands source ∧ I.declarations s.cursor.number s.draft ∧
        s.draft.stage = .finish)
      (Faulty I source) := by
  induction hk : s.cursor.lines.length using Nat.strongRecOn generalizing s with
  | ind k ih =>
    subst hk
    rw [readDeclarations_eq]
    split
    · next hfinish => exact ⟨hf.stands, h, hfinish⟩
    · next hfinish =>
      refine (readDeclaring_leads hI hf h (hstage.resolve_right hfinish)).andThen ?_
      rintro _ s' ⟨hlt, hf', h', hstage'⟩
      exact ih _ hlt hf' h' hstage' rfl

theorem assemble_leads (hI : I.Kept source) {s : Session} (hf : s.cursor.Stands source)
    (h : I.declarations s.cursor.number s.draft) (hstage : s.draft.stage = .finish) :
    (assemble s).Leads
      (fun s model => s.cursor.Stands source ∧ I.declarations s.cursor.number s.draft ∧
        modelOf s.draft = .ok model)
      (Faulty I source) := by
  unfold assemble
  rw [within_eq (List.mem_singleton.mpr hstage)]
  cases hmodel : modelOf s.draft with
  | ok model => exact ⟨hf, h, hmodel⟩
  | error cause => exact ⟨hf, hI.assembly _ _ _ h hstage hmodel⟩

theorem readAll_leads (hI : I.Kept source) :
    (readAll { cursor := .ofSource source }).Leads
      (fun s model => s.cursor.Stands source ∧ I.declarations s.cursor.number s.draft ∧
        modelOf s.draft = .ok model)
      (Faulty I source) := by
  refine (readDirection_leads hI).andThen ?_
  rintro rest s ⟨hf, hpos, direction, hdirection, hs⟩
  refine (readObjectives_leads hI rest hf hpos hdirection hs).andThen ?_
  rintro pending s₁ ⟨hf₁, hpos₁, state, hs₁, h₁, hstage₁⟩
  refine (readConstraintsIfAny_leads hI pending hf₁ hpos₁ hs₁ h₁ hstage₁).andThen ?_
  rintro _ s₂ ⟨hf₂, h₂, hstage₂⟩
  refine (readDeclarations_leads hI hf₂ h₂ hstage₂).andThen ?_
  rintro _ s₃ ⟨hf₃, h₃, hfinish⟩
  exact assemble_leads hI hf₃ h₃ hfinish

theorem Outcome.Leads.located {Q : Session → α → Prop} {F : Session → Fault → Prop}
    {o : Outcome α} (h : o.Leads Q F) :
    o.located.Leads Q fun s fault =>
      ∃ met, F s met ∧ fault = met.locatedBy s.draft.stage s.cursor.number := by
  obtain ⟨result, s, events⟩ := o
  cases result with
  | ok a => exact h
  | error fault => exact ⟨fault, h, rfl⟩

end Session

/-! ## Documents -/

/-- **A kept invariant holds at the end of a document**: of the draft that a model is assembled
    from, or else of the fault that was met, before its section and line are filled in. -/
theorem Invariant.Kept.parse {I : Invariant} {source : Source} (hI : I.Kept source) :
    (Session.parse source {}).Leads
      (fun s model => s.cursor.Stands source ∧ I.declarations s.cursor.number s.draft ∧
        Session.modelOf s.draft = .ok model)
      (fun s fault => ∃ met, Session.Faulty I source s met ∧
        fault = met.locatedBy s.draft.stage s.cursor.number) :=
  (Session.readAll_leads hI).located

end LinearProgram

/-
  Located — the lines that the outcome of a text comes from.

  1. **Open constraints** — an open constraint carries the line on which it was begun. That this is
     so is shown without the number that it carries: no constraint is open in front of that line,
     and one of its name is open behind every line from there on (`Progress.OpenSince`).

  2. **Faults** — every fault of a text is reported with the section that was reached and with the
     last line that was read, or, if a constraint is wrong as a whole, with the line on which that
     was begun (`Source.located_of_model`).

  3. **Outcomes** — nothing behind the last line that was read has a part in the outcome
     (`Source.model_of_agreeing`).
-/

import LinearProgram.Proofs.Document.Place

namespace LinearProgram

/-! ## Open constraints -/

namespace Progress

/-- A constraint of a name is begun on a line and open behind each of the lines from there to the
    end of the first lines `raws`. It may also be begun on the line that follows them. -/
structure OpenSince (raws : List Text) (name : Text) (line : Nat) : Prop where
  pos : 0 < line
  le : line ≤ raws.length + 1
  before : (behind (raws.take (line - 1))).state.current = none
  since : ∀ j, line ≤ j → j ≤ raws.length →
    ∃ c, (behind (raws.take j)).state.current = some c ∧ c.name = name

/-- Where no constraint is open, the next line may begin one. -/
theorem OpenSince.next {raws : List Text} (h : (behind raws).state.current = none) (name : Text) :
    OpenSince raws name (raws.length + 1) := by
  refine ⟨Nat.succ_pos _, Nat.le_refl _, ?_, ?_⟩
  · rw [Nat.add_sub_cancel, List.take_length]
    exact h
  · intro j hj hj'
    omega

theorem OpenSince.concat {raws : List Text} {name : Text} {line : Nat}
    (h : OpenSince raws name line) {raw : Text} {c : Constraint.Open}
    (hc : (behind (raws ++ [raw])).state.current = some c) (hname : c.name = name) :
    OpenSince (raws ++ [raw]) name line := by
  have hle := h.le
  have hlength : (raws ++ [raw]).length = raws.length + 1 := List.length_append
  refine ⟨h.pos, by omega, ?_, ?_⟩
  · rw [List.take_append_of_le_length (by omega)]
    exact h.before
  · intro j hj hj'
    rcases Nat.lt_or_ge raws.length j with hlast | hearlier
    · rw [List.take_of_length_le (by omega)]
      exact ⟨c, hc, hname⟩
    · rw [List.take_append_of_le_length hearlier]
      exact h.since j hj hearlier

/-- **An open constraint knows its line.** By induction on the lines: the step in which it was begun
    is the last one in front of which none was open. -/
theorem openSince_of_begun {raws : List Text} (h : (behind raws).isEnded = false) {name : Text}
    {line : Nat}
    (hbegun : Constraint.Begun (behind raws).state.current (raws.length + 1) name line) :
    OpenSince raws name line := by
  induction raws using List.reverseRecOn generalizing name line with
  | nil =>
    rcases hbegun with ⟨c, hc, -, -⟩ | ⟨hnone, rfl⟩
    · cases hc
    · exact OpenSince.next hnone name
  | append_singleton raws raw ih =>
    rcases hbegun with ⟨c, hc, rfl, rfl⟩ | ⟨hnone, rfl⟩
    · have hraws := not_isEnded_of_append h
      have hbegun := (arrives_behind hraws raw).begun hc
      exact (ih hraws hbegun).concat hc rfl
    · exact OpenSince.next hnone name

end Progress

/-! ## Faults -/

/-- Of the states nothing is asked, of a fault that it does not say its section by itself. -/
def Invariant.unplaced : Invariant where
  objectives _ _ := True
  constraints _ _ := True
  declarations _ _ := True
  fault _ f := f.within = none

theorem Constraint.Open.within_of_close {c : Constraint.Open} {relation : Relation} {rhs : Float}
    {fault : Fault} (h : c.close relation rhs = .error fault) : fault.within = none := by
  unfold close at h
  split at h
  · cases h
    rfl
  · split at h
    · cases h
      rfl
    · split at h
      · cases h
        rfl
      · cases h

theorem Invariant.unplaced_kept (source : Source) : unplaced.Kept source where
  ending _ := rfl
  undirected _ _ := rfl
  start _ _ _ := trivial
  objective := by
    intro m n text s v _ _ hv
    cases hv with
    | misnamed | breaksOff => rfl
    | _ => trivial
  constrained _ _ _ _ _ := trivial
  declared _ _ _ := trivial
  constraint := by
    intro m n text s v _ _ hv
    cases hv with
    | unfinished | misnamed => rfl
    | contributes body s' v _ hv =>
      cases hv with
      | unread | withoutLeft | breaksOff => rfl
      | unclosed c d relation rhs said _ _ fault hclose =>
        exact Constraint.Open.within_of_close hclose
      | _ => trivial
    | _ => trivial
  declaration := by
    intro m n text d v _ _ hv
    cases hv with
    | unlisted | refused => rfl
    | _ => trivial
  assembly _ _ _ _ _ _ := rfl

/-- A fault is reported in the section in which the session has stopped. -/
theorem Source.within_of_model {source : Source} {fault : Fault} (h : source.model = .error fault) :
    fault.within = some (Session.parse source {}).session.draft.stage := by
  have hparse := (Invariant.unplaced_kept source).parse
  unfold Session.Outcome.Leads at hparse
  rw [show (Session.parse source {}).result = .error fault from h] at hparse
  obtain ⟨met, ⟨-, hmet⟩, rfl⟩ := hparse
  unfold Fault.locatedBy
  rw [show met.within = none from hmet]
  rfl

/-- Where a fault of a source is reported. -/
structure Fault.LocatedIn (source : Source) (fault : Fault) : Prop where
  line_le : fault.line ≤ source.linesRead
  line_pos : 0 < source.linesRead → 0 < fault.line
  /-- The line is the last one that was read, unless a constraint is wrong as a whole. -/
  line : fault.cause.constraint? = none → fault.line = source.linesRead
  /-- A constraint that is wrong as a whole was begun on the line: none was open in front of it, and
      a constraint of that name was open behind all lines from there on. -/
  begun : ∀ name, fault.cause.constraint? = some name →
    Progress.OpenSince (source.lines.take (source.linesRead - 1)) name fault.line
  /-- The section is the one in which the session has stopped. -/
  stage : fault.within = some (Session.parse source {}).session.draft.stage
  /-- It is the one that the keywords lead to. -/
  place : fault.within =
    some (fault.cause.place (Section.behindAll (source.lines.take source.linesRead)))
  /-- Inverted bounds are reported at the end marker. -/
  inverted : ∀ name lower upper, fault.cause = .invertedBounds name lower upper →
    fault.within = some .finish ∧ ∃ raw, source.lines[fault.line - 1]? = some raw ∧
      Keyword.section? raw.content = some .finish
  /-- That the lines have run out is reported at the last one. -/
  endOfInput : fault.cause = .endOfInput → fault.line = source.lines.length

namespace Source

/-- A fault that is met at the last line that is read. -/
theorem locatedIn_of_metAt {source : Source} {fault : Fault} (h : source.model = .error fault)
    {raws rest : List Text} {raw : Text} (hlines : source.lines = raws ++ raw :: rest)
    (hread : source.linesRead = raws.length + 1) (hraws : (Progress.behind raws).isEnded = false)
    (hmet : fault.MetAt (Progress.behind raws).state ⟨raws.length + 1, raw.content⟩
      (Section.behindAll (source.lines.take source.linesRead))) : fault.LocatedIn source := by
  have hfront : source.lines.take raws.length = raws := by
    rw [hlines, List.take_left]
  have hline : fault.line ≤ raws.length + 1 ∧ 0 < fault.line := by
    cases hcause : fault.cause.constraint? with
    | none =>
      have hat : fault.line = raws.length + 1 := hmet.line hcause
      omega
    | some name =>
      have hopen := Progress.openSince_of_begun hraws (hmet.begun name hcause)
      exact ⟨hopen.le, hopen.pos⟩
  refine ⟨?_, fun _ => hline.2, ?_, ?_, within_of_model h, hmet.within, ?_, ?_⟩
  · rw [hread]
    exact hline.1
  · rw [hread]
    exact hmet.line
  · intro name hname
    rw [hread, Nat.add_sub_cancel, hfront]
    exact Progress.openSince_of_begun hraws (hmet.begun name hname)
  · intro name lower upper hcause
    obtain ⟨hplace, hkeyword, -⟩ := hmet.inverted name lower upper hcause
    have hwithin := hmet.within
    have hat : fault.line = raws.length + 1 := hmet.line (by rw [hcause]; rfl)
    rw [hcause, hplace] at hwithin
    refine ⟨hwithin, raw, ?_, hkeyword⟩
    rw [hat, hlines, Nat.add_sub_cancel, List.getElem?_append_right (Nat.le_refl _), Nat.sub_self]
    rfl
  · intro hcause
    exact absurd hcause hmet.cause

/-- A fault that is met behind the last line. -/
theorem locatedIn_of_not_isEnded {source : Source} (hending : source.ending = .finished)
    {fault : Fault} (h : source.model = .error fault)
    (hended : (Progress.behind source.lines).isEnded = false) : fault.LocatedIn source := by
  have hread := linesRead_eq_length hended
  have hmodel := source.model_eq_behind
  rw [h, Progress.outcome_eq hended, (Progress.section_behind hended).2, hending] at hmodel
  have hwithin := within_of_model h
  cases hmodel
  refine ⟨Nat.le_of_eq hread.symm, ?_, fun _ => hread.symm, nofun, hwithin, ?_, nofun,
    fun _ => rfl⟩
  · rw [hread]
    exact id
  · rw [hread, List.take_length]
    rfl

end Source

theorem Text.lines_eq_nil_iff (t : Text) : t.lines = [] ↔ t = [] := by
  cases t with
  | nil => exact ⟨fun _ => rfl, fun _ => rfl⟩
  | cons c rest =>
    refine ⟨fun h => ?_, nofun⟩
    unfold lines at h
    split at h
    · cases h
    · split at h
      · cases h
      · exact absurd h (extendFirst_ne_nil _ _)

/-- Nothing is read only of the text without characters. -/
theorem Source.linesRead_eq_zero_iff (t : Text) : (ofText t).linesRead = 0 ↔ t = [] := by
  rw [← Text.lines_eq_nil_iff]
  constructor
  · intro h
    cases hended : (Progress.behind (ofText t).lines).isEnded with
    | false =>
      rw [linesRead_eq_length hended, List.length_eq_zero_iff] at h
      exact h
    | true =>
      obtain ⟨raws, raw, rest, -, hread, -⟩ := exists_last hended
      omega
  · intro h
    have hle := (ofText t).linesRead_le
    rw [show (ofText t).lines = [] from h] at hle
    exact Nat.le_zero.mp hle

/-- **Every fault of a text is located.** It carries the section in which the reading has stopped,
    and the last line that was read, or else the line on which the constraint was begun that it is
    about. Only for the text without characters it carries no line. -/
theorem Source.located_of_model {t : Text} {fault : Fault} (h : (ofText t).model = .error fault) :
    fault.LocatedIn (ofText t) ∧ (fault.line = 0 ↔ t = []) := by
  have hlocated : fault.LocatedIn (ofText t) := by
    cases hended : (Progress.behind (ofText t).lines).isEnded with
    | false => exact locatedIn_of_not_isEnded rfl h hended
    | true =>
      obtain ⟨raws, raw, rest, hlines, hread, hraws, harrives⟩ := exists_last_arrives hended
      rw [h] at harrives
      exact locatedIn_of_metAt h hlines hread hraws harrives
  refine ⟨hlocated, ?_⟩
  rw [← linesRead_eq_zero_iff]
  have hle := hlocated.line_le
  have hpos := hlocated.line_pos
  omega

/-- A constraint that is still open at the end marker, two lines below its first line. -/
theorem Source.located_of_model_unfinished :
    ∃ fault, (ofText "max x\nst\nc: x\n\nend\n".toList).model = .error fault ∧
      fault.cause = .unfinishedConstraint "c".toList ∧ fault.line = 3 ∧
      (ofText "max x\nst\nc: x\n\nend\n".toList).linesRead = 5 ∧
      fault.LocatedIn (ofText "max x\nst\nc: x\n\nend\n".toList) ∧
      (fault.line = 0 ↔ "max x\nst\nc: x\n\nend\n".toList = []) := by
  have hmodel : (ofText "max x\nst\nc: x\n\nend\n".toList).model =
      .error ⟨.unfinishedConstraint "c".toList, 3, some .constraints⟩ := by
    decide +kernel
  exact ⟨_, hmodel, rfl, rfl, by decide +kernel, located_of_model hmodel⟩

/-! ## Outcomes -/

namespace Source

/-- While the reading goes on, the end marker has not been read. -/
theorem behindAll_ne_finish {raws : List Text} (h : (Progress.behind raws).isEnded = false) :
    Section.behindAll raws ≠ .finish := by
  obtain ⟨hstands, hstage⟩ := Progress.section_behind h
  rw [← hstage]
  cases hp : Progress.behind raws with
  | start => nofun
  | objectives s =>
    rw [hp] at hstands
    show s.draft.stage ≠ _
    rw [hstands.1]
    nofun
  | constraints s =>
    rw [hp] at hstands
    show s.draft.stage ≠ _
    rw [hstands.1]
    nofun
  | declarations d =>
    rw [hp] at hstands
    rintro hfinish
    rcases hstands with hd | hd | hd <;> cases hd.symm.trans hfinish
  | ended result =>
    rw [hp] at h
    cases h

/-- A model is read up to the end marker and no further. -/
theorem finish_of_model {source : Source} {m : Model} (h : source.model = .ok m) :
    Section.behindAll (source.lines.take source.linesRead) = .finish ∧
      ∀ j < source.linesRead, Section.behindAll (source.lines.take j) ≠ .finish := by
  refine ⟨?_, fun j hj => behindAll_ne_finish (not_isEnded_of_lt_linesRead hj)⟩
  cases hended : (Progress.behind source.lines).isEnded with
  | false =>
    rw [model_eq_behind, Progress.outcome_eq hended] at h
    cases h
  | true =>
    obtain ⟨raws, raw, rest, -, -, -, harrives⟩ := exists_last_arrives hended
    rw [h] at harrives
    exact harrives

/-- **The lines that were read decide.** A text whose lines have not run out has its model, or its
    fault with its line and section, in common with every text that begins with the lines that were
    read; and behind the line of the end marker, no line is read for a model. -/
theorem model_of_agreeing {t t' : Text}
    (hmodel : ∀ fault, (ofText t).model = .error fault → fault.cause.kind ≠ .incompleteInput)
    (hlines : (ofText t').lines.take (ofText t).linesRead =
      (ofText t).lines.take (ofText t).linesRead) :
    (ofText t').model = (ofText t).model ∧ (ofText t').linesRead = (ofText t).linesRead ∧
      ∀ m, (ofText t).model = .ok m →
        Section.behindAll ((ofText t).lines.take (ofText t).linesRead) = .finish ∧
          ∀ j < (ofText t).linesRead, Section.behindAll ((ofText t).lines.take j) ≠ .finish := by
  obtain ⟨hsame, hread⟩ := eq_of_take (isEnded_of_model rfl hmodel) hlines
  exact ⟨hsame, hread, fun m hm => finish_of_model hm⟩

/-- What stands behind the end marker does not matter. -/
theorem model_of_agreeing_rest :
    (ofText "max x\nend\n= 1e\n".toList).linesRead = 2 ∧
      (∃ m, (ofText "max x\nend\n= 1e\n".toList).model = .ok m) ∧
      (ofText "max x\nend".toList).model = (ofText "max x\nend\n= 1e\n".toList).model := by
  have hmodel : (ofText "max x\nend\n= 1e\n".toList).model =
      .ok
        { objectives := [⟨"obj".toList, .maximize, [("x".toList, 1.0)]⟩]
          vars := [⟨"x".toList, 0.0, Quantity.infinity, .continuous⟩] } := by
    decide +kernel
  have hread : (ofText "max x\nend\n= 1e\n".toList).linesRead = 2 := by decide +kernel
  have hagree := @model_of_agreeing "max x\nend\n= 1e\n".toList "max x\nend".toList
    (by rw [hmodel]; nofun) (by rw [hread]; decide +kernel)
  exact ⟨hread, ⟨_, hmodel⟩, hagree.1⟩

end Source

end LinearProgram

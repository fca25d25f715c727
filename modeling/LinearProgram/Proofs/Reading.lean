/-
  Reading — what a reading shows of a text, whatever is wrong with the text.

  1. **Causes** — each reader of names, numbers, expressions, constraint lines and bounds fails with
     a cause that lies in the line at hand (`Cause.isOfLine`). All causes of this sort, and the few
     others that a document can be refused for, can be reported, and none of them is about the order
     of sections (`Cause.IsOfDocument`).

  2. **Faults** — so the fault of a document is of that sort too: as an invariant, it is kept by
     each line and at the end.

  3. **Readings** — a reading of a text has the text's model and no fault, or it has a fault that is
     reported with its section, and then it shows nothing of what was read before
     (`Reading.ofText_shows`).

  4. **Agreement** — readings with the same outcome show the same, but for the place that the
     document came from (`Reading.agrees_of_outcome`).
-/

import LinearProgram.Proofs.Document.Assembly
import LinearProgram.Proofs.Document.Course
import LinearProgram.Reading

namespace LinearProgram

/-! ## Causes -/

/-- A cause that lies in a document: it is reported, and it is not about the order in which the
    readers were called. -/
def Cause.IsOfDocument (cause : Cause) : Prop :=
  cause.isReported = true ∧ cause.kind ≠ .sectionOrder

/-- A cause that lies in what the line at hand says. -/
def Cause.isOfLine : Cause → Bool
  | unrecognizedDirection _ | missingSign _ | noVariable _ | invalidName _ | invalidNumber _
  | unsupportedOperator .. | invalidConstraintLine _ | noLeftHandSide _ | unknownVariable _
  | mixedBound _ | boundBetweenVariables _ | notFree _ | unknownBoundFormat _ => true
  | _ => false

/-- What lies in a line lies in the document. -/
theorem Cause.isOfDocument_of_isOfLine {cause : Cause} (h : cause.isOfLine = true) :
    cause.IsOfDocument := by
  cases cause with
  | sectionOrder | noDocument | noWord | noDirection | noKind => cases h
  | _ => exact ⟨rfl, nofun⟩

/-- A text that is not a name is an invalid name. -/
theorem Name.isOfLine_of_read {t : Text} {cause : Cause} (h : read t = .error cause) :
    cause.isOfLine = true := by
  obtain ⟨rfl, -⟩ := (read_eq_error_iff t cause).mp h
  rfl

/-- A text that is not a quantity is an invalid number. -/
theorem Quantity.isOfLine_of_read {t : Text} {cause : Cause} (h : read t = .error cause) :
    cause.isOfLine = true := by
  rw [eq_invalidNumber_of_read h]
  rfl

/-- An addend is refused for its number, for its name, or for having none. -/
theorem Addend.isOfLine_of_read {t : Text} {cause : Cause} (h : read t = .error cause) :
    cause.isOfLine = true := by
  unfold read at h
  split at h
  · cases h
    rfl
  · split at h
    · next hname =>
      cases h
      exact Name.isOfLine_of_read hname
    · cases h
  · split at h
    · next hvalue =>
      cases h
      exact Quantity.isOfLine_of_read hvalue
    · split at h
      · next hname =>
        cases h
        exact Name.isOfLine_of_read hname
      · cases h

/-- **An expression is refused for one of its addends**, or for one that has no sign. -/
theorem Expression.isOfLine_of_termsFrom {sign : Option Sign} {tokens : List Token}
    {cause : Cause} (h : (termsFrom sign tokens).2 = some cause) : cause.isOfLine = true := by
  fun_induction termsFrom sign tokens with
  | case1 => cases h
  | case2 _ s tokens ih => exact ih h
  | case3 t tokens =>
    cases h
    rfl
  | case4 s t tokens cause' hread =>
    cases h
    exact Addend.isOfLine_of_read hread
  | case5 s t tokens x name hread terms cause? hterms ih =>
    rw [hterms] at ih
    exact ih h

theorem Expression.isOfLine_of_terms {t : Text} {ts : List Term} {cause : Cause}
    (h : terms t = (ts, some cause)) : cause.isOfLine = true :=
  isOfLine_of_termsFrom (congrArg Prod.snd h)

theorem ConstraintLine.isOfLine_of_ofPieces {line : Text} {relation : Relation}
    {pieces : List Text} {cause : Cause} (h : ofPieces line relation pieces = .error cause) :
    cause.isOfLine = true := by
  unfold ofPieces at h
  split at h
  · split at h
    · cases h
    · next hvalue =>
      cases h
      exact Quantity.isOfLine_of_read hvalue
  · split at h
    · cases h
    · next hvalue =>
      cases h
      exact Quantity.isOfLine_of_read hvalue
  · cases h
    rfl

/-- A line of a constraint is refused for its operators or for its right-hand side. -/
theorem ConstraintLine.isOfLine_of_read {line : Text} {cause : Cause}
    (h : read line = .error cause) : cause.isOfLine = true := by
  unfold read at h
  split at h
  · cases h
  · split at h
    · cases h
      rfl
    · exact isOfLine_of_ofPieces h

/-- What stands in front of a colon is refused only if it is not a name. -/
theorem ConstraintLine.isOfLine_of_splitName {line : Text} {cause : Cause}
    (h : splitName line = .error cause) : cause.isOfLine = true := by
  unfold splitName at h
  split at h
  · cases h
  · split at h
    · cases h
    · split at h
      · cases h
      · next hname =>
        cases h
        exact Name.isOfLine_of_read hname

/-- A constraint is not closed if its name is blank, its line not positive or its expression empty.
    None of this is seen in the line that closes it. -/
theorem Constraint.Open.isOfDocument_of_close {c : Constraint.Open} {relation : Relation}
    {rhs : Float} {fault : Fault} (h : c.close relation rhs = .error fault) :
    fault.cause.IsOfDocument := by
  unfold close at h
  split at h
  · cases h
    exact ⟨rfl, nofun⟩
  · split at h
    · cases h
      exact ⟨rfl, nofun⟩
    · split at h
      · cases h
        exact ⟨rfl, nofun⟩
      · cases h

/-- Operators of both directions do not go together. -/
theorem Bound.isOfLine_of_segments {line : Text} {cause : Cause}
    (h : segments line = .error cause) : cause.isOfLine = true := by
  unfold segments at h
  split at h
  · split at h
    · cases h
      rfl
    · cases h
  · cases h

/-- A line with one side is refused if it is neither an equality nor free. -/
theorem Bound.isOfLine_of_equalityOrFree {line : Text} {cause : Cause}
    (h : equalityOrFree line = .error cause) : cause.isOfLine = true := by
  unfold equalityOrFree at h
  split at h
  · cases h
  · split at h
    · split at h
      · cases h
      · cases h
        rfl
    · cases h
      rfl

theorem Bound.isOfLine_of_form {table : Table} {line : Text} {cause : Cause}
    (h : form table line = .error cause) : cause.isOfLine = true := by
  unfold form at h
  split at h
  · next hsegments =>
    cases h
    exact isOfLine_of_segments hsegments
  · exact isOfLine_of_equalityOrFree h
  · split at h
    · split at h
      · cases h
        rfl
      · cases h
    · cases h
  · cases h
  · cases h
    rfl

/-- A bound is refused for one of its values. -/
theorem Bound.isOfLine_of_change {form : Form} {cause : Cause}
    (h : form.change = .error cause) : cause.isOfLine = true := by
  have hmap : ∀ {t : Text} {β : Type} {f : Float → β},
      (Quantity.read t).map f = .error cause → cause.isOfLine = true := by
    intro t β f hread
    cases hq : Quantity.read t with
    | ok x =>
      rw [hq] at hread
      cases hread
    | error cause' =>
      rw [hq] at hread
      cases hread
      exact Quantity.isOfLine_of_read hq
  cases form with
  | fixed name value => exact hmap h
  | free name => cases h
  | below value name => exact hmap h
  | above name value => exact hmap h
  | between lower name upper =>
    simp only [Form.change] at h
    split at h
    · next hlower =>
      cases h
      exact Quantity.isOfLine_of_read hlower
    · exact hmap h

/-- **A line of the bounds section is refused for its form, its variable or a value.** -/
theorem Bound.isOfLine_of_read {table : Table} {line : Text} {cause : Cause}
    (h : read table line = .error cause) : cause.isOfLine = true := by
  unfold read at h
  split at h
  · next hform =>
    cases h
    exact isOfLine_of_form hform
  · next f hform =>
    unfold ofForm at h
    split at h
    · cases hchange : f.change with
      | ok change =>
        rw [hchange] at h
        cases h
      | error cause' =>
        rw [hchange] at h
        cases h
        exact isOfLine_of_change hchange
    · cases h
      rfl

/-- A list is refused for a name that is not registered. -/
theorem Declarations.isOfLine_of_assign {kind : Variable.Kind} {names : List Text}
    {table table' : Table} {cause : Cause} (h : assign kind names table = (table', some cause)) :
    cause.isOfLine = true := by
  induction names generalizing table with
  | nil => cases h
  | cons name names ih =>
    unfold assign at h
    split at h
    · exact ih h
    · cases h
      rfl

/-- A column is not finished if its name is blank or its bounds are inverted. -/
theorem Column.isOfDocument_of_finish {c : Column} {cause : Cause}
    (h : c.finish = .error cause) : cause.IsOfDocument := by
  unfold finish at h
  split at h
  · cases h
    exact ⟨rfl, nofun⟩
  · split at h
    · cases h
      exact ⟨rfl, nofun⟩
    · cases h

theorem Objective.isOfDocument_of_check {o : Objective} {cause : Cause}
    (h : o.check = .error cause) : cause.IsOfDocument := by
  unfold check at h
  split at h
  · cases h
    exact ⟨rfl, nofun⟩
  · cases h

namespace Session

/-- **A draft is refused for one of its objectives or columns.** -/
theorem isOfDocument_of_modelOf {d : Draft} {cause : Cause} (h : modelOf d = .error cause) :
    cause.IsOfDocument := by
  unfold modelOf at h
  split at h
  · next hcheck =>
    cases h
    obtain ⟨o, -, ho⟩ := mem_of_checkAll_error hcheck
    exact Objective.isOfDocument_of_check ho
  · split at h
    · next hcheck =>
      cases h
      obtain ⟨c, -, hc⟩ := mem_of_checkAll_error hcheck
      exact Column.isOfDocument_of_finish hc
    · cases h

end Session

/-! ## Faults -/

/-- Of the state nothing is asked, of a fault that its cause lies in the document. -/
def Invariant.ofDocument : Invariant where
  objectives _ _ := True
  constraints _ _ := True
  declarations _ _ := True
  fault _ f := f.cause.IsOfDocument

/-- Where there is a document, that its lines run out lies in it. -/
theorem Source.Ending.isOfDocument_cause {ending : Ending} (h : ending ≠ .absent) :
    ending.cause.IsOfDocument := by
  cases ending with
  | finished => exact ⟨rfl, nofun⟩
  | broken reason grace => cases grace <;> exact ⟨rfl, nofun⟩
  | absent => exact absurd rfl h

/-- **No line and no end of the lines gives any other fault.** -/
theorem Invariant.ofDocument_kept {source : Source} (h : source.ending ≠ .absent) :
    ofDocument.Kept source where
  ending _ := Source.Ending.isOfDocument_cause h
  undirected _ _ := ⟨rfl, nofun⟩
  start _ _ _ := trivial
  objective := by
    intro m n text s v _ _ hv
    cases hv with
    | misnamed cause h =>
      exact Cause.isOfDocument_of_isOfLine (ConstraintLine.isOfLine_of_splitName h)
    | breaksOff name? body terms cause _ hterms =>
      exact Cause.isOfDocument_of_isOfLine (Expression.isOfLine_of_terms hterms)
    | _ => trivial
  constrained _ _ _ _ _ := trivial
  declared _ _ _ := trivial
  constraint := by
    intro m n text s v _ _ hv
    cases hv with
    | unfinished c _ => exact ⟨rfl, nofun⟩
    | misnamed cause h =>
      exact Cause.isOfDocument_of_isOfLine (ConstraintLine.isOfLine_of_splitName h)
    | contributes body s' v _ hv =>
      cases hv with
      | unread cause h => exact Cause.isOfDocument_of_isOfLine (ConstraintLine.isOfLine_of_read h)
      | withoutLeft => exact ⟨rfl, nofun⟩
      | breaksOff said lhs terms cause _ _ hterms =>
        exact Cause.isOfDocument_of_isOfLine (Expression.isOfLine_of_terms hterms)
      | unclosed c d relation rhs said _ _ fault hclose =>
        exact Constraint.Open.isOfDocument_of_close hclose
      | _ => trivial
    | _ => trivial
  declaration := by
    intro m n text d v _ _ hv
    cases hv with
    | unlisted kind table cause _ h =>
      exact Cause.isOfDocument_of_isOfLine (Declarations.isOfLine_of_assign h)
    | refused cause _ h => exact Cause.isOfDocument_of_isOfLine (Bound.isOfLine_of_read h)
    | _ => trivial
  assembly _ _ _ _ _ h := Session.isOfDocument_of_modelOf h

/-- The fault of a document lies in it, and carries its section. -/
theorem Source.fault_of_model {source : Source} (hending : source.ending ≠ .absent) {fault : Fault}
    (h : source.model = .error fault) : fault.cause.IsOfDocument ∧ fault.within.isSome = true := by
  have hparse := (Invariant.ofDocument_kept hending).parse
  unfold Session.Outcome.Leads at hparse
  rw [show (Session.parse source {}).result = .error fault from h] at hparse
  obtain ⟨met, ⟨-, hmet⟩, rfl⟩ := hparse
  exact ⟨hmet, rfl⟩

/-- The lines of a text come to an end of their own, so that its faults lie in it. -/
theorem Source.fault_ofText {t : Text} {fault : Fault}
    (h : (Source.ofText t).model = .error fault) :
    fault.cause.IsOfDocument ∧ fault.within.isSome = true := by
  have hending : (ofText t).ending ≠ .absent := by
    show Ending.finished ≠ Ending.absent
    nofun
  exact fault_of_model hending h

/-! ## Readings -/

namespace Reading

/-- What a reading shows of a text with a model. -/
structure ShowsModel (r : Reading) (m : Model) : Prop where
  fault : r.fault? = none
  model : r.model = m
  payload : r.payload =
    .object (Payload.member "valid" (.bool true) :: Payload.member "source" (.text r.origin)
      :: m.payload)

/-- What a reading shows of a text with a fault: the fault, and nothing of a model. -/
structure ShowsFault (r : Reading) (f : Fault) : Prop where
  fault : r.fault? = some f
  reported : f.cause.isReported = true
  kind : f.cause.kind ≠ .sectionOrder
  within : f.within.isSome = true
  objectives : r.model.objectives = []
  constraints : r.model.constraints = []
  vars : r.model.vars = []
  variablesOfKind : ∀ kind, r.model.variablesOfKind kind = []
  payload : r.payload =
    .object [Payload.member "valid" (.bool false), Payload.member "source" (.text r.origin),
      Payload.member "error" f.payload]

/-- A reading has the model or the fault of its source. -/
theorem outcome_ofSource (channel : String) (origin : Text) (source : Source) :
    (ofSource channel origin source).outcome = source.model := by
  unfold ofSource Source.model
  dsimp only
  split
  · next m h => exact h.symm
  · next f h => exact h.symm

/-- **Every text can be read.** The reading shows the model, if the text has one; otherwise it shows
    a fault of the document, with its section, and nothing of what was read before. -/
theorem ofText_shows (channel : String) (origin t : Text) :
    ((ofText channel origin t).fault? = none ↔ ∃ m, (Source.ofText t).model = .ok m) ∧
      match (Source.ofText t).model with
      | .ok m => (ofText channel origin t).ShowsModel m
      | .error f => (ofText channel origin t).ShowsFault f := by
  cases h : (Source.ofText t).model with
  | ok m =>
    have hr : (ofText channel origin t).outcome = .ok m := (outcome_ofSource ..).trans h
    have hfault : (ofText channel origin t).fault? = none := by
      unfold fault?
      rw [hr]
    refine ⟨⟨fun _ => ⟨m, rfl⟩, fun _ => hfault⟩, ⟨hfault, ?_, ?_⟩⟩
    · unfold model
      rw [hr]
    · unfold payload
      rw [hr]
      rfl
  | error f =>
    have hr : (ofText channel origin t).outcome = .error f := (outcome_ofSource ..).trans h
    have hfault : (ofText channel origin t).fault? = some f := by
      unfold fault?
      rw [hr]
    have hmodel : (ofText channel origin t).model = .empty := by
      unfold model
      rw [hr]
    obtain ⟨⟨hreported, hkind⟩, hwithin⟩ := Source.fault_ofText h
    refine ⟨⟨fun h0 => ?_, fun ⟨m, hm⟩ => nomatch hm⟩, ?_⟩
    · rw [hfault] at h0
      cases h0
    · refine ⟨hfault, hreported, hkind, hwithin, ?_, ?_, ?_, ?_, ?_⟩
      · rw [hmodel]
        rfl
      · rw [hmodel]
        rfl
      · rw [hmodel]
        rfl
      · intro kind
        rw [hmodel]
        rfl
      · unfold payload
        rw [hr]

theorem origin_ofSource (channel : String) (origin : Text) (source : Source) :
    (ofSource channel origin source).origin = origin := by
  unfold ofSource
  dsimp only
  split <;> rfl

/-- The reading shows its outcome. -/
def IsShown (r : Reading) : Prop :=
  match r.outcome with
  | .ok m => r.ShowsModel m
  | .error f => r.ShowsFault f

/-- A reading with a model shows it. -/
theorem isShown_of_model {r : Reading} {m : Model} (h : r.outcome = .ok m) : r.IsShown := by
  unfold IsShown
  rw [h]
  refine ⟨?_, ?_, ?_⟩
  · unfold fault?
    rw [h]
  · unfold model
    rw [h]
  · unfold payload
    rw [h]
    rfl

/-- A reading with a fault of the document shows the fault, and the empty model. -/
theorem isShown_of_fault {r : Reading} {f : Fault} (h : r.outcome = .error f)
    (hcause : f.cause.IsOfDocument) (hwithin : f.within.isSome = true) : r.IsShown := by
  have hmodel : r.model = .empty := by
    unfold model
    rw [h]
  unfold IsShown
  rw [h]
  refine ⟨?_, hcause.1, hcause.2, hwithin, ?_, ?_, ?_, ?_, ?_⟩
  · unfold fault?
    rw [h]
  · rw [hmodel]
    rfl
  · rw [hmodel]
    rfl
  · rw [hmodel]
    rfl
  · intro kind
    rw [hmodel]
    rfl
  · unfold payload
    rw [h]

theorem IsShown.showsFault {r : Reading} (h : r.IsShown) {f : Fault} (hf : r.outcome = .error f) :
    r.ShowsFault f := by
  unfold IsShown at h
  rw [hf] at h
  exact h

/-- **Every source can be read**, whatever lies behind its lines. -/
theorem ofSource_isShown (channel : String) (origin : Text) {source : Source}
    (hending : source.ending ≠ .absent) : (ofSource channel origin source).IsShown := by
  have houtcome := outcome_ofSource channel origin source
  cases h : source.model with
  | ok m => exact isShown_of_model (houtcome.trans h)
  | error f =>
    obtain ⟨hcause, hwithin⟩ := Source.fault_of_model hending h
    exact isShown_of_fault (houtcome.trans h) hcause hwithin

/-- What could not be opened has a reading, too. -/
theorem unopened_isShown (channel : String) (origin reason : Text) :
    (unopened channel origin reason).IsShown :=
  isShown_of_fault rfl ⟨rfl, nofun⟩ rfl

end Reading

/-! ## Agreement -/

/-- A structured value with another value for one member. -/
def Json.updated (value : Json) (name : String) (new : Json) : Json :=
  match value with
  | .object members =>
    .object (members.map fun (key, old) => (key, if key = name.toList then new else old))
  | other => other

namespace Reading

/-- Two readings show the same, but for where the document came from. -/
structure Agrees (r r' : Reading) : Prop where
  isOk : r.isOk = r'.isOk
  model : r.model = r'.model
  fault : r.fault? = r'.fault?
  payload : r.payload = r'.payload.updated "source" (.text r.origin)

/-- What a reading shows is made of its outcome. -/
theorem agrees_of_outcome {r r' : Reading} (h : r.outcome = r'.outcome) : r.Agrees r' := by
  obtain ⟨origin, outcome, log⟩ := r
  obtain ⟨origin', outcome', log'⟩ := r'
  obtain rfl : outcome = outcome' := h
  refine ⟨rfl, rfl, rfl, ?_⟩
  cases outcome with
  | ok m => rfl
  | error f => rfl

end Reading

end LinearProgram

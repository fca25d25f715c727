/-
  WellFormed — what holds of every model that a document describes.

  1. **Sources of the facts** — names come from `Name.read` or are default names, numbers come from
     `Quantity.read`, which has no missing number to give; the bounds of a finished variable are
     compared when it is finished, and cut down before that if it is binary.

  2. **The invariant** — a draft is `Sound` if its objectives, constraints and columns are, and its
     constraints stand in the order of their lines; the constraint that is open begins behind all
     of them and not behind the last line that was read.

  3. **Models** — so every model is well formed (`Source.wellFormed_of_model`).
-/

import LinearProgram.Proofs.Binary64.Order
import LinearProgram.Proofs.Document.Assembly
import LinearProgram.Proofs.Document.Course

namespace LinearProgram

/-! ## Well-formed models -/

/-- A variable as documents can describe it. -/
structure Variable.WellFormed (v : Variable) : Prop where
  name : Name.isName v.name = true
  lower : v.lower.isNaN = false
  upper : v.upper.isNaN = false
  ordered : v.lower ≤ v.upper
  binary : v.kind = .binary → (0.0 ≤ v.lower ∧ v.lower ≤ 1.0) ∧ 0.0 ≤ v.upper ∧ v.upper ≤ 1.0

/-- An objective of a document of this direction. -/
structure Objective.WellFormed (direction : Direction) (o : Objective) : Prop where
  name : Name.isName o.name = true
  direction : o.direction = direction

/-- A constraint among the first lines of a document. -/
structure Constraint.WellFormed (linesRead : Nat) (c : Constraint) : Prop where
  name : Name.isName c.name = true
  coefficients : c.coefficients ≠ []
  rhs : c.rhs.isNaN = false
  line_pos : 1 ≤ c.line
  line_le : c.line ≤ linesRead

/-- A model as documents of a direction can describe it. -/
structure Model.WellFormed (direction : Direction) (linesRead : Nat) (m : Model) : Prop where
  objectives_ne_nil : m.objectives ≠ []
  objectives : ∀ o ∈ m.objectives, o.WellFormed direction
  constraints : ∀ c ∈ m.constraints, c.WellFormed linesRead
  increasing : (m.constraints.map Constraint.line).Pairwise (· < ·)
  vars : ∀ v ∈ m.vars, v.WellFormed

/-! ## Names -/

/-- The default name of an objective is a name. -/
theorem Draft.isName_defaultObjectiveName : Name.isName defaultObjectiveName = true := by decide

/-- **A numbered name is a name**, whatever its number. -/
theorem Draft.isName_numberedName (k : Nat) : Name.isName (numberedName k) = true := by
  have hinner : ∀ c ∈ Decimal.digits k, Name.isInner c = true := by
    intro c hc
    have hdigit : c.isDigit = true := Nat.isDigit_of_mem_toDigits (by decide) (by decide) hc
    simp only [Char.isDigit, Bool.and_eq_true, decide_eq_true_eq] at hdigit
    have h₁ : 0x30 ≤ c.toNat := hdigit.1
    have h₂ : c.toNat ≤ 0x39 := hdigit.2
    simp [Name.isInner, h₁, h₂]
  show (Name.isInitial 'R' && (Decimal.digits k).all Name.isInner) = true
  rw [List.all_eq_true.mpr hinner]
  decide

/-- So a constraint without a name of its own gets a name. -/
theorem Draft.isName_nextConstraintName (d : Draft) : Name.isName d.nextConstraintName = true :=
  isName_numberedName _

/-- What is read as a name is one. -/
theorem Name.isName_of_read {t name : Text} (h : read t = .ok name) : isName name = true :=
  ((read_eq_ok_iff t name).mp h).2

/-- What is cut off in front of a colon is a name. -/
theorem ConstraintLine.isName_of_splitName {line name body : Text}
    (h : splitName line = .ok (some name, body)) : Name.isName name = true := by
  unfold splitName at h
  split at h
  · cases h
  · split at h
    · cases h
    · split at h
      · next hname =>
        cases h
        exact Name.isName_of_read hname
      · cases h

/-- An addend names a variable, with a number in front of the name or without one. -/
theorem Addend.isName_of_read {t name : Text} {x : Float} (h : read t = .ok (x, name)) :
    Name.isName name = true := by
  unfold read at h
  split at h
  · cases h
  · split at h
    · cases h
    · next hname =>
      cases h
      exact Name.isName_of_read hname
  · split at h
    · cases h
    · split at h
      · cases h
      · next hname =>
        cases h
        exact Name.isName_of_read hname

/-- **The terms of an expression have names**, also those in front of an addend that is refused. -/
theorem Expression.isName_of_termsFrom {sign : Option Sign} {tokens : List Token} :
    ∀ term ∈ (termsFrom sign tokens).1, Name.isName term.name = true := by
  fun_induction termsFrom sign tokens with
  | case1 => exact fun term h => absurd h List.not_mem_nil
  | case2 _ s tokens ih => exact ih
  | case3 t tokens => exact fun term h => absurd h List.not_mem_nil
  | case4 s t tokens cause hread => exact fun term h => absurd h List.not_mem_nil
  | case5 s t tokens x name hread terms cause? hterms ih =>
    rw [hterms] at ih
    intro term hterm
    rcases List.mem_cons.mp hterm with rfl | hterm
    · exact Addend.isName_of_read hread
    · exact ih term hterm

theorem Expression.isName_of_terms {t : Text} {ts : List Term} {cause? : Option Cause}
    (h : terms t = (ts, cause?)) : ∀ term ∈ ts, Name.isName term.name = true := by
  have hall : ∀ term ∈ (terms t).1, Name.isName term.name = true := isName_of_termsFrom
  rw [h] at hall
  exact hall

/-! ## Numbers -/

/-- A finite number is not the missing number. -/
theorem Binary64.isNaN_of_isFinite {x : Float} (h : x.isFinite = true) : x.isNaN = false := by
  have hparts : (Binary64.parts x).isFinite = true := h
  show (Binary64.parts x).isNaN = false
  cases hx : Binary64.parts x with
  | notANumber =>
    rw [hx] at hparts
    cases hparts
  | _ => rfl

/-- **No quantity is the missing number.** -/
theorem Quantity.isNaN_of_read {t : Text} {x : Float} (h : read t = .ok x) : x.isNaN = false := by
  unfold read at h
  split at h
  · next hinfinity =>
    cases h
    unfold infinity? at hinfinity
    dsimp only at hinfinity
    split at hinfinity
    · cases hinfinity
      decide
    · split at hinfinity
      · cases hinfinity
        decide
      · cases hinfinity
  · split at h
    · next hfinite =>
      cases h
      unfold finite? at hfinite
      obtain ⟨l, -, hl⟩ := Option.bind_eq_some_iff.mp hfinite
      split at hl
      · next hvalue =>
        cases hl
        exact Binary64.isNaN_of_isFinite hvalue
      · cases hl
    · cases h

/-- Behind the operator of a line stands a quantity. -/
theorem ConstraintLine.isNaN_of_ofPieces {line : Text} {relation : Relation} {pieces : List Text}
    {said : ConstraintLine} (h : ofPieces line relation pieces = .ok said) :
    (∃ rhs, said = .comparison relation rhs ∧ rhs.isNaN = false) ∨
      ∃ lhs rhs, said = .both lhs relation rhs ∧ rhs.isNaN = false := by
  unfold ofPieces at h
  split at h
  · split at h
    · next hvalue =>
      cases h
      exact Or.inl ⟨_, rfl, Quantity.isNaN_of_read hvalue⟩
    · cases h
  · split at h
    · next hvalue =>
      cases h
      exact Or.inr ⟨_, _, rfl, Quantity.isNaN_of_read hvalue⟩
    · cases h
  · cases h

/-- The right-hand side that a line gives, if it gives one. -/
def ConstraintLine.rhs? : ConstraintLine → Option Float
  | .expression _ => none
  | .comparison _ rhs => some rhs
  | .both _ _ rhs => some rhs

/-- **No right-hand side is the missing number.** -/
theorem ConstraintLine.isNaN_of_read {line : Text} {said : ConstraintLine} {rhs : Float}
    (h : read line = .ok said) (hrhs : said.rhs? = some rhs) : rhs.isNaN = false := by
  unfold read at h
  split at h
  · cases h
    cases hrhs
  · split at h
    · cases h
    · rcases isNaN_of_ofPieces h with ⟨x, rfl, hx⟩ | ⟨lhs, x, rfl, hx⟩
      · cases hrhs
        exact hx
      · cases hrhs
        exact hx

theorem Quantity.isNaN_infinity : infinity.isNaN = false := by decide

/-! ## Columns -/

/-- A column whose name is a name and whose bounds are numbers. -/
structure Column.Sound (c : Column) : Prop where
  name : Name.isName c.name = true
  lower : c.lower.isNaN = false
  upper : c.upper.isNaN = false

/-- All columns of a table are sound. -/
def Table.Sound (table : Table) : Prop := ∀ c ∈ table, c.Sound

/-- The bounds of a new column are numbers. -/
theorem Table.Sound.register {table : Table} (h : table.Sound) {name : Text}
    (hname : Name.isName name = true) : (table.register name).Sound := by
  intro c hc
  unfold Table.register at hc
  split at hc
  · exact h c hc
  · rcases List.mem_append.mp hc with hc | hc
    · exact h c hc
    · rw [List.mem_singleton.mp hc]
      exact ⟨hname, show (0.0 : Float).isNaN = false by decide, Quantity.isNaN_infinity⟩

theorem Table.Sound.registerAll {names : List Text} {table : Table} (h : table.Sound)
    (hnames : ∀ name ∈ names, Name.isName name = true) : (table.registerAll names).Sound := by
  induction names generalizing table with
  | nil => exact h
  | cons name names ih =>
    exact ih (h.register (hnames name List.mem_cons_self))
      fun other hother => hnames other (List.mem_cons_of_mem name hother)

/-- One column of a table may be changed by whatever keeps columns sound. -/
theorem Table.Sound.update {table : Table} (h : table.Sound) {name : Text}
    {change : Column → Column} (hchange : ∀ c, c.Sound → (change c).Sound) :
    (table.update name change).Sound := by
  intro c hc
  obtain ⟨c', hc', rfl⟩ := List.mem_map.mp hc
  split
  · exact hchange c' (h c' hc')
  · exact h c' hc'

/-- A list gives kinds only, up to the first name that is not registered. -/
theorem Table.Sound.assign {kind : Variable.Kind} {names : List Text} {table table' : Table}
    {cause? : Option Cause} (h : table.Sound)
    (hassign : Declarations.assign kind names table = (table', cause?)) : table'.Sound := by
  induction names generalizing table with
  | nil =>
    cases hassign
    exact h
  | cons name names ih =>
    unfold Declarations.assign at hassign
    split at hassign
    · have hgiven : (table.update name fun c => { c with kind }).Sound :=
        h.update fun c hc => ⟨hc.name, hc.lower, hc.upper⟩
      exact ih hgiven hassign
    · cases hassign
      exact h

/-- A change to numbers. -/
def Bound.Change.Sound : Bound.Change → Prop
  | .lower x => x.isNaN = false
  | .upper x => x.isNaN = false
  | .both l u => l.isNaN = false ∧ u.isNaN = false

/-- The values of a bound are quantities, and a free variable has infinite bounds. -/
theorem Bound.sound_of_change {form : Form} {change : Change} (h : form.change = .ok change) :
    change.Sound := by
  have hmap : ∀ {t : Text} {f : Float → Change},
      (Quantity.read t).map f = .ok change → (∀ x : Float, x.isNaN = false → (f x).Sound) →
      change.Sound := by
    intro t f hread hf
    cases hq : Quantity.read t with
    | ok x =>
      rw [hq] at hread
      cases hread
      exact hf x (Quantity.isNaN_of_read hq)
    | error cause =>
      rw [hq] at hread
      cases hread
  cases form with
  | fixed name value => exact hmap h fun x hx => ⟨hx, hx⟩
  | free name =>
    cases h
    exact ⟨by decide, by decide⟩
  | below value name => exact hmap h fun x hx => hx
  | above name value => exact hmap h fun x hx => hx
  | between lower name upper =>
    simp only [Form.change] at h
    split at h
    · cases h
    · next l hlower => exact hmap h fun x hx => ⟨Quantity.isNaN_of_read hlower, hx⟩

theorem Bound.Change.Sound.apply {change : Bound.Change} (h : change.Sound) {c : Column}
    (hc : c.Sound) : (change.apply c).Sound := by
  cases change with
  | lower x => exact ⟨hc.name, h, hc.upper⟩
  | upper x => exact ⟨hc.name, hc.lower, h⟩
  | both l u => exact ⟨hc.name, h.1, h.2⟩

/-- **A line of the bounds section writes numbers.** -/
theorem Bound.sound_of_read {table : Table} {line : Text} {b : Bound}
    (h : read table line = .ok b) : b.change.Sound := by
  unfold read at h
  split at h
  · cases h
  · next f hform =>
    unfold ofForm at h
    split at h
    · cases hchange : f.change with
      | error cause =>
        rw [hchange] at h
        cases h
      | ok change =>
        rw [hchange] at h
        cases h
        exact sound_of_change hchange
    · cases h

/-! ## Finished variables -/

namespace Column

/-- Cutting a bound down does not make it the missing number. -/
theorem not_isNaN_raisedToZero {x : Float} (h : x.isNaN = false) :
    (raisedToZero x).isNaN = false := by
  unfold raisedToZero
  split
  · decide
  · exact h

theorem not_isNaN_loweredToOne {x : Float} (h : x.isNaN = false) :
    (loweredToOne x).isNaN = false := by
  unfold loweredToOne
  split
  · decide
  · exact h

/-- A bound that is not the missing number compares with zero, and the comparison decides. -/
theorem zero_le_raisedToZero {x : Float} (h : x.isNaN = false) : 0.0 ≤ raisedToZero x := by
  unfold raisedToZero
  split
  · decide
  · next hx => exact Binary64.le_of_not_lt (by decide) h hx

theorem loweredToOne_le_one {x : Float} (h : x.isNaN = false) : loweredToOne x ≤ 1.0 := by
  unfold loweredToOne
  split
  · decide
  · next hx => exact Binary64.le_of_not_lt h (by decide) hx

/-- **A sound column makes a well-formed variable**, if it makes one at all. -/
theorem Sound.finish {c : Column} (h : c.Sound) {v : Variable} (hv : c.finish = .ok v) :
    v.WellFormed := by
  have hlower : c.finalLower.isNaN = false := by
    unfold finalLower
    split
    · exact not_isNaN_raisedToZero h.lower
    · exact h.lower
  have hupper : c.finalUpper.isNaN = false := by
    unfold finalUpper
    split
    · exact not_isNaN_loweredToOne h.upper
    · exact h.upper
  unfold Column.finish at hv
  split at hv
  · cases hv
  · split at hv
    · cases hv
    · next hordered =>
      have hle : c.finalLower ≤ c.finalUpper := Binary64.le_of_not_lt hlower hupper hordered
      cases hv
      refine ⟨h.name, hlower, hupper, hle, fun hbinary => ?_⟩
      have hkind : c.kind = .binary := hbinary
      have hzero : 0.0 ≤ c.finalLower := by
        rw [finalLower, if_pos hkind]
        exact zero_le_raisedToZero h.lower
      have hone : c.finalUpper ≤ 1.0 := by
        rw [finalUpper, if_pos hkind]
        exact loweredToOne_le_one h.upper
      exact ⟨⟨hzero, Binary64.le_trans hle hone⟩, Binary64.le_trans hzero hle, hone⟩

end Column

/-! ## Drafts -/

/-- What lies among the first lines lies among more of them. -/
theorem Constraint.WellFormed.mono {m n : Nat} {c : Constraint} (h : c.WellFormed m)
    (hmn : m ≤ n) : c.WellFormed n :=
  { h with line_le := Nat.le_trans h.line_le hmn }

/-- A draft among the first lines of a document. -/
structure Draft.Sound (direction : Direction) (n : Nat) (d : Draft) : Prop where
  directed : d.direction = some direction
  objectives : ∀ o ∈ d.objectives, o.WellFormed direction
  constraints : ∀ c ∈ d.constraints, c.WellFormed n
  increasing : (d.constraints.map Constraint.line).Pairwise (· < ·)
  table : d.table.Sound

/-- A constraint that is open: its line was read already, and it lies behind the lines of all
    constraints that are closed. -/
structure Constraint.Open.Sound (n : Nat) (d : Draft) (c : Constraint.Open) : Prop where
  name : Name.isName c.name = true
  line_pos : 0 < c.line
  line_le : c.line.toNat ≤ n
  behind : ∀ c' ∈ d.constraints, c'.line < c.line.toNat

namespace Draft.Sound

variable {direction : Direction} {m n : Nat} {d : Draft}

theorem mono (h : d.Sound direction m) (hmn : m ≤ n) : d.Sound direction n :=
  { h with constraints := fun c hc => (h.constraints c hc).mono hmn }

/-- The section is not part of what is asked of a draft. -/
theorem switch (h : d.Sound direction n) (target : Section) : (d.switch target).Sound direction n :=
  ⟨h.directed, h.objectives, h.constraints, h.increasing, h.table⟩

/-- The variables of an expression are registered under their names. -/
theorem mention (h : d.Sound direction n) {terms : List Term}
    (hterms : ∀ term ∈ terms, Name.isName term.name = true) :
    (d.mention terms).Sound direction n := by
  refine ⟨h.directed, h.objectives, h.constraints, h.increasing, h.table.registerAll ?_⟩
  intro name hname
  obtain ⟨term, hterm, rfl⟩ := List.mem_map.mp hname
  exact hterms term hterm

/-- A new objective has the direction of the document. -/
theorem openObjective (h : d.Sound direction n) {name : Text} (hname : Name.isName name = true) :
    (d.openObjective name).Sound direction n := by
  refine ⟨h.directed, ?_, h.constraints, h.increasing, h.table⟩
  intro o ho
  rcases List.mem_append.mp ho with ho | ho
  · exact h.objectives o ho
  · rw [List.mem_singleton.mp ho]
    refine ⟨hname, ?_⟩
    show d.direction.getD .maximize = direction
    rw [h.directed]
    rfl

/-- Coefficients are no part of what is asked of an objective. -/
theorem mergeLast (h : d.Sound direction n) (cs : Coefficients) :
    (d.mergeLast cs).Sound direction n := by
  unfold Draft.mergeLast
  split
  · exact h
  · next o ho =>
    refine ⟨h.directed, ?_, h.constraints, h.increasing, h.table⟩
    intro o' ho'
    rcases List.mem_append.mp ho' with ho' | ho'
    · exact h.objectives o' (List.dropLast_subset _ ho')
    · rw [List.mem_singleton.mp ho']
      have hlast := h.objectives o (List.mem_of_getLast? ho)
      exact ⟨hlast.name, hlast.direction⟩

/-- The objective that is added where none was given has a default name. -/
theorem complete (h : d.Sound direction n) : (Objectives.complete d).Sound direction n := by
  unfold Objectives.complete
  split
  · exact h.openObjective isName_defaultObjectiveName
  · exact h

theorem withTable (h : d.Sound direction n) {table : Table} (htable : table.Sound) :
    Draft.Sound direction n { d with table } :=
  ⟨h.directed, h.objectives, h.constraints, h.increasing, htable⟩

/-- **Closing a constraint keeps the constraints in the order of their lines.** -/
theorem addConstraint (h : d.Sound direction n) {c : Constraint.Open} (hc : c.Sound n d)
    {relation : Relation} {rhs : Float} (hrhs : rhs.isNaN = false) {finished : Constraint}
    (hclose : c.close relation rhs = .ok finished) :
    (d.addConstraint finished).Sound direction n := by
  unfold Constraint.Open.close at hclose
  split at hclose
  · cases hclose
  · split at hclose
    · cases hclose
    · split at hclose
      · cases hclose
      · next hne =>
        cases hclose
        have hline := hc.line_pos
        refine ⟨h.directed, h.objectives, ?_, ?_, h.table⟩
        · intro c' hc'
          rcases List.mem_append.mp hc' with hc' | hc'
          · exact h.constraints c' hc'
          · rw [List.mem_singleton.mp hc']
            refine ⟨hc.name, fun h0 => hne ?_, hrhs, ?_, hc.line_le⟩
            · exact List.isEmpty_iff.mpr h0
            · show 1 ≤ c.line.toNat
              omega
        · show ((d.constraints ++ [_]).map Constraint.line).Pairwise (· < ·)
          rw [List.map_append, List.pairwise_append]
          refine ⟨h.increasing, List.pairwise_singleton _ _, ?_⟩
          intro a ha b hb
          obtain ⟨c', hc', rfl⟩ := List.mem_map.mp ha
          rw [List.map_singleton, List.mem_singleton] at hb
          rw [hb]
          exact hc.behind c' hc'

end Draft.Sound

namespace Constraint.Open.Sound

variable {m n : Nat} {d : Draft} {c : Constraint.Open}

theorem mono (h : c.Sound m d) (hmn : m ≤ n) : c.Sound n d :=
  { h with line_le := Nat.le_trans h.line_le hmn }

/-- The coefficients of an open constraint are not asked for before it is closed. -/
theorem merge (h : c.Sound n d) (cs : Coefficients) : (c.merge cs).Sound n d :=
  ⟨h.name, h.line_pos, h.line_le, h.behind⟩

theorem mention (h : c.Sound n d) (terms : List Term) : c.Sound n (d.mention terms) :=
  ⟨h.name, h.line_pos, h.line_le, h.behind⟩

/-- A constraint that a line opens lies behind the ones before it. -/
theorem ofLine {direction : Direction} {name : Text} (hname : Name.isName name = true)
    (hd : d.Sound direction m) (hmn : m < n) : Sound n d { name, line := n } := by
  refine ⟨hname, ?_, ?_, ?_⟩
  · show (0 : Int) < (n : Int)
    omega
  · show (n : Int).toNat ≤ n
    omega
  · intro c' hc'
    have hle := (hd.constraints c' hc').line_le
    show c'.line < (n : Int).toNat
    omega

end Constraint.Open.Sound

/-! ## The invariant -/

theorem Draft.mergeLast_constraints (d : Draft) (cs : Coefficients) :
    (d.mergeLast cs).constraints = d.constraints := by
  unfold mergeLast
  split <;> rfl

namespace Objectives

variable {direction : Direction} {n : Nat} {s : State}

/-- In the objective section the draft is sound, and has no constraint yet. -/
def State.Sound (direction : Direction) (n : Nat) (s : State) : Prop :=
  s.draft.Sound direction n ∧ s.draft.constraints = []

/-- The objective that a name opens has a name. -/
theorem State.Sound.named (h : s.Sound direction n) {text body : Text} {name? : Option Text}
    (hsplit : ConstraintLine.splitName text = .ok (name?, body)) :
    (s.named name?).Sound direction n := by
  cases name? with
  | none => exact h
  | some name =>
    exact ⟨h.1.openObjective (ConstraintLine.isName_of_splitName hsplit), h.2⟩

theorem State.Sound.opened (h : s.Sound direction n) : s.opened.Sound direction n := by
  unfold State.opened
  split
  · exact h
  · exact ⟨h.1.openObjective Draft.isName_defaultObjectiveName, h.2⟩

theorem State.Sound.extended (h : s.Sound direction n) {body : Text} {terms : List Term}
    (hterms : Expression.terms body = (terms, none)) : (s.extended terms).Sound direction n := by
  refine ⟨(h.1.mention (Expression.isName_of_terms hterms)).mergeLast _, ?_⟩
  exact (Draft.mergeLast_constraints _ _).trans h.2

/-- **Each line of the objective section keeps the state sound.** -/
theorem State.Sound.effect {m : Nat} {text : Text} {v : Cursor.Verdict State (Option Text)}
    (h : s.Sound direction m) (hmn : m < n) (hv : Effect n text s v) :
    v.Leads (State.Sound direction n) (fun s _ => s.Sound direction n) (fun _ _ => True) := by
  have hn : s.Sound direction n := ⟨h.1.mono (Nat.le_of_lt hmn), h.2⟩
  cases hv with
  | blank _ => exact hn
  | keyword target _ => exact ⟨hn.1.switch target, hn.2⟩
  | implicit _ => exact ⟨hn.1.switch .constraints, hn.2⟩
  | named name? hsplit => exact hn.named hsplit
  | adds name? body terms hsplit hterms => exact (hn.named hsplit).opened.extended hterms
  | _ => trivial

/-- Behind the objective section there is an objective, by default one without terms. -/
theorem complete_objectives_ne_nil (d : Draft) : (complete d).objectives ≠ [] := by
  unfold complete
  split
  · exact List.append_ne_nil_of_right_ne_nil _ (List.cons_ne_nil _ _)
  · next h => exact fun h0 => h (List.isEmpty_iff.mpr h0)

theorem complete_constraints (d : Draft) : (complete d).constraints = d.constraints := by
  unfold complete
  split <;> rfl

end Objectives

namespace Constraints

variable {direction : Direction} {m n : Nat} {s : State}

/-- In the constraints section the draft and the open constraint are sound, and there are
    objectives. -/
structure State.Sound (direction : Direction) (n : Nat) (s : State) : Prop where
  draft : s.draft.Sound direction n
  objectives : s.draft.objectives ≠ []
  current : ∀ c, s.current = some c → c.Sound n s.draft

theorem State.Sound.mono (h : s.Sound direction m) (hmn : m ≤ n) : s.Sound direction n :=
  ⟨h.draft.mono hmn, h.objectives, fun c hc => (h.current c hc).mono hmn⟩

/-- A name opens a constraint on its line. Without one the constraints in front are as they were
    before the line, which is what a new constraint has to lie behind. -/
theorem State.Sound.enters (h : s.Sound direction m) (hmn : m < n) {text body : Text} {s' : State}
    (he : Enters n text s body s') :
    s'.Sound direction n ∧ (s'.current = none → s'.draft.Sound direction m) := by
  have hn := h.mono (Nat.le_of_lt hmn)
  cases he with
  | unnamed _ _ => exact ⟨hn, fun _ => h.draft⟩
  | named name _ hsplit _ =>
    refine ⟨⟨hn.draft, hn.objectives, ?_⟩, fun h0 => nomatch h0⟩
    rintro c ⟨⟩
    exact .ofLine (ConstraintLine.isName_of_splitName hsplit) h.draft hmn

/-- The constraint that a line adds to lies behind the closed ones, be it open or new. -/
theorem State.Sound.target (h : s.Sound direction n)
    (hnew : s.current = none → s.draft.Sound direction m) (hmn : m < n) :
    (s.target n).Sound n s.draft := by
  unfold State.target
  cases hcurrent : s.current with
  | none => exact .ofLine (Draft.isName_nextConstraintName _) (hnew hcurrent) hmn
  | some c => exact h.current c hcurrent

/-- What a line adds to a constraint, or closes it with, keeps the state sound. -/
theorem State.Sound.contributes {text body : Text} {v : Cursor.Verdict State Unit}
    (h : s.Sound direction n) (hnew : s.current = none → s.draft.Sound direction m) (hmn : m < n)
    (hv : Contributes n text body s v) :
    v.Leads (State.Sound direction n) (fun _ _ => False) (fun _ _ => True) := by
  have htarget := h.target hnew hmn
  cases hv with
  | adds lhs terms _ hterms =>
    refine ⟨h.draft.mention (Expression.isName_of_terms hterms), h.objectives, ?_⟩
    rintro c ⟨⟩
    exact (htarget.merge _).mention terms
  | closes c d relation rhs said hread hc finished hclose =>
    rcases hc with ⟨rfl, hcurrent, rfl⟩ | ⟨lhs, terms, rfl, hterms, rfl, rfl⟩
    · have hrhs := ConstraintLine.isNaN_of_read hread rfl
      refine ⟨h.draft.addConstraint (h.current c hcurrent) hrhs hclose, h.objectives, ?_⟩
      exact fun c hc => nomatch hc
    · have hrhs := ConstraintLine.isNaN_of_read hread rfl
      have hmention := h.draft.mention (Expression.isName_of_terms hterms)
      refine ⟨hmention.addConstraint ((htarget.merge _).mention terms) hrhs hclose,
        h.objectives, ?_⟩
      exact fun c hc => nomatch hc
  | _ => trivial

/-- **Each line of the constraints section keeps the state sound.** -/
theorem State.Sound.effect {text : Text} {v : Cursor.Verdict State Unit}
    (h : s.Sound direction m) (hmn : m < n) (hv : Effect n text s v) :
    v.Leads (State.Sound direction n)
      (fun s _ => s.draft.Sound direction n ∧ s.draft.objectives ≠ []) (fun _ _ => True) := by
  have hn := h.mono (Nat.le_of_lt hmn)
  cases hv with
  | blank _ => exact hn
  | keyword target _ _ => exact ⟨hn.draft.switch target, hn.objectives⟩
  | enters s' he => exact (h.enters hmn he).1
  | contributes body s' v he hv =>
    obtain ⟨hs', hnew⟩ := h.enters hmn he
    have hleads := hs'.contributes hnew hmn hv
    cases v with
    | more s'' => exact hleads
    | done s'' a => exact hleads.elim
    | failed s'' fault => trivial
  | _ => trivial

end Constraints

/-- Bounds and kinds keep a draft sound. -/
theorem Declarations.sound_effect {direction : Direction} {m n : Nat} {text : Text} {d : Draft}
    {v : Cursor.Verdict Draft Unit} (h : d.Sound direction m ∧ d.objectives ≠ []) (hmn : m < n)
    (hv : Effect n text d v) :
    v.Leads (fun d => d.Sound direction n ∧ d.objectives ≠ [])
      (fun d _ => d.Sound direction n ∧ d.objectives ≠ []) (fun _ _ => True) := by
  have hn := h.1.mono (Nat.le_of_lt hmn)
  cases hv with
  | blank _ => exact ⟨hn, h.2⟩
  | keyword target _ => exact ⟨hn.switch target, h.2⟩
  | lists kind table _ hassign => exact ⟨hn.withTable (hn.table.assign hassign), h.2⟩
  | bounds b _ hread =>
    refine ⟨hn.withTable (hn.table.update fun c hc => ?_), h.2⟩
    exact (Bound.sound_of_read hread).apply hc
  | _ => trivial

/-- The state is sound, with the direction that the source gives. Of faults nothing is asked. -/
def Invariant.sound (source : Source) : Invariant where
  objectives n s := ∃ direction, source.direction? = some direction ∧ s.Sound direction n
  constraints n s := ∃ direction, source.direction? = some direction ∧ s.Sound direction n
  declarations n d := ∃ direction, source.direction? = some direction ∧
    d.Sound direction n ∧ d.objectives ≠ []
  fault _ _ := True

/-- **Soundness is an invariant of reading.** -/
theorem Invariant.sound_kept (source : Source) : (sound source).Kept source where
  ending _ := trivial
  undirected _ _ := trivial
  start n direction hdirection := by
    refine ⟨direction, hdirection, ⟨rfl, ?_, ?_, List.Pairwise.nil, ?_⟩, rfl⟩
    · exact fun o ho => absurd ho List.not_mem_nil
    · exact fun c hc => absurd hc List.not_mem_nil
    · exact fun c hc => absurd hc List.not_mem_nil
  objective := by
    rintro m n text s v ⟨direction, hdirection, h⟩ hmn hv
    exact (h.effect hmn hv).mono (fun s hs => ⟨direction, hdirection, hs⟩)
      (fun s _ hs => ⟨direction, hdirection, hs⟩) fun _ _ h => h
  constrained := by
    rintro m n s ⟨direction, hdirection, h, hnone⟩ -
    have hcomplete := h.complete
    refine ⟨direction, hdirection, ⟨⟨hcomplete.directed, hcomplete.objectives, ?_,
      hcomplete.increasing, hcomplete.table⟩, Objectives.complete_objectives_ne_nil _, ?_⟩⟩
    · intro c hc
      rw [Objectives.complete_constraints, hnone] at hc
      exact absurd hc List.not_mem_nil
    · exact fun c hc => nomatch hc
  declared := by
    rintro n s ⟨direction, hdirection, h, -⟩
    exact ⟨direction, hdirection, h.complete, Objectives.complete_objectives_ne_nil _⟩
  constraint := by
    rintro m n text s v ⟨direction, hdirection, h⟩ hmn hv
    exact (h.effect hmn hv).mono (fun s hs => ⟨direction, hdirection, hs⟩)
      (fun s _ hs => ⟨direction, hdirection, hs⟩) fun _ _ h => h
  declaration := by
    rintro m n text d v ⟨direction, hdirection, h⟩ hmn hv
    exact (Declarations.sound_effect h hmn hv).mono (fun d hd => ⟨direction, hdirection, hd⟩)
      (fun d _ hd => ⟨direction, hdirection, hd⟩) fun _ _ h => h
  assembly _ _ _ _ _ _ := trivial

/-! ## Models -/

/-- **A sound draft makes a well-formed model**, if it makes one at all. -/
theorem Draft.Sound.modelOf {direction : Direction} {n : Nat} {d : Draft}
    (h : d.Sound direction n) (hne : d.objectives ≠ []) {m : Model}
    (hm : Session.modelOf d = .ok m) : m.WellFormed direction n := by
  obtain ⟨hobjectives, hconstraints, hvars⟩ := Session.modelOf_eq_ok hm
  refine ⟨?_, ?_, ?_, ?_, ?_⟩
  · rw [hobjectives]
    exact hne
  · rw [hobjectives]
    exact h.objectives
  · rw [hconstraints]
    exact h.constraints
  · rw [hconstraints]
    exact h.increasing
  · intro v hv
    obtain ⟨c, hc, hfinish⟩ := Session.mem_of_checkAll hvars v hv
    exact (h.table c hc).finish hfinish

/-- **Every model that a source describes is well formed**: its objectives have the direction that
    the source begins with, and its constraints lie among the lines that were read. -/
theorem Source.wellFormed_of_model {source : Source} {m : Model} (h : source.model = .ok m) :
    ∃ direction, source.direction? = some direction ∧
      (Session.parse source {}).session.cursor.number ≤ source.lines.length ∧
      m.WellFormed direction (Session.parse source {}).session.cursor.number := by
  have hparse := (Invariant.sound_kept source).parse
  unfold Session.Outcome.Leads at hparse
  rw [show (Session.parse source {}).result = .ok m from h] at hparse
  obtain ⟨hstands, ⟨direction, hdirection, hsound, hne⟩, hmodel⟩ := hparse
  exact ⟨direction, hdirection, hstands.number, hsound.modelOf hne hmodel⟩

/-- A constraint without a name on the fourth of seven lines, and a binary variable. -/
theorem Source.wellFormed_of_model_binary :
    ∃ m direction,
      (Source.ofText "max\n2 x\nst\nx + y <= 4\nbin\ny\nend".toList).model = .ok m ∧
      m.constraints.map Constraint.line = [4] ∧ m.WellFormed direction 7 := by
  have hmodel : (Source.ofText "max\n2 x\nst\nx + y <= 4\nbin\ny\nend".toList).model = .ok
      { objectives := [⟨"obj".toList, .maximize, [("x".toList, 2.0)]⟩]
        constraints := [⟨"R1".toList, 4, [("x".toList, 1.0), ("y".toList, 1.0)], .le, 4.0⟩]
        vars := [⟨"x".toList, 0.0, Quantity.infinity, .continuous⟩,
          ⟨"y".toList, 0.0, 1.0, .binary⟩] } :=
    model_eq_ok_of_toOption (by decide +kernel)
  have hread : (Session.parse (Source.ofText "max\n2 x\nst\nx + y <= 4\nbin\ny\nend".toList)
      {}).session.cursor.number = 7 := by
    decide +kernel
  obtain ⟨direction, -, -, hwell⟩ := wellFormed_of_model hmodel
  rw [hread] at hwell
  exact ⟨_, direction, hmodel, rfl, hwell⟩

end LinearProgram

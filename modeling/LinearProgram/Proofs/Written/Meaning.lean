/-
  Meaning — the meaning of what is written, in terms of the signs, numbers and names that are
  written.

  1. **Balances** — where terms are summed up under their signs, those behind a plus are added and
     those behind a minus are subtracted, from left to right and beginning with zero
     (`sumOf_signed`).

  2. **Declarations** — the declaring sections as one list of declarations. Each bound of a variable
     is the last one that was declared for it, and so is its kind; what was not declared is the
     default (`Document.columns_eq`). The list is taken declaration by declaration, and the last
     value of a longer list is that of its rest, unless the rest has none.

  3. **Cuts** — the bounds of a binary variable are cut down to the interval from 0 to 1: the lower
     one is the larger of itself and zero, the upper one the smaller of itself and one.

  4. **Documents** — together they say what `Document.meaning` is without any of the program's own
     steps (`Document.meaning_cases`).
-/

import LinearProgram.Proofs.Binary64.Difference
import LinearProgram.Proofs.Document.WellFormed
import LinearProgram.Proofs.Written.Laid
import LinearProgram.Proofs.Written.Parse

namespace LinearProgram

/-! ## Balances -/

/-- The terms of a variable, each with the sign in front of it, added up behind a plus and
    subtracted behind a minus. -/
def Coefficients.balance (entries : List (Sign × Term)) (name : Text) : Float :=
  (entries.filter (·.2.name = name)).foldl
    (fun sum e => if e.1 = .minus then sum - e.2.value else sum + e.2.value) 0.0

/-- **A sum of signed terms is a balance.** -/
theorem Coefficients.sumOf_signed (entries : List (Sign × Term)) (name : Text) :
    sumOf (entries.map fun e => ⟨e.1.apply e.2.value, e.2.name⟩) name = balance entries name := by
  unfold sumOf balance
  rw [List.filter_map, List.foldl_map]
  congr 1
  funext sum e
  obtain ⟨s, term⟩ := e
  cases s with
  | plus => rfl
  | minus => exact (Binary64.sub_eq_add_neg sum term.value).symm

namespace Written

/-- The sign of a term, and the term behind it. -/
def SignedTerm.entry (t : SignedTerm) : Sign × Term :=
  (t.sign, ⟨t.coefficient?.elim 1.0 fun n => n.value, t.name.text⟩)

/-- The sign of a term, and the term behind it. -/
def LaidTerm.entry (t : LaidTerm) : Sign × Term :=
  (t.sign, ⟨t.coefficient?.elim 1.0 fun n => n.value, t.name.text⟩)

/-- The variables of terms, in the order of first mention, each with its balance. -/
def balances (ts : List SignedTerm) : Coefficients :=
  (ts.map fun t => t.name.text).eraseDups.map fun name =>
    (name, Coefficients.balance (ts.map SignedTerm.entry) name)

/-- **The coefficients of a body are the balances of its terms.** -/
theorem coefficients_eq (ts : List SignedTerm) : coefficients ts = balances ts := by
  refine List.map_congr_left fun name _ => ?_
  rw [← Coefficients.sumOf_signed, List.map_map]
  rfl

/-- **The coefficients of an expression are the balances of its terms**, whatever blanks they are
    laid out with. -/
theorem Laid.sumOf_meant (e : Laid) (name : Text) :
    Coefficients.sumOf e.meant name = Coefficients.balance (e.terms.map LaidTerm.entry) name := by
  rw [← Coefficients.sumOf_signed, List.map_map]
  rfl

/-! ## Declarations -/

/-- A declaration: a bound, or a variable in a list that gives it a kind. -/
inductive Statement where
  | bound (b : Bound)
  | listed (kind : Variable.Kind) (x : VariableName)

namespace Statement

/-- The variable that is declared. -/
def name : Statement → Text
  | bound b => b.name.text
  | listed _ x => x.text

/-- The lower bound that is declared. -/
def lower? : Statement → Option Float
  | bound (.fixed _ v) => some v.number
  | bound (.free _) => some (-Quantity.infinity)
  | bound (.lower _ v _) => some v.number
  | bound (.upper _ _ _) => none
  | bound (.between _ l _ _) => some l.number
  | listed _ _ => none

/-- The upper bound that is declared. -/
def upper? : Statement → Option Float
  | bound (.fixed _ v) => some v.number
  | bound (.free _) => some Quantity.infinity
  | bound (.lower _ _ _) => none
  | bound (.upper _ v _) => some v.number
  | bound (.between _ _ u _) => some u.number
  | listed _ _ => none

/-- The kind that is declared. -/
def kind? : Statement → Option Variable.Kind
  | bound _ => none
  | listed kind _ => some kind

/-- The last value that is declared, or the default. -/
def last {α : Type} (value? : Statement → Option α) (default : α) (ss : List Statement) : α :=
  (ss.filterMap value?).getLast?.getD default

/-- What a first declaration says is the default for those behind it. -/
theorem last_cons {α : Type} (value? : Statement → Option α) (default : α) (s : Statement)
    (ss : List Statement) :
    last value? default (s :: ss) = last value? ((value? s).getD default) ss := by
  unfold last
  cases hs : value? s with
  | none =>
    rw [List.filterMap_cons_none hs]
    rfl
  | some a =>
    rw [List.filterMap_cons_some hs, List.getLast?_cons]
    rfl

/-- Of numbers, the last one is a number. -/
theorem isNaN_last {value? : Statement → Option Float}
    (hvalue : ∀ s x, value? s = some x → x.isNaN = false) {default : Float}
    (hdefault : default.isNaN = false) (ss : List Statement) :
    (last value? default ss).isNaN = false := by
  induction ss generalizing default with
  | nil => exact hdefault
  | cons s ss ih =>
    rw [last_cons]
    cases hs : value? s with
    | none => exact ih hdefault
    | some a => exact ih (hvalue s a hs)

/-- The declarations are of numbers. -/
theorem isNaN_lower? (s : Statement) (x : Float) (h : s.lower? = some x) : x.isNaN = false := by
  have hvalue : ∀ v : Value, v.number.isNaN = false := fun v => Quantity.isNaN_of_read v.read
  cases s with
  | listed kind y => cases h
  | bound b =>
    cases b with
    | fixed y v | lower y v mirrored | between y v u mirrored =>
      cases h
      exact hvalue v
    | free y =>
      cases h
      decide
    | upper y v mirrored => cases h

theorem isNaN_upper? (s : Statement) (x : Float) (h : s.upper? = some x) : x.isNaN = false := by
  have hvalue : ∀ v : Value, v.number.isNaN = false := fun v => Quantity.isNaN_of_read v.read
  cases s with
  | listed kind y => cases h
  | bound b =>
    cases b with
    | fixed y v | upper y v mirrored | between y l v mirrored =>
      cases h
      exact hvalue v
    | free y =>
      cases h
      exact Quantity.isNaN_infinity
    | lower y v mirrored => cases h

/-- What becomes of the column of the variable. -/
def effect : Statement → Effect
  | bound b => (b.name.text, b.change.apply)
  | listed kind x => (x.text, fun c => { c with kind })

/-- **A declaration sets what it says and leaves the rest.** -/
theorem effect_snd (s : Statement) (c : Column) :
    s.effect.2 c = ⟨c.name, s.lower?.getD c.lower, s.upper?.getD c.upper, s.kind?.getD c.kind⟩ := by
  cases s with
  | listed kind x => rfl
  | bound b => cases b <;> rfl

theorem foldl_effect (ss : List Statement) (c : Column) :
    ss.foldl (fun c s => s.effect.2 c) c =
      ⟨c.name, last lower? c.lower ss, last upper? c.upper ss, last kind? c.kind ss⟩ := by
  induction ss generalizing c with
  | nil => rfl
  | cons s ss ih => rw [List.foldl_cons, ih, last_cons, last_cons, last_cons, effect_snd]

end Statement

/-- The declarations of a section, in order. -/
def Block.statements : Block → List Statement
  | bounds _ bs => bs.map .bound
  | binaries _ lists => lists.flatten.map (.listed .binary)
  | generals _ lists => lists.flatten.map (.listed .integer)

theorem Block.effects_eq (b : Block) : b.effects = b.statements.map Statement.effect := by
  have hlists : ∀ (kind : Variable.Kind) (lists : List (List VariableName)),
      lists.flatMap (listEffects kind) =
        (lists.flatten.map (Statement.listed kind)).map Statement.effect := by
    intro kind lists
    rw [List.map_map, List.map_flatten]
    rfl
  cases b with
  | bounds k bs =>
    show _ = (bs.map Statement.bound).map Statement.effect
    rw [List.map_map]
    rfl
  | binaries k lists => exact hlists .binary lists
  | generals k lists => exact hlists .integer lists

namespace Document

/-- The declarations of a variable, in order. -/
def declared (d : Document) (name : Text) : List Statement :=
  (d.blocks.flatMap Block.statements).filter (·.name = name)

/-- The lower bound that is declared for a variable; zero by default. -/
def lowerOf (d : Document) (name : Text) : Float :=
  Statement.last Statement.lower? 0.0 (d.declared name)

/-- The upper bound that is declared for a variable; there is none by default. -/
def upperOf (d : Document) (name : Text) : Float :=
  Statement.last Statement.upper? Quantity.infinity (d.declared name)

/-- The kind that is declared for a variable; continuous by default. -/
def kindOf (d : Document) (name : Text) : Variable.Kind :=
  Statement.last Statement.kind? .continuous (d.declared name)

/-- **The columns of a document** have what is declared for their variables. -/
theorem columns_eq (d : Document) : d.columns = d.mentions.eraseDups.map fun name =>
    ⟨name, d.lowerOf name, d.upperOf name, d.kindOf name⟩ := by
  have heffects : d.effects = (d.blocks.flatMap Block.statements).map Statement.effect := by
    show d.blocks.flatMap Block.effects = _
    rw [List.map_flatMap, funext Block.effects_eq]
  refine List.map_congr_left fun name _ => ?_
  have hname : (fun e : Effect => decide (e.1 = name)) ∘ Statement.effect =
      fun s => decide (s.name = name) := by
    funext s
    cases s <;> rfl
  unfold columnBehind
  rw [heffects, List.filter_map, List.foldl_map, hname]
  exact Statement.foldl_effect (d.declared name) { name }

theorem isNaN_lowerOf (d : Document) (name : Text) : (d.lowerOf name).isNaN = false :=
  Statement.isNaN_last Statement.isNaN_lower? (by decide) _

theorem isNaN_upperOf (d : Document) (name : Text) : (d.upperOf name).isNaN = false :=
  Statement.isNaN_last Statement.isNaN_upper? Quantity.isNaN_infinity _

end Document

/-! ## Cuts -/

/-- The number is the larger one of two. -/
structure Larger (x y z : Float) : Prop where
  left : x ≤ z
  right : y ≤ z
  either : z = x ∨ z = y

/-- The number is the smaller one of two. -/
structure Smaller (x y z : Float) : Prop where
  left : z ≤ x
  right : z ≤ y
  either : z = x ∨ z = y

theorem larger_raisedToZero {x : Float} (h : x.isNaN = false) :
    Larger 0.0 x (Column.raisedToZero x) := by
  unfold Column.raisedToZero
  split
  · next hx => exact ⟨by decide, Binary64.le_of_lt hx, Or.inl rfl⟩
  · next hx => exact ⟨Binary64.le_of_not_lt (by decide) h hx, Binary64.le_refl h, Or.inr rfl⟩

theorem smaller_loweredToOne {x : Float} (h : x.isNaN = false) :
    Smaller 1.0 x (Column.loweredToOne x) := by
  unfold Column.loweredToOne
  split
  · next hx => exact ⟨by decide, Binary64.le_of_lt hx, Or.inl rfl⟩
  · next hx => exact ⟨Binary64.le_of_not_lt h (by decide) hx, Binary64.le_refl h, Or.inr rfl⟩

/-! ## Documents -/

/-- What a document says of a variable: its kind and its bounds are those that are declared, but the
    bounds of a binary variable do not leave the interval from 0 to 1. -/
structure Document.Describes (d : Document) (x : Text) (v : Variable) : Prop where
  name : v.name = x
  kind : v.kind = d.kindOf x
  lower : d.kindOf x ≠ .binary → v.lower = d.lowerOf x
  upper : d.kindOf x ≠ .binary → v.upper = d.upperOf x
  lowerBinary : d.kindOf x = .binary → Larger 0.0 (d.lowerOf x) v.lower
  upperBinary : d.kindOf x = .binary → Smaller 1.0 (d.upperOf x) v.upper

namespace Document

/-- The variable that is made of what a document declares. -/
def record (d : Document) (name : Text) : Variable :=
  let c : Column := ⟨name, d.lowerOf name, d.upperOf name, d.kindOf name⟩
  ⟨c.name, c.finalLower, c.finalUpper, c.kind⟩

theorem describes_record (d : Document) (name : Text) : d.Describes name (d.record name) := by
  refine ⟨rfl, rfl, fun hkind => if_neg hkind, fun hkind => if_neg hkind, fun hkind => ?_,
    fun hkind => ?_⟩
  · have hlower : (d.record name).lower = Column.raisedToZero (d.lowerOf name) := if_pos hkind
    rw [hlower]
    exact larger_raisedToZero (d.isNaN_lowerOf name)
  · have hupper : (d.record name).upper = Column.loweredToOne (d.upperOf name) := if_pos hkind
    rw [hupper]
    exact smaller_loweredToOne (d.isNaN_upperOf name)

theorem forall₂_describes (d : Document) (names : List Text) :
    List.Forall₂ d.Describes names (names.map d.record) :=
  List.forall₂_map_right_iff.mpr (List.forall₂_same.mpr fun name _ => d.describes_record name)

/-- **What a document means.** It has a model unless the bounds of a variable are inverted; in that
    case the first such variable is named. The model has the objectives and the constraints that are
    written, with the balances of their terms, and the variables that the document describes. -/
theorem meaning_cases (d : Document) :
    (∃ m, d.meaning = .ok m ∧
      m.objectives = d.objectives.map (fun o => ⟨o.name.text, d.direction, balances o.terms⟩) ∧
      m.constraints = (d.constraints.zipIdx d.firstConstraintLine).map (fun (c, n) =>
        ⟨c.name.text, n, balances c.terms, c.operator.relation, c.rhs.number⟩) ∧
      List.Forall₂ d.Describes d.mentions.eraseDups m.vars ∧
      ∀ v ∈ m.vars, ¬ v.upper < v.lower) ∨
    ∃ front name rest vs v, d.mentions.eraseDups = front ++ name :: rest ∧
      List.Forall₂ d.Describes front vs ∧ (∀ v ∈ vs, ¬ v.upper < v.lower) ∧
      d.Describes name v ∧ v.upper < v.lower ∧
      d.meaning = .error
        { cause := .invertedBounds name v.lower v.upper
          line := d.lines.length
          within := some .finish } := by
  have hfind : (d.columns.find? fun c => c.finalLower > c.finalUpper) =
      (d.mentions.eraseDups.find? fun name => (d.record name).upper < (d.record name).lower).map
        fun name => ⟨name, d.lowerOf name, d.upperOf name, d.kindOf name⟩ := by
    rw [columns_eq, List.find?_map]
    rfl
  cases hname : d.mentions.eraseDups.find? fun name =>
      (d.record name).upper < (d.record name).lower with
  | none =>
    rw [hname] at hfind
    have hvars : d.columns.map (fun c => ⟨c.name, c.finalLower, c.finalUpper, c.kind⟩) =
        d.mentions.eraseDups.map d.record := by
      rw [columns_eq, List.map_map]
      rfl
    have hmeaning : d.meaning = .ok
        { objectives := d.objectives.map (Objective.objective d.direction)
          constraints := (d.constraints.zipIdx d.firstConstraintLine).map fun (c, n) =>
            c.constraint n
          vars := d.mentions.eraseDups.map d.record } := by
      unfold meaning
      rw [hfind, ← hvars]
      rfl
    refine Or.inl ⟨_, hmeaning, ?_, ?_, d.forall₂_describes _, ?_⟩
    · refine List.map_congr_left fun o _ => ?_
      rw [← coefficients_eq]
      rfl
    · refine List.map_congr_left fun (c, n) _ => ?_
      dsimp only
      rw [← coefficients_eq]
      rfl
    · intro v hv
      obtain ⟨name, hmem, rfl⟩ := List.mem_map.mp hv
      simpa using List.find?_eq_none.mp hname name hmem
  | some name =>
    rw [hname] at hfind
    obtain ⟨hinverted, front, rest, hnames, hfront⟩ := List.find?_eq_some_iff_append.mp hname
    refine Or.inr ⟨front, name, rest, front.map d.record, d.record name, hnames,
      d.forall₂_describes front, ?_, d.describes_record name, of_decide_eq_true hinverted, ?_⟩
    · intro v hv
      obtain ⟨other, hother, rfl⟩ := List.mem_map.mp hv
      simpa using hfront other hother
    · unfold meaning
      rw [hfind]
      rfl

end Document

end Written

end LinearProgram

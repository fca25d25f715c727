/-
  Replay — the record of each variable, from what is declared about it.

  1. **Records** — a variable starts with bounds 0 and infinity. The bounds that are declared about
     it are replayed in order, its kind is the last one it is given, and only then the bounds of a
     binary variable are cut down (`Variable.replayed`).

  2. **Columns** — performing declarations on a table changes each column by the declarations about
     it and by no other (`Declaration.foldlM_perform`); a bound and a kind do not touch the same
     part of a column, so that all bounds and all kinds can be replayed apart.

  3. **Documents** — so every record of a model is replayed, and declarations may be rearranged as
     long as the bounds of each variable, and its kinds, stay in order
     (`Source.replayed_of_model`).
-/

import LinearProgram.Proofs.Bound
import LinearProgram.Proofs.Document.Declared
import Mathlib.Data.List.Forall2
import Mathlib.Data.List.Induction

namespace LinearProgram

/-! ## Records -/

/-- The lower and the upper bound behind a change. -/
def Bound.Change.on : Bound.Change → Float × Float → Float × Float
  | .lower x, (_, u) => (x, u)
  | .upper x, (l, _) => (l, x)
  | .both l u, _ => (l, u)

/-- The bounds of a variable: those it starts with, changed by the bounds about it. -/
def Bound.replay (bounds : List Bound) (name : Text) : Float × Float :=
  (bounds.filter (·.name = name)).foldl (fun interval b => b.change.on interval)
    (0.0, Quantity.infinity)

theorem Bound.replay_concat (bounds : List Bound) (b : Bound) (name : Text) :
    replay (bounds ++ [b]) name =
      if name = b.name then b.change.on (replay bounds name) else replay bounds name := by
  unfold replay
  by_cases h : name = b.name
  · rw [if_pos h, List.filter_append, List.filter_cons_of_pos (by simp [h]), List.foldl_append]
    rfl
  · have h' : ¬ b.name = name := fun hsame => h hsame.symm
    rw [if_neg h, List.filter_append, List.filter_cons_of_neg (by simp [h']), List.filter_nil,
      List.append_nil]

/-- The kind that a variable was given last. -/
def Variable.Kind.last (mentions : List (Variable.Kind × Text)) (name : Text) : Variable.Kind :=
  ((mentions.filter (·.2 = name)).getLast?.map Prod.fst).getD .continuous

theorem Variable.Kind.last_concat (mentions : List (Variable.Kind × Text)) (kind : Variable.Kind)
    (other name : Text) :
    last (mentions ++ [(kind, other)]) name = if name = other then kind else last mentions name := by
  unfold last
  by_cases h : name = other
  · rw [if_pos h, List.filter_append, List.filter_cons_of_pos (by simp [h]), List.filter_nil,
      List.getLast?_concat]
    rfl
  · have h' : ¬ other = name := fun hsame => h hsame.symm
    rw [if_neg h, List.filter_append, List.filter_cons_of_neg (by simp [h']), List.filter_nil,
      List.append_nil]

/-- Bounds cut down to the interval from 0 to 1. -/
def Bound.clamp (interval : Float × Float) : Float × Float :=
  (Column.raisedToZero interval.1, Column.loweredToOne interval.2)

/-- The record of a variable. -/
def Variable.replayed (bounds : List Bound) (mentions : List (Variable.Kind × Text))
    (name : Text) : Variable :=
  let kind := Kind.last mentions name
  let interval := if kind = .binary then Bound.clamp (Bound.replay bounds name)
    else Bound.replay bounds name
  ⟨name, interval.1, interval.2, kind⟩

/-! ## Columns -/

namespace Declaration

/-- The line of a bound. -/
def line? : Declaration → Option Text
  | .bound line => some line
  | .listed _ _ => none

/-- The bound, where these names are registered. -/
def bound? (names : List Text) : Declaration → Option Bound
  | .bound line =>
    match Bound.read (Table.fresh names) line with
    | .ok b => some b
    | .error _ => none
  | .listed _ _ => none

/-- The kind that is given, and to whom. -/
def mention? : Declaration → Option (Variable.Kind × Text)
  | .bound _ => none
  | .listed kind name => some (kind, name)

theorem bound?_eq_some_iff {names : List Text} {line : Text} {b : Bound} :
    bound? names (.bound line) = some b ↔ Bound.Says names line b := by
  have hiff := @Bound.read_eq_ok_iff (Table.fresh names) line b
  rw [Table.names_fresh] at hiff
  rw [← hiff]
  dsimp only [bound?]
  cases Bound.read (Table.fresh names) line with
  | error cause =>
    constructor
    · exact fun h => nomatch h
    · exact fun h => nomatch h
  | ok b' =>
    constructor
    · exact fun h => congrArg Except.ok (Option.some.inj h)
    · exact fun h => congrArg some (Except.ok.inj h)

/-- Can the declaration be performed where these names are registered? -/
def Performable (names : List Text) : Declaration → Prop
  | .bound line => ∃ b, Bound.Says names line b
  | .listed _ name => name ∈ names

/-- What becomes of a column. -/
def onColumn (names : List Text) (c : Column) : Declaration → Column
  | .bound line =>
    match bound? names (.bound line) with
    | some b => if c.name = b.name then b.change.apply c else c
    | none => c
  | .listed kind name => if c.name = name then { c with kind } else c

theorem onColumn_bound {names : List Text} {line : Text} {b : Bound}
    (h : Bound.Says names line b) (c : Column) :
    onColumn names c (.bound line) = if c.name = b.name then b.change.apply c else c := by
  dsimp only [onColumn]
  rw [bound?_eq_some_iff.mpr h]

theorem name_onColumn (names : List Text) (c : Column) (d : Declaration) :
    (onColumn names c d).name = c.name := by
  cases d with
  | bound line =>
    dsimp only [onColumn]
    split
    · split
      · exact Bound.Change.name_apply _ c
      · rfl
    · rfl
  | listed kind name =>
    dsimp only [onColumn]
    split <;> rfl

/-- **One declaration** changes the columns that it is about. -/
theorem perform_eq_ok_iff {table table' : Table} {d : Declaration} :
    perform table d = .ok table' ↔
      d.Performable table.names ∧ table' = table.map fun c => d.onColumn table.names c := by
  cases d with
  | bound line =>
    have hread : ∀ b, Bound.read table line = .ok b ↔ Bound.Says table.names line b :=
      fun b => Bound.read_eq_ok_iff
    constructor
    · intro h
      obtain ⟨b, hb, rfl⟩ := Bound.map_eq_ok_iff.mp h
      have hsays := (hread b).mp hb
      exact ⟨⟨b, hsays⟩, List.map_congr_left fun c _ => (onColumn_bound hsays c).symm⟩
    · rintro ⟨⟨b, hsays⟩, rfl⟩
      refine Bound.map_eq_ok_iff.mpr ⟨b, (hread b).mpr hsays, ?_⟩
      exact List.map_congr_left fun c _ => (onColumn_bound hsays c).symm
  | listed kind name =>
    unfold perform Performable
    dsimp only
    by_cases hname : table.has name = true
    · have hmem := (Table.has_iff table name).mp hname
      rw [if_pos hname]
      constructor
      · intro h
        cases h
        exact ⟨hmem, rfl⟩
      · rintro ⟨-, rfl⟩
        rfl
    · rw [if_neg hname]
      constructor
      · exact fun h => nomatch h
      · exact fun h => absurd ((Table.has_iff table name).mpr h.1) hname

theorem names_map_onColumn (names : List Text) (table : Table) (d : Declaration) :
    Table.names (table.map fun c => d.onColumn names c) = table.names := by
  unfold Table.names
  rw [List.map_map]
  exact List.map_congr_left fun c _ => name_onColumn names c d

/-- **Declarations change each column by itself.** -/
theorem foldlM_perform {ds : List Declaration} {table table' : Table} :
    ds.foldlM perform table = .ok table' ↔
      (∀ d ∈ ds, d.Performable table.names) ∧
        table' = table.map fun c => ds.foldl (onColumn table.names) c := by
  induction ds generalizing table with
  | nil =>
    constructor
    · intro h
      cases h
      exact ⟨fun d hd => absurd hd List.not_mem_nil, (List.map_id' _).symm⟩
    · rintro ⟨-, rfl⟩
      exact congrArg Except.ok (List.map_id' _).symm
  | cons d ds ih =>
    rw [List.foldlM_cons]
    have hnames := names_map_onColumn table.names table d
    constructor
    · intro h
      cases hd : perform table d with
      | error cause =>
        rw [hd] at h
        cases h
      | ok middle =>
        rw [hd] at h
        obtain ⟨hperformable, rfl⟩ := perform_eq_ok_iff.mp hd
        obtain ⟨hrest, rfl⟩ := ih.mp h
        rw [hnames] at hrest ⊢
        refine ⟨?_, ?_⟩
        · intro d' hd'
          rcases List.mem_cons.mp hd' with rfl | hd'
          · exact hperformable
          · exact hrest d' hd'
        · rw [List.map_map]
          rfl
    · rintro ⟨hperformable, rfl⟩
      rw [perform_eq_ok_iff.mpr ⟨hperformable d List.mem_cons_self, rfl⟩]
      refine ih.mpr ⟨?_, ?_⟩
      · rw [hnames]
        exact fun d' hd' => hperformable d' (List.mem_cons_of_mem d hd')
      · rw [hnames, List.map_map]
        rfl

/-- **Bounds and kinds can be replayed apart.** -/
theorem foldl_onColumn (names : List Text) (ds : List Declaration) (name : Text) :
    ds.foldl (onColumn names) { name := name } =
      { name := name
        lower := (Bound.replay (ds.filterMap (bound? names)) name).1
        upper := (Bound.replay (ds.filterMap (bound? names)) name).2
        kind := Variable.Kind.last (ds.filterMap mention?) name } := by
  induction ds using List.reverseRecOn with
  | nil => rfl
  | append_singleton ds d ih =>
    rw [List.foldl_concat, ih]
    cases d with
    | bound line =>
      have hmentions : (ds ++ [bound line]).filterMap mention? = ds.filterMap mention? := by
        rw [List.filterMap_append, List.filterMap_cons_none rfl]
        exact List.append_nil _
      rw [hmentions]
      cases hb : bound? names (.bound line) with
      | none =>
        have hbounds : (ds ++ [bound line]).filterMap (bound? names) =
            ds.filterMap (bound? names) := by
          rw [List.filterMap_append, List.filterMap_cons_none hb]
          exact List.append_nil _
        rw [hbounds]
        dsimp only [onColumn]
        rw [hb]
      | some b =>
        have hbounds : (ds ++ [bound line]).filterMap (bound? names) =
            ds.filterMap (bound? names) ++ [b] := by
          rw [List.filterMap_append, List.filterMap_cons_some hb]
          rfl
        rw [hbounds, Bound.replay_concat, onColumn_bound (bound?_eq_some_iff.mp hb)]
        dsimp only
        split
        · cases b.change <;> rfl
        · rfl
    | listed kind other =>
      have hbounds : (ds ++ [listed kind other]).filterMap (bound? names) =
          ds.filterMap (bound? names) := by
        rw [List.filterMap_append, List.filterMap_cons_none rfl]
        exact List.append_nil _
      have hmentions : (ds ++ [listed kind other]).filterMap mention? =
          ds.filterMap mention? ++ [(kind, other)] := by
        rw [List.filterMap_append]
        rfl
      rw [hbounds, hmentions, Variable.Kind.last_concat]
      dsimp only [onColumn]
      split <;> rfl

/-! ### Rearrangements -/

/-- Is the declaration a bound of the variable? -/
def bounds (names : List Text) (x : Text) (d : Declaration) : Bool :=
  (d.bound? names).any (·.name = x)

/-- Does the declaration give a kind to the variable? -/
def lists (x : Text) (d : Declaration) : Bool := d.mention?.any (·.2 = x)

/-- The same declarations in another order, but for each variable its bounds in the same order, and
    its kinds. -/
structure Rearranged (names : List Text) (ds ds' : List Declaration) : Prop where
  perm : ds'.Perm ds
  bounds : ∀ x, ds'.filter (bounds names x) = ds.filter (bounds names x)
  lists : ∀ x, ds'.filter (lists x) = ds.filter (lists x)

theorem filter_filterMap_eq {α β : Type} (f : α → Option β) (p : β → Bool) (as : List α) :
    (as.filterMap f).filter p = (as.filter fun a => (f a).any p).filterMap f := by
  rw [List.filter_filterMap, List.filterMap_filter]
  apply List.filterMap_congr
  intro a _
  cases f a with
  | none => rfl
  | some b => cases hb : p b <;> simp [Option.filter, hb]

/-- **What is declared about each variable** does not depend on the arrangement. -/
theorem Rearranged.foldl_onColumn {names : List Text} {ds ds' : List Declaration}
    (h : Rearranged names ds ds') (name : Text) :
    ds'.foldl (onColumn names) { name := name } = ds.foldl (onColumn names) { name := name } := by
  have hbounds : (ds'.filterMap (bound? names)).filter (·.name = name) =
      (ds.filterMap (bound? names)).filter (·.name = name) := by
    rw [filter_filterMap_eq, filter_filterMap_eq]
    exact congrArg (List.filterMap (bound? names)) (h.bounds name)
  have hlists : (ds'.filterMap mention?).filter (·.2 = name) =
      (ds.filterMap mention?).filter (·.2 = name) := by
    rw [filter_filterMap_eq, filter_filterMap_eq]
    exact congrArg (List.filterMap mention?) (h.lists name)
  rw [Declaration.foldl_onColumn, Declaration.foldl_onColumn]
  unfold Bound.replay Variable.Kind.last
  rw [hbounds, hlists]

/-- The bounds of declarations that can be performed. -/
theorem forall₂_says {names : List Text} {ds : List Declaration}
    (h : ∀ d ∈ ds, d.Performable names) :
    List.Forall₂ (Bound.Says names) (ds.filterMap line?) (ds.filterMap (bound? names)) := by
  induction ds with
  | nil => exact .nil
  | cons d ds ih =>
    have hrest := ih fun d' hd' => h d' (List.mem_cons_of_mem d hd')
    cases d with
    | bound line =>
      obtain ⟨b, hb⟩ := h _ List.mem_cons_self
      rw [List.filterMap_cons_some (show line? (.bound line) = some line from rfl),
        List.filterMap_cons_some (bound?_eq_some_iff.mpr hb)]
      exact .cons hb hrest
    | listed kind name => exact hrest

end Declaration

/-- A finished variable is its column, with the bounds that are final. -/
theorem Column.eq_of_finish {c : Column} {v : Variable} (h : c.finish = .ok v) :
    v = ⟨c.name, c.finalLower, c.finalUpper, c.kind⟩ := by
  unfold finish at h
  split at h
  · cases h
  · split at h
    · cases h
    · cases h
      rfl

/-! ## Documents -/

/-- **Every record is replayed from what is declared about its variable alone**; rearranging the
    declarations without changing that leaves the model as it is. -/
theorem Source.replayed_of_model {source : Source} {m : Model} (h : source.model = .ok m) :
    ∃ ds bounds, source.declarations? = some ds ∧
      List.Forall₂ (Bound.Says (m.vars.map Variable.name)) (ds.filterMap Declaration.line?)
        bounds ∧
      (∀ v ∈ m.vars, v = Variable.replayed bounds (ds.filterMap Declaration.mention?) v.name) ∧
      ∀ (other : Source) (ds' : List Declaration), other.direction? = source.direction? →
        other.front = source.front → other.declarations? = some ds' →
        Declaration.Rearranged (m.vars.map Variable.name) ds ds' → other.model = .ok m := by
  obtain ⟨direction, d, ds, table, hdirection, hready, hds, htable, hmodel⟩ :=
    model_eq_ok_iff.mp h
  obtain ⟨names, hfresh⟩ := hready.table
  obtain ⟨hperformable, hcolumns⟩ := Declaration.foldlM_perform.mp htable
  rw [hfresh, Table.names_fresh] at hperformable hcolumns
  obtain ⟨-, -, hfinish⟩ := Session.modelOf_eq_ok hmodel
  have hnames : m.vars.map Variable.name = names := by
    rw [Session.map_of_checkAll (fun _ _ hc => Column.name_of_finish hc) hfinish]
    show Table.names table = names
    rw [hcolumns]
    unfold Table.fresh Table.names
    rw [List.map_map, List.map_map]
    refine (List.map_congr_left fun name _ => ?_).trans (List.map_id' names)
    show (ds.foldl (Declaration.onColumn names) { name := name }).name = name
    rw [Declaration.foldl_onColumn]
  rw [hnames]
  refine ⟨ds, _, hds, Declaration.forall₂_says hperformable, ?_, ?_⟩
  · intro v hv
    obtain ⟨c, hc, hcv⟩ := Session.mem_of_checkAll hfinish v hv
    rw [show ({ d with table } : Draft).table = table from rfl, hcolumns] at hc
    obtain ⟨c₀, hc₀, rfl⟩ := List.mem_map.mp hc
    obtain ⟨name, -, rfl⟩ := List.mem_map.mp hc₀
    rw [Column.eq_of_finish hcv, Declaration.foldl_onColumn]
    unfold Variable.replayed Column.finalLower Column.finalUpper Bound.clamp
    dsimp only
    split <;> rfl
  · intro other ds' hdirection' hfront hds' hrearranged
    refine model_eq_ok_iff.mpr
      ⟨direction, d, ds', table, hdirection'.trans hdirection, ?_, hds', ?_, hmodel⟩
    · rw [hfront]
      exact hready
    · rw [Declaration.foldlM_perform, hfresh, Table.names_fresh]
      refine ⟨fun d' hd' => hperformable d' (hrearranged.perm.subset hd'), ?_⟩
      rw [hcolumns]
      unfold Table.fresh
      rw [List.map_map, List.map_map]
      exact List.map_congr_left fun name _ => (hrearranged.foldl_onColumn name).symm

/-- A binary variable whose bound is behind the list in one document and in front of it in the
    other. -/
theorem Source.replayed_of_model_binary :
    ∃ m, (Source.ofText "max x + y\nst\nx + y <= 4\nbin\ny x\nbounds\n-1 <= y\nend".toList).model =
        .ok m ∧
      m.vars.map (fun v => (v.name, v.lower)) = [("x".toList, 0.0), ("y".toList, 0.0)] ∧
      (Source.ofText
        "max x + y\nst\nx + y <= 4\nbounds\n-1 <= y\nbin\nx\ny\nend".toList).model = .ok m := by
  have hmodel : (Source.ofText
      "max x + y\nst\nx + y <= 4\nbin\ny x\nbounds\n-1 <= y\nend".toList).model = .ok
        { objectives := [⟨"obj".toList, .maximize, [("x".toList, 1.0), ("y".toList, 1.0)]⟩]
          constraints :=
            [⟨"R1".toList, 3, [("x".toList, 1.0), ("y".toList, 1.0)], .le, 4.0⟩]
          vars := [⟨"x".toList, 0.0, 1.0, .binary⟩, ⟨"y".toList, 0.0, 1.0, .binary⟩] } :=
    model_eq_ok_of_toOption (by decide +kernel)
  obtain ⟨ds, bounds, hds, -, -, hrearranged⟩ := replayed_of_model hmodel
  refine ⟨_, hmodel, rfl, hrearranged _
    [.bound "-1 <= y".toList, .listed .binary "x".toList, .listed .binary "y".toList]
    (by decide +kernel) (by decide +kernel) (by decide +kernel) ?_⟩
  have hds' : (Source.ofText
      "max x + y\nst\nx + y <= 4\nbin\ny x\nbounds\n-1 <= y\nend".toList).declarations? =
        some [.listed .binary "y".toList, .listed .binary "x".toList, .bound "-1 <= y".toList] := by
    decide +kernel
  rw [hds'] at hds
  cases hds
  refine ⟨by decide, fun name => ?_, fun name => ?_⟩
  · -- there is one bound only
    have hlisted : ∀ names kind x, Declaration.bounds names name (.listed kind x) = false :=
      fun _ _ _ => rfl
    simp [List.filter_cons, hlisted]
  · by_cases hx : ['x'] = name
    · subst hx
      decide
    · simp [List.filter_cons, Declaration.lists, Declaration.mention?, hx]

end LinearProgram

/-
  Tree — paths in a tree of directories and files.

  1. **Components** — the components of a normal path are those of the path, but for the ones that
     stay in their directory (`Path.components_normal`); and it takes no more octets.

  2. **Walks** — a walk that comes to its end comes to the same place without these components.

  3. **Stores** — a tree refuses exactly the paths with the character zero without looking
     (`Store.Tree.store_eq_zeroInPath_iff`). The file at a path is at the normal path, too
     (`Store.Tree.store_normal`). The reverse is not true: behind the name of a file, a path must
     not go on, not even with a component that stays.
-/

import LinearProgram.Proofs.Text.Cut
import LinearProgram.Store.Tree

namespace LinearProgram

/-! ## Components -/

namespace Path

variable {path : Text}

theorem staysPut_of_mem_placeOf {component : Text} (h : component ∈ placeOf path) :
    staysPut component = false := by
  simpa using (List.mem_filter.mp h).2

theorem nil_not_mem_placeOf : [] ∉ placeOf path := by
  intro h
  cases staysPut_of_mem_placeOf h

theorem components_join_placeOf (h : placeOf path ≠ []) :
    components (Text.join ['/'] (placeOf path)) = placeOf path :=
  Text.splitAt_join h fun _ ht => Text.not_mem_of_mem_splitAt (List.mem_filter.mp ht).1

theorem root_of_relative (h : isAbsolute path = false) : root path = [] := by
  cases path with
  | nil => rfl
  | cons c rest =>
    have hc : c ≠ '/' := by
      rintro rfl
      cases h
    unfold root
    rw [List.takeWhile_cons_of_neg (by simpa using hc)]
    rfl

/-- A relative path that leads somewhere is normalised to what leads there. -/
theorem normal_eq (hrelative : isAbsolute path = false) (h : placeOf path ≠ []) :
    normal path = Text.join ['/'] (placeOf path) := by
  have hjoin : Text.join ['/'] (placeOf path) ≠ [] := by
    intro hnil
    have hcomponents := components_join_placeOf h
    rw [hnil] at hcomponents
    exact nil_not_mem_placeOf (hcomponents.symm ▸ List.mem_singleton.mpr rfl : [] ∈ placeOf path)
  unfold normal laid
  rw [root_of_relative hrelative, List.nil_append]
  split
  · next hnil => exact absurd hnil hjoin
  · rfl

/-- **The components of a normal path** are those of the path that lead somewhere. -/
theorem components_normal (hrelative : isAbsolute path = false) (h : placeOf path ≠ []) :
    components (normal path) = placeOf path := by
  rw [normal_eq hrelative h, components_join_placeOf h]

theorem isAbsolute_normal (hrelative : isAbsolute path = false) (h : placeOf path ≠ []) :
    isAbsolute (normal path) = false := by
  have hcomponents := components_normal hrelative h
  cases hnormal : normal path with
  | nil => rfl
  | cons c rest =>
    by_cases hc : c = '/'
    · subst hc
      rw [hnormal] at hcomponents
      have hmem : [] ∈ placeOf path := hcomponents ▸ List.mem_cons_self
      exact absurd hmem nil_not_mem_placeOf
    · simpa [isAbsolute] using hc

theorem normal_sublist (hrelative : isAbsolute path = false) (h : placeOf path ≠ []) :
    (normal path).Sublist path := by
  have hplace : (placeOf path).Sublist (components path) := List.filter_sublist
  have hjoin : Text.join ['/'] (components path) = path := Text.join_splitAt '/' path
  have hsublist := Text.join_sublist ['/'] hplace
  rw [hjoin] at hsublist
  rw [normal_eq hrelative h]
  exact hsublist

end Path

namespace Store.Tree

open LinearProgram.Path

/-! ## Walks -/

variable {t : Tree} {place place' : Place}

theorem step_staysPut {component : Text} (hstays : staysPut component = true)
    (h : t.step place component = .ok place') : place' = place := by
  unfold step at h
  cases place with
  | none =>
    dsimp only at h
    split at h
    · cases h
    · rw [hstays, Bool.true_or, if_pos rfl] at h
      exact (Except.ok.inj h).symm
  | some names =>
    dsimp only at h
    split at h
    · cases h
    · cases h
    · rw [if_pos hstays] at h
      exact (Except.ok.inj h).symm

/-- **Components that stay can be left out of a walk.** -/
theorem walk_filter {cs : List Text} (h : t.walk place cs = .ok place') :
    t.walk place (cs.filter (! staysPut ·)) = .ok place' := by
  induction cs generalizing place with
  | nil => exact h
  | cons c cs ih =>
    unfold walk at h
    cases hstep : t.step place c with
    | error refusal =>
      rw [hstep] at h
      cases h
    | ok next =>
      rw [hstep] at h
      cases hstays : staysPut c with
      | true =>
        rw [List.filter_cons_of_neg (by simp [hstays]), ← step_staysPut hstays hstep]
        exact ih h
      | false =>
        rw [List.filter_cons_of_pos (by simp [hstays])]
        unfold walk
        rw [hstep]
        exact ih h

theorem step_outside {component : Text} (h : t.step none component = .ok place') :
    place' = none := by
  unfold step at h
  dsimp only at h
  split at h
  · cases h
  · split at h
    · exact (Except.ok.inj h).symm
    · cases h

/-- No walk comes back from outside. -/
theorem walk_outside {cs : List Text} (h : t.walk none cs = .ok place') : place' = none := by
  induction cs with
  | nil => exact (Except.ok.inj h).symm
  | cons c cs ih =>
    unfold walk at h
    cases hstep : t.step none c with
    | error refusal =>
      rw [hstep] at h
      cases h
    | ok next =>
      rw [hstep, step_outside hstep] at h
      exact ih h

/-- A walk starts in a directory. -/
theorem node?_of_walk {names : List Text} {c : Text} {cs : List Text}
    (h : t.walk (some names) (c :: cs) = .ok place') : t.node? names = some .directory := by
  unfold walk step at h
  dsimp only at h
  cases hnode : t.node? names with
  | none =>
    rw [hnode] at h
    cases h
  | some node =>
    cases node with
    | file content =>
      rw [hnode] at h
      cases h
    | directory => rfl

theorem step_ne_zeroInPath (t : Tree) (place : Place) (component : Text) :
    t.step place component ≠ .error .zeroInPath := by
  unfold step
  split <;> (repeat' split) <;> nofun

theorem walk_ne_zeroInPath (t : Tree) (place : Place) (components : List Text) :
    t.walk place components ≠ .error .zeroInPath := by
  fun_induction walk t place components with
  | case1 => nofun
  | case2 place component rest refusal h => exact h ▸ t.step_ne_zeroInPath place component
  | case3 place component rest place' h ih => exact ih

/-! ## Stores -/

/-- The paths that a tree is not asked about are those with the character zero. -/
theorem store_eq_zeroInPath_iff (t : Tree) (path : Text) :
    t.store path = .error .zeroInPath ↔ '\x00' ∈ path := by
  unfold store
  by_cases hzero : '\x00' ∈ path
  · rw [if_pos (List.contains_iff_mem.mpr hzero)]
    exact iff_of_true rfl hzero
  · rw [if_neg (mt List.contains_iff_mem.mp hzero)]
    refine iff_of_false ?_ hzero
    split
    · nofun
    · split
      · nofun
      · split
        · next refusal hwalk =>
          rintro ⟨⟩
          exact t.walk_ne_zeroInPath _ _ hwalk
        · nofun
        · split <;> nofun

/-- What it takes for a path to lead to a file. -/
structure Leads (t : Tree) (path : Text) (content : Octets) (names : List Text) : Prop where
  zero : '\x00' ∉ path
  nonempty : path ≠ []
  length : octetCount path < pathLimit
  relative : isAbsolute path = false
  walk : t.walk (some []) (components path) = .ok (some names)
  node : t.node? names = some (.file content)

variable {path : Text} {content : Octets}

theorem Leads.store_eq {names : List Text} (h : t.Leads path content names) :
    t.store path = .ok content := by
  unfold store
  rw [if_neg (mt List.contains_iff_mem.mp h.zero), if_neg (by simpa using h.nonempty),
    if_neg (Nat.not_le.mpr h.length), h.relative, if_neg Bool.false_ne_true, h.walk]
  dsimp only
  rw [h.node]

theorem exists_leads (h : t.store path = .ok content) : ∃ names, t.Leads path content names := by
  unfold store at h
  split at h
  · cases h
  next hzero =>
  split at h
  · cases h
  next hempty =>
  split at h
  · cases h
  next hlength =>
  split at h
  · cases h
  · cases h
  next names hwalk =>
  split at h
  · next content' hnode =>
    obtain rfl := Except.ok.inj h
    have hrelative : isAbsolute path = false := by
      cases habsolute : isAbsolute path with
      | false => rfl
      | true =>
        rw [habsolute, if_pos rfl] at hwalk
        cases walk_outside hwalk
    rw [hrelative, if_neg Bool.false_ne_true] at hwalk
    exact ⟨names, mt List.contains_iff_mem.mpr hzero, by simpa using hempty,
      Nat.lt_of_not_le hlength, hrelative, hwalk, hnode⟩
  · cases h
  · cases h

theorem octetCount_cons (c : Char) (u : Text) :
    octetCount (c :: u) = octetCount [c] + octetCount u := by
  unfold octetCount
  rw [← List.singleton_append, String.ofList_append, String.utf8ByteSize_append]

theorem octetCount_le {u u' : Text} (h : u.Sublist u') : octetCount u ≤ octetCount u' := by
  induction h with
  | slnil => exact Nat.le_refl _
  | cons c _ ih =>
    rw [octetCount_cons]
    exact Nat.le_add_left_of_le ih
  | @cons_cons u u' c _ ih =>
    rw [octetCount_cons c u, octetCount_cons c u']
    exact Nat.add_le_add_left ih _

/-- A path that leads to a file has components that lead somewhere. -/
theorem Leads.placeOf_ne_nil {names : List Text} (h : t.Leads path content names) :
    placeOf path ≠ [] := by
  intro hplace
  have hwalk := walk_filter h.walk
  rw [show (components path).filter (! staysPut ·) = [] from hplace] at hwalk
  -- then the file would stand where the walk started, and that is a directory
  obtain rfl := Option.some.inj (Except.ok.inj hwalk)
  cases hcomponents : components path with
  | nil => exact Text.splitAt_ne_nil '/' path hcomponents
  | cons c cs =>
    have hstart := h.walk
    rw [hcomponents] at hstart
    have hdirectory := node?_of_walk hstart
    rw [h.node] at hdirectory
    cases hdirectory

/-- **The file at a path is at the normal path, too.** -/
theorem store_normal (h : t.store path = .ok content) : t.store (normal path) = .ok content := by
  obtain ⟨names, hleads⟩ := exists_leads h
  have hplace := hleads.placeOf_ne_nil
  have hcomponents := components_normal hleads.relative hplace
  have hsublist := normal_sublist hleads.relative hplace
  have hnormal : t.Leads (normal path) content names := by
    refine ⟨fun hzero => hleads.zero (hsublist.subset hzero), ?_,
      Nat.lt_of_le_of_lt (octetCount_le hsublist) hleads.length,
      isAbsolute_normal hleads.relative hplace, ?_, hleads.node⟩
    · intro hnil
      rw [hnil] at hcomponents
      exact nil_not_mem_placeOf (hcomponents ▸ List.mem_cons_self : [] ∈ placeOf path)
    · rw [hcomponents]
      exact walk_filter hleads.walk
  exact hnormal.store_eq

/-- A stroke behind the name of a file is not part of the normal path. -/
example : (({} : Tree).addFile "m.lp".toList []).store "m.lp/".toList = .error .notDirectory ∧
    (({} : Tree).addFile "m.lp".toList []).store (normal "m.lp/".toList) = .ok [] := by
  decide +kernel

end Store.Tree

end LinearProgram

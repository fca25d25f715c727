/-
  Coefficients — what the terms of an expression sum up to.

  1. **Sums** — each variable that is mentioned has, as its coefficient, the sum of its terms from
     left to right, beginning with zero (`ofTerms_eq`).

  2. **Merging** — adding these sums to an empty list adds zero to each of them once more. That
     changes nothing: a sum that begins with zero is never minus zero, the one number that zero is
     not neutral for (`merge_nil_ofTerms`).
-/

import LinearProgram.Proofs.Binary64.Sum
import LinearProgram.Proofs.Mention

namespace LinearProgram.Coefficients

/-! ## Sums -/

/-- The sum of a variable's terms, from left to right. -/
def sumOf (terms : List Term) (name : Text) : Float :=
  (terms.filter (·.name = name)).foldl (fun sum term => sum + term.value) 0.0

theorem get_foldl_add (terms : List Term) (cs : Coefficients) (name : Text) :
    (terms.foldl (fun cs term => cs.add term.name term.value) cs).get name =
      (terms.filter (·.name = name)).foldl (fun sum term => sum + term.value) (cs.get name) := by
  induction terms generalizing cs with
  | nil => rfl
  | cons term terms ih =>
    rw [List.foldl_cons, ih]
    by_cases h : term.name = name
    · rw [List.filter_cons_of_pos (by simpa using h), List.foldl_cons, ← h, get_add_self]
    · rw [List.filter_cons_of_neg (by simpa using h), get_add_of_ne _ fun h' => h h'.symm]

theorem get_ofTerms (terms : List Term) (name : Text) :
    (ofTerms terms).get name = sumOf terms name := get_foldl_add terms [] name

/-- Coefficients of different variables are known by their names and what is looked up for them. -/
theorem eq_map_get {cs : Coefficients} (h : cs.names.Nodup) :
    cs = cs.names.map fun name => (name, cs.get name) := by
  induction cs with
  | nil => rfl
  | cons entry cs ih =>
    obtain ⟨name, x⟩ := entry
    have hnames : names ((name, x) :: cs) = name :: names cs := rfl
    rw [hnames, List.nodup_cons] at h
    have hself : get ((name, x) :: cs) name = x := by simp [get]
    have hrest : (names cs).map (fun other => (other, get ((name, x) :: cs) other)) =
        (names cs).map fun other => (other, get cs other) := by
      apply List.map_congr_left
      intro other hother
      have hne : (other == name) = false := by
        rw [beq_eq_false_iff_ne]
        exact fun h' => h.1 (h' ▸ hother)
      simp [get, List.lookup_cons, hne]
    rw [hnames, List.map_cons, hself, hrest, ← ih h.2]

/-- **The coefficients of an expression are the sums of its terms**, in the order in which their
    variables are first mentioned. -/
theorem ofTerms_eq (terms : List Term) :
    ofTerms terms =
      (terms.map Term.name).eraseDups.map fun name => (name, sumOf terms name) := by
  have hnames : (ofTerms terms).names = (terms.map Term.name).eraseDups := by
    rw [names_ofTerms, Mention.collect_nil]
  have hnodup : (ofTerms terms).names.Nodup := by
    rw [names_ofTerms]
    exact Mention.nodup_collect List.nodup_nil _
  have hmap := eq_map_get hnodup
  rw [hnames] at hmap
  rw [hmap]
  exact List.map_congr_left fun name _ => by rw [get_ofTerms]

/-! ## Merging -/

/-- No coefficient is minus zero. -/
def NeverMinusZero (cs : Coefficients) : Prop :=
  ∀ entry ∈ cs, Binary64.parts entry.2 ≠ .zero .negative

theorem NeverMinusZero.add {cs : Coefficients} (h : cs.NeverMinusZero) (name : Text) (x : Float) :
    (cs.add name x).NeverMinusZero := by
  induction cs with
  | nil =>
    intro entry hentry
    rw [List.mem_singleton.mp hentry]
    exact Binary64.parts_add_ne (by rw [Binary64.parts_zero]; nofun)
  | cons head cs ih =>
    obtain ⟨n, y⟩ := head
    have hhead := h (n, y) List.mem_cons_self
    have hcs : NeverMinusZero cs := fun entry hentry => h entry (List.mem_cons_of_mem _ hentry)
    unfold Coefficients.add
    split
    · intro entry hentry
      rcases List.mem_cons.mp hentry with rfl | hentry
      · exact Binary64.parts_add_ne hhead
      · exact hcs entry hentry
    · intro entry hentry
      rcases List.mem_cons.mp hentry with rfl | hentry
      · exact hhead
      · exact ih hcs entry hentry

theorem neverMinusZero_ofTerms (terms : List Term) : (ofTerms terms).NeverMinusZero := by
  have hfold : ∀ cs : Coefficients, cs.NeverMinusZero →
      NeverMinusZero (terms.foldl (fun cs term => cs.add term.name term.value) cs) := by
    induction terms with
    | nil => exact fun cs h => h
    | cons term terms ih => exact fun cs h => ih _ (h.add term.name term.value)
  exact hfold [] fun entry hentry => absurd hentry List.not_mem_nil

theorem add_of_not_mem {cs : Coefficients} {name : Text} (x : Float) (h : name ∉ cs.names) :
    cs.add name x = cs ++ [(name, 0.0 + x)] := by
  induction cs with
  | nil => rfl
  | cons entry cs ih =>
    obtain ⟨n, y⟩ := entry
    have hn : ¬ n = name := fun h' => h (h' ▸ List.mem_cons_self)
    have hcs : name ∉ names cs := fun h' => h (List.mem_cons_of_mem n h')
    unfold Coefficients.add
    rw [if_neg hn, ih hcs]
    rfl

/-- New variables are put behind, and zero is added to their coefficients. -/
theorem merge_of_nodup {cs other : Coefficients} (hnodup : (cs ++ other).names.Nodup)
    (h : other.NeverMinusZero) : cs.merge other = cs ++ other := by
  induction other generalizing cs with
  | nil => exact (List.append_nil cs).symm
  | cons entry other ih =>
    obtain ⟨name, x⟩ := entry
    have hassoc : cs ++ (name, x) :: other = (cs ++ [(name, x)]) ++ other := by
      rw [List.append_assoc]
      rfl
    have hname : name ∉ cs.names := by
      intro hmem
      unfold names at hnodup
      rw [List.map_append, List.nodup_append] at hnodup
      exact hnodup.2.2 name hmem name List.mem_cons_self rfl
    have hx : 0.0 + x = x := Binary64.zero_add (h (name, x) List.mem_cons_self)
    show (cs.add name x).merge other = _
    rw [add_of_not_mem x hname, hx, hassoc]
    rw [hassoc] at hnodup
    exact ih hnodup fun entry hentry => h entry (List.mem_cons_of_mem _ hentry)

/-- **The sums of an expression are what is added to nothing.** -/
theorem merge_nil_ofTerms (terms : List Term) : merge [] (ofTerms terms) = ofTerms terms := by
  have hnodup : (ofTerms terms).names.Nodup := by
    rw [names_ofTerms]
    exact Mention.nodup_collect List.nodup_nil _
  exact merge_of_nodup hnodup (neverMinusZero_ofTerms terms)

/-! ## Terms of different variables -/

/-- Terms of different variables are not summed up. -/
theorem ofTerms_of_nodup {terms : List Term} (h : (terms.map Term.name).Nodup) :
    ofTerms terms = terms.map fun term => (term.name, 0.0 + term.value) := by
  have hfold : ∀ cs : Coefficients, (cs.names ++ terms.map Term.name).Nodup →
      terms.foldl (fun cs term => cs.add term.name term.value) cs =
        cs ++ terms.map fun term => (term.name, 0.0 + term.value) := by
    clear h
    induction terms with
    | nil => exact fun cs _ => (List.append_nil cs).symm
    | cons term terms ih =>
      intro cs hcs
      rw [List.map_cons] at hcs
      have hterm : term.name ∉ cs.names := fun hmem =>
        (List.nodup_append.mp hcs).2.2 _ hmem _ List.mem_cons_self rfl
      have hnames : (cs ++ [(term.name, 0.0 + term.value)]).names ++ terms.map Term.name =
          cs.names ++ term.name :: terms.map Term.name := by
        unfold names
        rw [List.map_append, List.append_assoc]
        rfl
      rw [List.foldl_cons, add_of_not_mem _ hterm, ih _ (hnames ▸ hcs), List.map_cons,
        List.append_assoc]
      rfl
  exact hfold [] h

/-- **Terms of different variables may be added in portions.** -/
theorem merge_ofTerms_append (cs : Coefficients) {ts us : List Term}
    (h : ((ts ++ us).map Term.name).Nodup) :
    (cs.merge (ofTerms ts)).merge (ofTerms us) = cs.merge (ofTerms (ts ++ us)) := by
  have hnodup := h
  rw [List.map_append] at hnodup
  rw [ofTerms_of_nodup h, ofTerms_of_nodup (List.nodup_append.mp hnodup).1,
    ofTerms_of_nodup (List.nodup_append.mp hnodup).2.1, List.map_append]
  unfold merge
  rw [List.foldl_append]

end LinearProgram.Coefficients

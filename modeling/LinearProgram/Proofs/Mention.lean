/-
  Mention — names in the order of first mention.

  Tables and coefficients take in names one by one, and a name that is there already keeps its
  place. `collect seen names` is what becomes of the names `seen` if further `names` are taken in.

  1. **One after the other** — taking in what was collected is the same as taking in all that it was
     collected from (`collect_collect`). So it does not matter in which portions names arrive.

  2. **Duplicates** — collected from nothing, names are those of the list without the later
     duplicates (`collect_nil`).
-/

import LinearProgram.Coefficients
import LinearProgram.Variable

namespace LinearProgram

namespace Mention

/-- The names that were seen, and one more unless it is among them. -/
def insert (seen : List Text) (name : Text) : List Text :=
  if name ∈ seen then seen else seen ++ [name]

/-- The names that were seen, and further ones in the order of their first mention. -/
def collect (seen names : List Text) : List Text := names.foldl insert seen

theorem collect_append (seen names more : List Text) :
    collect seen (names ++ more) = collect (collect seen names) more := List.foldl_append

theorem insert_of_mem {seen : List Text} {name : Text} (h : name ∈ seen) :
    insert seen name = seen := if_pos h

theorem insert_of_not_mem {seen : List Text} {name : Text} (h : name ∉ seen) :
    insert seen name = seen ++ [name] := if_neg h

theorem mem_insert {seen : List Text} {name other : Text} :
    other ∈ insert seen name ↔ other ∈ seen ∨ other = name := by
  by_cases h : name ∈ seen
  · rw [insert_of_mem h]
    constructor
    · exact Or.inl
    · rintro (h' | rfl)
      · exact h'
      · exact h
  · rw [insert_of_not_mem h, List.mem_append, List.mem_singleton]

theorem mem_collect {seen names : List Text} {other : Text} :
    other ∈ collect seen names ↔ other ∈ seen ∨ other ∈ names := by
  induction names generalizing seen with
  | nil => simp [collect]
  | cons name names ih =>
    show other ∈ collect (insert seen name) names ↔ _
    rw [ih, mem_insert, List.mem_cons, or_assoc]

theorem nodup_insert {seen : List Text} (h : seen.Nodup) (name : Text) :
    (insert seen name).Nodup := by
  by_cases hname : name ∈ seen
  · rw [insert_of_mem hname]
    exact h
  · rw [insert_of_not_mem hname, List.nodup_append]
    refine ⟨h, by simp, ?_⟩
    intro a ha b hb hab
    rw [List.mem_singleton.mp hb] at hab
    exact hname (hab ▸ ha)

/-- **What is collected has no duplicates.** -/
theorem nodup_collect {seen : List Text} (h : seen.Nodup) (names : List Text) :
    (collect seen names).Nodup := by
  induction names generalizing seen with
  | nil => exact h
  | cons name names ih => exact ih (nodup_insert h name)

/-- **Names may arrive in portions**: what a portion repeats is passed over either way. -/
theorem collect_collect (seen old names : List Text) :
    collect seen (collect old names) = collect seen (old ++ names) := by
  induction names generalizing old with
  | nil => rw [List.append_nil]; rfl
  | cons name names ih =>
    show collect seen (collect (insert old name) names) = _
    rw [ih]
    by_cases h : name ∈ old
    · have hseen : name ∈ collect seen old := mem_collect.mpr (Or.inr h)
      rw [insert_of_mem h, collect_append, collect_append]
      show _ = collect (insert (collect seen old) name) names
      rw [insert_of_mem hseen]
    · rw [insert_of_not_mem h, List.append_assoc]
      rfl

theorem collect_append_collect (seen front old names : List Text) :
    collect seen (front ++ collect old names) = collect seen (front ++ old ++ names) := by
  rw [collect_append, collect_collect, ← collect_append, List.append_assoc]

/-- Behind the names that were seen stand the new ones, each once. -/
theorem collect_eq (seen names : List Text) :
    collect seen names = seen ++ (names.removeAll seen).eraseDups := by
  induction names generalizing seen with
  | nil => exact (List.append_nil seen).symm
  | cons name names ih =>
    show collect (insert seen name) names = _
    rw [ih]
    by_cases h : name ∈ seen
    · have hcons : (name :: names).removeAll seen = names.removeAll seen := by
        simp [List.removeAll, h]
      rw [insert_of_mem h, hcons]
    · have hcons : (name :: names).removeAll seen = name :: names.removeAll seen := by
        simp [List.removeAll, h]
      have hrest : names.removeAll (seen ++ [name]) =
          (names.removeAll seen).filter fun other => ! other == name := by
        simp only [List.removeAll, List.filter_filter]
        apply List.filter_congr
        intro other _
        by_cases ho : other = name <;> simp [ho]
      rw [insert_of_not_mem h, hcons, List.eraseDups_cons, hrest, List.append_assoc]
      rfl

/-- **Collected from nothing, names are what is left without the later duplicates.** -/
theorem collect_nil (names : List Text) : collect [] names = names.eraseDups := by
  have hall : names.removeAll [] = names := by simp [List.removeAll]
  rw [collect_eq, hall, List.nil_append]

theorem eraseDups_of_nodup {names : List Text} (h : names.Nodup) : names.eraseDups = names := by
  induction names with
  | nil => rfl
  | cons name names ih =>
    obtain ⟨hname, hnames⟩ := List.nodup_cons.mp h
    have hrest : (names.filter fun other => ! other == name) = names := by
      refine List.filter_eq_self.mpr fun other hother => ?_
      have hne : other ≠ name := fun h' => hname (h' ▸ hother)
      simp [hne]
    rw [List.eraseDups_cons, hrest, ih hnames]

/-- Different names are taken in one behind the other, but for those that were seen. -/
theorem collect_of_nodup (seen : List Text) {names : List Text} (h : names.Nodup) :
    collect seen names = seen ++ names.removeAll seen := by
  have hnew : (names.removeAll seen).Nodup := h.filter _
  rw [collect_eq, eraseDups_of_nodup hnew]

end Mention

open Mention

/-! ## Tables and coefficients -/

theorem Table.names_registerAll (table : Table) (names : List Text) :
    (table.registerAll names).names = collect table.names names := by
  induction names generalizing table with
  | nil => rfl
  | cons name names ih =>
    show ((table.register name).registerAll names).names = _
    rw [ih, names_register]
    rfl

theorem Table.registerAll_append (table : Table) (names more : List Text) :
    table.registerAll (names ++ more) = (table.registerAll names).registerAll more :=
  List.foldl_append

/-- The columns of names about which nothing was declared. -/
def Table.fresh (names : List Text) : Table := names.map fun name => { name := name }

theorem Table.names_fresh (names : List Text) : (fresh names).names = names := by
  unfold fresh Table.names
  rw [List.map_map]
  exact List.map_id' names

theorem Table.registerAll_fresh (seen names : List Text) :
    (fresh seen).registerAll names = fresh (collect seen names) := by
  induction names generalizing seen with
  | nil => rfl
  | cons name names ih =>
    have hregister : (fresh seen).register name = fresh (insert seen name) := by
      have hiff : (fresh seen).has name = true ↔ name ∈ seen := by
        rw [has_iff, names_fresh]
      unfold register
      by_cases hmem : name ∈ seen
      · rw [if_pos (hiff.mpr hmem), insert_of_mem hmem]
      · rw [if_neg fun h => hmem (hiff.mp h), insert_of_not_mem hmem]
        unfold fresh
        rw [List.map_append]
        rfl
    show ((fresh seen).register name).registerAll names = _
    rw [hregister, ih]
    rfl

/-- Registering adds fresh columns behind those that are there. -/
theorem Table.exists_registerAll_eq (table : Table) (names : List Text) :
    ∃ new, table.registerAll names = table ++ fresh new := by
  induction names generalizing table with
  | nil => exact ⟨[], (List.append_nil table).symm⟩
  | cons name names ih =>
    obtain ⟨new, hnew⟩ := ih (table.register name)
    have hall : table.registerAll (name :: names) = table.register name ++ fresh new := hnew
    by_cases h : table.has name = true
    · have hregister : table.register name = table := if_pos h
      exact ⟨new, by rw [hall, hregister]⟩
    · have hregister : table.register name = table ++ [{ name := name }] := if_neg h
      exact ⟨name :: new, by rw [hall, hregister, List.append_assoc]; rfl⟩

/-- **Registering adds a fresh column for each name that is new**, in the order of first mention,
    and leaves the columns in front of them as they are. -/
theorem Table.registerAll_eq (table : Table) (names : List Text) :
    table.registerAll names = table ++ fresh (names.eraseDups.removeAll table.names) := by
  obtain ⟨new, hnew⟩ := exists_registerAll_eq table names
  have hcollect : table.names ++ new = collect table.names names := by
    rw [← names_registerAll, hnew]
    unfold Table.names
    rw [List.map_append]
    exact congrArg _ (names_fresh new).symm
  have hdups : collect table.names names = collect table.names names.eraseDups := by
    rw [← collect_nil, collect_collect, List.nil_append]
  have hnodup : names.eraseDups.Nodup := by
    rw [← collect_nil]
    exact nodup_collect List.nodup_nil names
  rw [hdups, collect_of_nodup _ hnodup] at hcollect
  rw [hnew, List.append_cancel_left hcollect]

namespace Coefficients

theorem names_merge (cs other : Coefficients) :
    (cs.merge other).names = collect cs.names other.names := by
  induction other generalizing cs with
  | nil => rfl
  | cons entry other ih =>
    obtain ⟨name, x⟩ := entry
    show ((cs.add name x).merge other).names = _
    rw [ih, names_add]
    rfl

theorem names_ofTerms (terms : List Term) :
    (ofTerms terms).names = collect [] (terms.map Term.name) := by
  have hfold : ∀ cs : Coefficients,
      (terms.foldl (fun cs term => cs.add term.name term.value) cs).names =
        collect cs.names (terms.map Term.name) := by
    induction terms with
    | nil => exact fun cs => rfl
    | cons term terms ih =>
      intro cs
      rw [List.foldl_cons, ih, names_add]
      rfl
  exact hfold []

/-- Adding the sums of terms mentions what the terms mention. -/
theorem names_merge_ofTerms (cs : Coefficients) (terms : List Term) :
    (cs.merge (ofTerms terms)).names = collect cs.names (terms.map Term.name) := by
  rw [names_merge, names_ofTerms, collect_collect, List.nil_append]

end Coefficients

end LinearProgram

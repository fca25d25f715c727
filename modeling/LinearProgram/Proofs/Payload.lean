/-
  Payload — when the structured value of a reading can be read by other programs.

  1. **Members** — bounds and right-hand sides are given by words if they are infinite, so that only
     the missing number would spoil them, and no document describes it. Coefficients are given as
     they are, although a sum of finite coefficients need not be finite.

  2. **Readings** — so the structured value of a reading has finite numbers only, and the program
     puts out a document, exactly if all coefficients of the model are finite
     (`Report.isDocument_iff_coefficientsFinite`). Without a model there is nothing to spoil.
-/

import LinearProgram.Proofs.Document.WellFormed
import LinearProgram.Proofs.Json.Grammar
import LinearProgram.Proofs.Reading
import LinearProgram.Report

namespace LinearProgram

/-- All coefficients are finite. -/
def Coefficients.AreFinite (cs : Coefficients) : Prop := ∀ entry ∈ cs, entry.2.isFinite = true

/-- All coefficients of the objectives and of the constraints are finite. -/
structure Model.CoefficientsFinite (m : Model) : Prop where
  objectives : ∀ o ∈ m.objectives, o.coefficients.AreFinite
  constraints : ∀ c ∈ m.constraints, c.coefficients.AreFinite

/-! ## Members -/

namespace Json

theorem areFinite_iff (es : List Json) : areFinite es = true ↔ ∀ e ∈ es, e.isFinite = true := by
  induction es with
  | nil => exact ⟨fun _ _ h => absurd h List.not_mem_nil, fun _ => rfl⟩
  | cons e es ih => rw [areFinite, Bool.and_eq_true, ih, List.forall_mem_cons]

theorem membersAreFinite_iff (ms : List (Text × Json)) :
    membersAreFinite ms = true ↔ ∀ entry ∈ ms, entry.2.isFinite = true := by
  induction ms with
  | nil => exact ⟨fun _ _ h => absurd h List.not_mem_nil, fun _ => rfl⟩
  | cons entry ms ih => rw [membersAreFinite, Bool.and_eq_true, ih, List.forall_mem_cons]

end Json

open Json

namespace Payload

/-- **Infinities are given by words**, so that only the missing number is not finite. -/
theorem isFinite_quantity {x : Float} (h : x.isNaN = false) : (quantity x).isFinite = true := by
  unfold quantity
  split
  · rfl
  · next hinf =>
    rw [Bool.not_eq_true] at hinf
    show x.isFinite = true
    rw [Binary64.isFinite_eq, h, hinf]
    rfl

theorem isFinite_coefficients (cs : Coefficients) :
    (coefficients cs).isFinite = true ↔ cs.AreFinite := by
  unfold coefficients isFinite
  rw [membersAreFinite_iff, List.forall_mem_map]
  rfl

end Payload

theorem Objective.isFinite_payload (o : Objective) :
    o.payload.isFinite = true ↔ o.coefficients.AreFinite := by
  rw [← Payload.isFinite_coefficients]
  simp [payload, Payload.member, Payload.word, isFinite, membersAreFinite]

theorem Constraint.isFinite_payload {c : Constraint} (hrhs : c.rhs.isNaN = false) :
    c.payload.isFinite = true ↔ c.coefficients.AreFinite := by
  rw [← Payload.isFinite_coefficients]
  simp [payload, Payload.member, Payload.word, isFinite, membersAreFinite,
    Payload.isFinite_quantity hrhs]

theorem Variable.isFinite_payload {v : Variable} (hlower : v.lower.isNaN = false)
    (hupper : v.upper.isNaN = false) : v.payload.isFinite = true := by
  simp [payload, Payload.member, Payload.word, isFinite, membersAreFinite,
    Payload.isFinite_quantity hlower, Payload.isFinite_quantity hupper]

/-- **Only coefficients can spoil the structured value of a model.** -/
theorem Model.WellFormed.isFinite_payload {direction : Direction} {n : Nat} {m : Model}
    (h : m.WellFormed direction n) :
    membersAreFinite m.payload = true ↔ m.CoefficientsFinite := by
  have hobjectives : (∀ o ∈ m.objectives, o.payload.isFinite = true) ↔
      ∀ o ∈ m.objectives, o.coefficients.AreFinite :=
    forall₂_congr fun o _ => o.isFinite_payload
  have hconstraints : (∀ c ∈ m.constraints, c.payload.isFinite = true) ↔
      ∀ c ∈ m.constraints, c.coefficients.AreFinite :=
    forall₂_congr fun c hc => Constraint.isFinite_payload (h.constraints c hc).rhs
  have hvars : ∀ v ∈ m.vars, v.payload.isFinite = true := fun v hv =>
    Variable.isFinite_payload (h.vars v hv).lower (h.vars v hv).upper
  have hall : membersAreFinite m.payload = true ↔
      (∀ o ∈ m.objectives, o.payload.isFinite = true) ∧
      (∀ c ∈ m.constraints, c.payload.isFinite = true) ∧
      ∀ v ∈ m.vars, v.payload.isFinite = true := by
    simp [payload, Payload.member, Payload.word, isFinite, membersAreFinite, areFinite_iff]
  rw [hall, hobjectives, hconstraints]
  constructor
  · intro h
    exact ⟨h.1, h.2.1⟩
  · intro h
    exact ⟨h.objectives, h.constraints, hvars⟩

theorem Fault.isFinite_payload (f : Fault) : f.payload.isFinite = true := by
  unfold payload
  cases f.within <;> rfl

/-! ## Readings -/

/-- The structured value of a model that a source describes. -/
theorem Source.isFinite_payload_iff {source : Source} {m : Model} (h : source.model = .ok m) :
    membersAreFinite m.payload = true ↔ m.CoefficientsFinite := by
  have hparse := (Invariant.sound_kept source).parse
  unfold Session.Outcome.Leads at hparse
  rw [show (Session.parse source {}).result = .ok m from h] at hparse
  obtain ⟨-, ⟨direction, -, hsound, hne⟩, hmodel⟩ := hparse
  exact (hsound.modelOf hne hmodel).isFinite_payload

theorem Reading.isFinite_payload_iff (r : Reading) :
    r.payload.isFinite = true ↔ ∀ m, r.outcome = .ok m → membersAreFinite m.payload = true := by
  unfold payload
  cases r.outcome with
  | ok m =>
    have hmembers : membersAreFinite ([Payload.member "valid" (.bool true),
        Payload.member "source" (.text r.origin)] ++ m.payload) = membersAreFinite m.payload := rfl
    constructor
    · intro h m' hm
      cases hm
      exact hmembers.symm.trans h
    · intro h
      exact hmembers.trans (h m rfl)
  | error f =>
    have hfault : membersAreFinite [Payload.member "valid" (.bool false),
        Payload.member "source" (.text r.origin), Payload.member "error" f.payload] = true := by
      simp [Payload.member, membersAreFinite, isFinite, f.isFinite_payload]
    refine iff_of_true hfault fun m hm => ?_
    cases hm

/-- What the program puts out is a document if the structured value has finite numbers only. -/
theorem Report.isDocument_output_iff (setup : Log.Setup) (r : Reading) :
    IsDocument (ofReading setup true r).output ↔ r.payload.isFinite = true := by
  have hgap : IsGap ['\n'] := fun c hc => Or.inr (Or.inr (Or.inl (List.mem_singleton.mp hc)))
  exact isDocument_render_iff r.payload hgap

/-- **Other programs can read what is put out exactly if no sum of coefficients has left the finite
    numbers**: bounds, right-hand sides and faults never stand in the way. -/
theorem Report.isDocument_iff_coefficientsFinite (setup : Log.Setup) (channel : String)
    (origin : Text) (source : Source) :
    ((Reading.ofSource channel origin source).payload.isFinite = true ↔
        ∀ m, source.model = .ok m → m.CoefficientsFinite) ∧
      (IsDocument (ofReading setup true (.ofSource channel origin source)).output ↔
        ∀ m, source.model = .ok m → m.CoefficientsFinite) := by
  have hpayload : (Reading.ofSource channel origin source).payload.isFinite = true ↔
      ∀ m, source.model = .ok m → m.CoefficientsFinite := by
    rw [Reading.isFinite_payload_iff, Reading.outcome_ofSource]
    exact forall₂_congr fun m hm => Source.isFinite_payload_iff hm
  exact ⟨hpayload, (isDocument_output_iff setup _).trans hpayload⟩

/-- Two finite coefficients of one variable, and a sum that is not finite. -/
theorem Report.not_isDocument_overflow :
    (Source.ofText "max\nobj: 1e308 x + 1e308 x\nend".toList).model = .ok
        { objectives := [⟨"obj".toList, .maximize, [("x".toList, Quantity.infinity)]⟩]
          constraints := []
          vars := [⟨"x".toList, 0.0, Quantity.infinity, .continuous⟩] } ∧
      ∀ setup channel origin, ¬ IsDocument (ofReading setup true
        (.ofSource channel origin (.ofText "max\nobj: 1e308 x + 1e308 x\nend".toList))).output := by
  have hmodel : (Source.ofText "max\nobj: 1e308 x + 1e308 x\nend".toList).model = .ok
      { objectives := [⟨"obj".toList, .maximize, [("x".toList, Quantity.infinity)]⟩]
        constraints := []
        vars := [⟨"x".toList, 0.0, Quantity.infinity, .continuous⟩] } :=
    Source.model_eq_ok_of_toOption (by decide +kernel)
  refine ⟨hmodel, fun setup channel origin h => ?_⟩
  have hreading := (isDocument_output_iff setup _).mp h
  rw [Reading.isFinite_payload_iff, Reading.outcome_ofSource] at hreading
  obtain ⟨hobjectives, -⟩ := (Source.isFinite_payload_iff hmodel).mp (hreading _ hmodel)
  have hfinite : Quantity.infinity.isFinite = true :=
    hobjectives _ List.mem_cons_self ("x".toList, Quantity.infinity) List.mem_cons_self
  have hinfinite : Quantity.infinity.isFinite = false := by decide +kernel
  rw [hinfinite] at hfinite
  cases hfinite

end LinearProgram

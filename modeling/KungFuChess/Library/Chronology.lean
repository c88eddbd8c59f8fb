import Mathlib.Logic.Relation
import Mathlib.Order.Lattice

/-!
# Chronologies

A system whose steps are due at times, at most one step being next in every
state. A chronology up to a horizon takes the steps that are due by then, and
ends where none is left. Its end is unique, and a chronology may be cut at any
earlier horizon.
-/

set_option autoImplicit false

namespace Chronology

variable {σ τ : Type*} [LinearOrder τ] {due : σ → τ → σ → Prop}

/-- A step that is due by the horizon. -/
def DueBy (due : σ → τ → σ → Prop) (horizon : τ) (first next : σ) : Prop :=
  ∃ time ≤ horizon, due first time next

/-- The steps due by the horizon lead from one state to another. -/
def Reaches (due : σ → τ → σ → Prop) (horizon : τ) : σ → σ → Prop :=
  Relation.ReflTransGen (DueBy due horizon)

/-- They lead there, and none is left. -/
def Ends (due : σ → τ → σ → Prop) (horizon : τ) (first last : σ) : Prop :=
  Reaches due horizon first last ∧ ∀ next, ¬ DueBy due horizon last next

/-- A later horizon allows more steps. -/
theorem Reaches.mono {early late : τ} (ordered : early ≤ late) {first last : σ}
    (reaches : Reaches due early first last) : Reaches due late first last :=
  Relation.ReflTransGen.mono
    (fun _ _ ⟨time, before, step⟩ => ⟨time, le_trans before ordered, step⟩) _ _ reaches

/-- **A chronology can be cut** at an earlier horizon. -/
theorem Ends.trans {early late : τ} (ordered : early ≤ late) {first middle last : σ}
    (before : Ends due early first middle) (after : Ends due late middle last) :
    Ends due late first last :=
  ⟨(before.1.mono ordered).trans after.1, after.2⟩

/-- From an end no other state is reached. -/
theorem Ends.stays {horizon : τ} {first last next : σ} (ends : Ends due horizon first last)
    (reaches : Reaches due horizon last next) : next = last := by
  cases reaches.cases_head with
  | inl same => exact same.symm
  | inr step =>
      obtain ⟨other, step, _⟩ := step
      exact absurd step (ends.2 other)

/-- **The end of a chronology is unique** when no state has two next steps. -/
theorem Ends.unique {horizon : τ} {first one two : σ} (left : Ends due horizon first one)
    (right : Ends due horizon first two)
    (deterministic : ∀ state early late one two, due state early one → due state late two →
      one = two) : one = two := by
  have unique : Relator.RightUnique (DueBy due horizon) :=
    fun _ _ _ ⟨_, _, one⟩ ⟨_, _, two⟩ => deterministic _ _ _ _ _ one two
  rcases Relation.ReflTransGen.total_of_right_unique unique left.1 right.1 with onward | onward
  · exact (left.stays onward).symm
  · exact right.stays onward

end Chronology

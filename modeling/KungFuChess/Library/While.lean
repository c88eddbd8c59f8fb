import Mathlib.Logic.Function.Iterate

/-!
# While loops

A loop that goes on while its guard holds, by the number of turns that it is given. It
ends at the first iterate of the body for which the guard fails, and it never ends where
an invariant keeps the guard.
-/

set_option autoImplicit false

namespace While

variable {σ : Type*} (guard : σ → Bool) (body : σ → σ)

/-- At most so many turns of the loop; nothing where it has not ended by then. -/
def run : Nat → σ → Option σ
  | 0, state => if guard state then none else some state
  | turns + 1, state => if guard state then run turns (body state) else some state

/-- The loop ends in a state, however many turns it takes. -/
def Ends (state last : σ) : Prop := ∃ turns, run guard body turns state = some last

variable {guard body}

theorem run_of_not {state : σ} (stops : guard state = false) (turns : Nat) :
    run guard body turns state = some state := by
  cases turns <;> simp only [run, stops, Bool.false_eq_true, if_false]

theorem run_succ {state : σ} (goesOn : guard state = true) (turns : Nat) :
    run guard body (turns + 1) state = run guard body turns (body state) := by
  rw [run, if_pos goesOn]

/-- A result does not depend on the number of turns. -/
theorem run_unique {first second : Nat} {state left right : σ}
    (isLeft : run guard body first state = some left)
    (isRight : run guard body second state = some right) : left = right := by
  induction first generalizing second state with
  | zero =>
      cases goesOn : guard state with
      | true =>
          rw [run, if_pos goesOn] at isLeft
          cases isLeft
      | false =>
          rw [run_of_not goesOn] at isLeft isRight
          exact Option.some.inj (isLeft.symm.trans isRight)
  | succ first ih =>
      cases goesOn : guard state with
      | true =>
          rw [run_succ goesOn] at isLeft
          cases second with
          | zero =>
              rw [run, if_pos goesOn] at isRight
              cases isRight
          | succ second =>
              rw [run_succ goesOn] at isRight
              exact ih isLeft isRight
      | false =>
          rw [run_of_not goesOn] at isLeft isRight
          exact Option.some.inj (isLeft.symm.trans isRight)

theorem Ends.unique {state left right : σ} (first : Ends guard body state left)
    (second : Ends guard body state right) : left = right := by
  obtain ⟨_, isLeft⟩ := first
  obtain ⟨_, isRight⟩ := second
  exact run_unique isLeft isRight

/-- The loop ends at the first iterate for which the guard fails. -/
theorem ends_iterate {state : σ} {count : Nat}
    (before : ∀ turn < count, guard (body^[turn] state) = true)
    (stops : guard (body^[count] state) = false) : Ends guard body state (body^[count] state) := by
  refine ⟨count, ?_⟩
  induction count generalizing state with
  | zero => exact run_of_not stops 0
  | succ count ih =>
      have goesOn : guard state = true := before 0 (Nat.succ_pos _)
      rw [run_succ goesOn, Function.iterate_succ_apply]
      exact ih (fun turn less => before (turn + 1) (Nat.succ_lt_succ less)) stops

/-- An invariant that keeps the guard keeps the loop from ending. -/
theorem run_eq_none (invariant : σ → Prop)
    (keeps : ∀ state, invariant state → guard state = true ∧ invariant (body state))
    {state : σ} (holds : invariant state) (turns : Nat) :
    run guard body turns state = none := by
  induction turns generalizing state with
  | zero => exact if_pos (keeps state holds).1
  | succ turns ih =>
      rw [run_succ (keeps state holds).1]
      exact ih (keeps state holds).2

end While

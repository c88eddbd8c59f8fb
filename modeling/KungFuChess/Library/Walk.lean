import Mathlib.Logic.Function.Iterate
import Mathlib.Tactic.Common

/-!
# Walks to a target

A loop that steps from place to place until it meets a target, and gives up at
the first place that is not free. `Ends` is the loop as it runs: the places it
tests, in order, and its answer. A loop without a run does not terminate. `walk`
is the loop on fuel.

From a place whose steps meet the target, the loop terminates, tests only places
before the target, and answers whether all of them are free.
-/

set_option autoImplicit false

namespace Walk

variable {α : Type*} (next : α → α) (free : α → Bool) (target : α)

/-- The runs of the loop. -/
inductive Ends : α → List α → Bool → Prop
  | meets : Ends target [] true
  | blocked {current : α} (elsewhere : current ≠ target) (taken : free current = false) :
      Ends current [current] false
  | goes {current : α} {tested : List α} {answer : Bool} (elsewhere : current ≠ target)
      (isFree : free current = true) (onward : Ends (next current) tested answer) :
      Ends current (current :: tested) answer

/-- The loop on fuel. -/
def walk [DecidableEq α] : Nat → α → Bool
  | 0, _ => false
  | fuel + 1, current =>
      if current = target then true
      else if ¬ free current then false
      else walk fuel (next current)

variable {next free target}

/-- The loop has one run from each place. -/
theorem Ends.unique {current : α} {one two : List α} {first second : Bool}
    (left : Ends next free target current one first)
    (right : Ends next free target current two second) : one = two ∧ first = second := by
  induction left generalizing two second with
  | meets =>
      cases right with
      | meets => exact ⟨rfl, rfl⟩
      | blocked elsewhere _ => exact absurd rfl elsewhere
      | goes elsewhere _ _ => exact absurd rfl elsewhere
  | blocked elsewhere taken =>
      cases right with
      | meets => exact absurd rfl elsewhere
      | blocked _ _ => exact ⟨rfl, rfl⟩
      | goes _ isFree _ =>
          rw [taken] at isFree
          cases isFree
  | goes elsewhere isFree _ ih =>
      cases right with
      | meets => exact absurd rfl elsewhere
      | blocked _ taken =>
          rw [taken] at isFree
          cases isFree
      | goes _ _ onward =>
          obtain ⟨same, answers⟩ := ih onward
          exact ⟨congrArg _ same, answers⟩

/-- The places before the target. -/
def Meets (next : α → α) (target start : α) (steps : Nat) : Prop :=
  next^[steps] start = target ∧ ∀ step < steps, next^[step] start ≠ target

theorem Meets.tail {start : α} {steps : Nat} (meets : Meets next target start (steps + 1)) :
    Meets next target (next start) steps :=
  ⟨meets.1, fun step before => meets.2 (step + 1) (Nat.succ_lt_succ before)⟩

/-- **A walk that meets its target terminates**, tests only places before it, and
answers whether all of these are free. -/
theorem ends_of_meets (free : α → Bool) :
    ∀ {steps : Nat} {start : α}, Meets next target start steps →
    ∃ tested answer, Ends next free target start tested answer ∧ tested.length ≤ steps ∧
      (answer = true ↔ ∀ step < steps, free (next^[step] start) = true) ∧
      ∀ place ∈ tested, ∃ step < steps, place = next^[step] start
  | 0, start, meets => by
      obtain rfl : start = target := meets.1
      exact ⟨[], true, .meets, Nat.le_refl _, ⟨fun _ _ before => absurd before (Nat.not_lt_zero _),
        fun _ => rfl⟩,
        fun _ => nofun⟩
  | steps + 1, start, meets => by
      have elsewhere : start ≠ target := meets.2 0 (Nat.succ_pos steps)
      cases tested : free start with
      | false =>
          refine ⟨[start], false, .blocked elsewhere tested, Nat.succ_pos steps,
            ⟨nofun, fun all => ?_⟩, fun place member =>
              ⟨0, Nat.succ_pos steps, List.mem_singleton.mp member⟩⟩
          exact tested.symm.trans (all 0 (Nat.succ_pos steps))
      | true =>
          obtain ⟨places, answer, onward, short, all, before⟩ := ends_of_meets free meets.tail
          refine ⟨start :: places, answer, .goes elsewhere tested onward,
            Nat.succ_le_succ short, all.trans ?_, fun place member => ?_⟩
          · constructor
            · intro later step inside
              cases step with
              | zero => exact tested
              | succ step => exact later step (Nat.lt_of_succ_lt_succ inside)
            · exact fun later step inside => later (step + 1) (Nat.succ_lt_succ inside)
          · rcases List.mem_cons.mp member with rfl | later
            · exact ⟨0, Nat.succ_pos steps, rfl⟩
            · obtain ⟨step, inside, same⟩ := before place later
              exact ⟨step + 1, Nat.succ_lt_succ inside, same⟩

/-- Fuel for one more turn than the run tests places is enough: the loop on fuel
then has the answer of the run. -/
theorem walk_eq_of_ends [DecidableEq α] {start : α} {tested : List α} {answer : Bool}
    (ends : Ends next free target start tested answer) :
    ∀ {fuel : Nat}, tested.length < fuel → walk next free target fuel start = answer := by
  induction ends with
  | meets =>
      intro fuel enough
      cases fuel with
      | zero => exact absurd enough (Nat.not_lt_zero _)
      | succ fuel => exact if_pos rfl
  | blocked elsewhere taken =>
      intro fuel enough
      cases fuel with
      | zero => exact absurd enough (Nat.not_lt_zero _)
      | succ fuel => simp only [walk, elsewhere, taken, Bool.false_eq_true, not_false_eq_true,
          if_true, if_false]
  | goes elsewhere isFree _ ih =>
      intro fuel enough
      cases fuel with
      | zero => exact absurd enough (Nat.not_lt_zero _)
      | succ fuel =>
          simp only [walk, elsewhere, isFree, not_true_eq_false, if_false]
          exact ih (Nat.lt_of_succ_lt_succ enough)

end Walk

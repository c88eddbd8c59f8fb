import Mathlib.Tactic.Common

/-!
# Runs of a deterministic machine

A machine takes a state and an input to the next state; a run is a fold over a
list of inputs. `visits` pairs every input of a run with the state it is met in,
so that a condition can be put on each step of a run.
-/

set_option autoImplicit false

namespace Trace

variable {σ ι : Type*} (step : σ → ι → σ)

/-- The state after a run. -/
def run (state : σ) (inputs : List ι) : σ := inputs.foldl step state

/-- The inputs of a run, each with the state it is met in. -/
def visits : σ → List ι → List (σ × ι)
  | _, [] => []
  | state, input :: rest => (state, input) :: visits (step state input) rest

@[simp] theorem run_nil (state : σ) : run step state [] = state := rfl

@[simp] theorem run_cons (state : σ) (input : ι) (rest : List ι) :
    run step state (input :: rest) = run step (step state input) rest := rfl

theorem run_append (state : σ) (first second : List ι) :
    run step state (first ++ second) = run step (run step state first) second :=
  List.foldl_append

theorem visits_append (first second : List ι) : ∀ state : σ,
    visits step state (first ++ second) =
      visits step state first ++ visits step (run step state first) second := by
  induction first with
  | nil => exact fun _ => rfl
  | cons input rest ih => exact fun state => congrArg _ (ih (step state input))

variable {step}

/-- Every visit comes after a run of the inputs before it. -/
theorem visits_split {visit : σ × ι} : ∀ {inputs : List ι} {state : σ},
    visit ∈ visits step state inputs →
      ∃ before after, inputs = before ++ visit.2 :: after ∧ visit.1 = run step state before := by
  intro inputs
  induction inputs with
  | nil => exact fun member => absurd member List.not_mem_nil
  | cons input rest ih =>
      intro state member
      rcases List.mem_cons.mp member with rfl | later
      · exact ⟨[], rest, rfl, rfl⟩
      · obtain ⟨before, after, rfl, same⟩ := ih later
        exact ⟨input :: before, after, rfl, same⟩

/-- Where the visits of a run split, its inputs split. -/
theorem visits_eq_append_cons {visit : σ × ι} {second : List (σ × ι)} :
    ∀ {first : List (σ × ι)} {inputs : List ι} {state : σ},
      visits step state inputs = first ++ visit :: second →
        ∃ before after, inputs = before ++ visit.2 :: after ∧
          first = visits step state before ∧ visit.1 = run step state before ∧
          second = visits step (run step state (before ++ [visit.2])) after := by
  intro first
  induction first with
  | nil =>
      intro inputs state split
      cases inputs with
      | nil => cases split
      | cons input rest =>
          rw [visits, List.nil_append] at split
          obtain ⟨rfl, same⟩ := List.cons.inj split
          exact ⟨[], rest, rfl, rfl, rfl, same.symm⟩
  | cons earliest first ih =>
      intro inputs state split
      cases inputs with
      | nil => cases split
      | cons input rest =>
          rw [visits, List.cons_append] at split
          obtain ⟨rfl, same⟩ := List.cons.inj split
          obtain ⟨before, after, rfl, rfl, atVisit, onward⟩ := ih same
          exact ⟨input :: before, after, rfl, rfl, atVisit, onward⟩

/-- **What every admitted step preserves, a run of admitted steps preserves.** -/
theorem run_rule {motive : σ → Prop} (guard : σ → ι → Prop)
    (preserved : ∀ state input, guard state input → motive state → motive (step state input)) :
    ∀ (inputs : List ι) (state : σ), (∀ visit ∈ visits step state inputs, guard visit.1 visit.2) →
      motive state → motive (run step state inputs) := by
  intro inputs
  induction inputs with
  | nil => exact fun _ _ holds => holds
  | cons input rest ih =>
      intro state guarded holds
      exact ih (step state input) (fun visit member =>
        guarded visit (List.mem_cons_of_mem _ member))
        (preserved state input (guarded _ (List.mem_cons_self ..)) holds)

/-- The rule for runs whose steps need no condition. -/
theorem run_invariant {motive : σ → Prop}
    (preserved : ∀ state input, motive state → motive (step state input)) (inputs : List ι)
    {state : σ} (holds : motive state) : motive (run step state inputs) :=
  run_rule (fun _ _ => True) (fun state input _ => preserved state input) inputs state
    (fun _ _ => trivial) holds

/-- A measure that each marked step raises by one counts the marked steps of a run. -/
theorem run_count {measure : σ → Int} (marked : σ × ι → Bool)
    (raised : ∀ state input, measure (step state input) =
      measure state + if marked (state, input) then 1 else 0) :
    ∀ (inputs : List ι) (state : σ), measure (run step state inputs) =
      measure state + (visits step state inputs).countP marked := by
  intro inputs
  induction inputs with
  | nil => exact fun _ => (Int.add_zero _).symm
  | cons input rest ih =>
      intro state
      rw [run_cons, ih, raised, visits, List.countP_cons]
      split <;> omega

/-- Every state met in a run of admitted steps satisfies what these preserve. -/
theorem visits_rule {motive : σ → Prop} (guard : σ → ι → Prop)
    (preserved : ∀ state input, guard state input → motive state → motive (step state input)) :
    ∀ (inputs : List ι) (state : σ), (∀ visit ∈ visits step state inputs, guard visit.1 visit.2) →
      motive state → ∀ visit ∈ visits step state inputs, motive visit.1 := by
  intro inputs
  induction inputs with
  | nil => exact fun _ _ _ visit member => absurd member List.not_mem_nil
  | cons input rest ih =>
      intro state guarded holds visit member
      rcases List.mem_cons.mp member with rfl | later
      · exact holds
      · exact ih (step state input)
          (fun other onward => guarded other (List.mem_cons_of_mem _ onward))
          (preserved state input (guarded _ (List.mem_cons_self ..)) holds) visit later

end Trace

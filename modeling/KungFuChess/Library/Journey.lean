import Mathlib.Tactic.Common

/-!
# Journeys with visible states

A system moves by silent steps and by visible ones. A journey is a run that records, in order, the
states its visible steps are taken from. Conditions on a run are conditions on
these states, and results about a run are proved by the rules below: what every
step preserves, a journey preserves; what a preorder relates step by step, it
relates along the whole journey.
-/

set_option autoImplicit false

variable {σ : Type*}

/-- A journey from one state to another, with the states of its visible steps. -/
inductive Journey (silent visible : σ → σ → Prop) : σ → List σ → σ → Prop
  | nil (state : σ) : Journey silent visible state [] state
  | silent {first next last : σ} {visited : List σ} (step : silent first next)
      (rest : Journey silent visible next visited last) : Journey silent visible first visited last
  | visible {first next last : σ} {visited : List σ} (step : visible first next)
      (rest : Journey silent visible next visited last) :
      Journey silent visible first (first :: visited) last

namespace Journey

variable {silent visible : σ → σ → Prop}

theorem trans {first middle last : σ} {before after : List σ}
    (left : Journey silent visible first before middle)
    (right : Journey silent visible middle after last) :
    Journey silent visible first (before ++ after) last := by
  induction left with
  | nil => exact right
  | silent step _ ih => exact .silent step (ih right)
  | visible step _ ih => exact .visible step (ih right)

/-- More silent steps allow more journeys. -/
theorem mono {more : σ → σ → Prop} (weaker : ∀ first next, silent first next → more first next)
    {first last : σ} {visited : List σ} (journey : Journey silent visible first visited last) :
    Journey more visible first visited last := by
  induction journey with
  | nil state => exact .nil state
  | silent step _ ih => exact .silent (weaker _ _ step) ih
  | visible step _ ih => exact .visible step ih

/-- **The invariant rule.** What silent steps preserve, and visible steps preserve
from guarded states, a journey of guarded states preserves. -/
theorem rule {motive : σ → Prop} (guard : σ → Prop)
    (onSilent : ∀ first next, silent first next → motive first → motive next)
    (onVisible : ∀ first next, visible first next → guard first → motive first → motive next)
    {first last : σ} {visited : List σ} (journey : Journey silent visible first visited last)
    (guarded : ∀ state ∈ visited, guard state) (holds : motive first) : motive last := by
  induction journey with
  | nil => exact holds
  | silent step _ ih => exact ih guarded (onSilent _ _ step holds)
  | visible step _ ih =>
      exact ih (fun state member => guarded state (List.mem_cons_of_mem _ member))
        (onVisible _ _ step (guarded _ (List.mem_cons_self ..)) holds)

/-- Every visible state of a journey satisfies what its steps preserve. -/
theorem visited_rule {motive : σ → Prop}
    (onSilent : ∀ first next, silent first next → motive first → motive next)
    (onVisible : ∀ first next, visible first next → motive first → motive next)
    {first last : σ} {visited : List σ} (journey : Journey silent visible first visited last)
    (holds : motive first) : ∀ state ∈ visited, motive state := by
  induction journey with
  | nil => exact fun _ member => absurd member List.not_mem_nil
  | silent step _ ih => exact ih (onSilent _ _ step holds)
  | visible step _ ih =>
      intro state member
      rcases List.mem_cons.mp member with rfl | later
      · exact holds
      · exact ih (onVisible _ _ step holds) state later

/-- A journey passes through each of its visible states, by a visible step. -/
theorem split {first last : σ} {visited : List σ}
    (journey : Journey silent visible first visited last)
    {state : σ} (member : state ∈ visited) :
    ∃ before next after, visited = before ++ state :: after ∧
      Journey silent visible first before state ∧ visible state next ∧
        Journey silent visible next after last := by
  induction journey with
  | nil => exact absurd member List.not_mem_nil
  | silent step _ ih =>
      obtain ⟨before, next, after, rfl, left, here, right⟩ := ih member
      exact ⟨before, next, after, rfl, .silent step left, here, right⟩
  | visible step rest ih =>
      rcases List.mem_cons.mp member with rfl | later
      · exact ⟨[], _, _, rfl, .nil _, step, rest⟩
      · obtain ⟨before, next, after, rfl, left, here, right⟩ := ih later
        exact ⟨_ :: before, next, after, rfl, .visible step left, here, right⟩

/-- What silent steps preserve still holds in the next visible state, or at the end. -/
theorem until_visible {motive : σ → Prop}
    (onSilent : ∀ first next, silent first next → motive first → motive next)
    {first last : σ} {visited : List σ} (journey : Journey silent visible first visited last)
    (holds : motive first) : ∃ state ∈ visited ++ [last], motive state := by
  induction journey with
  | nil state => exact ⟨state, List.mem_singleton.mpr rfl, holds⟩
  | silent step _ ih => exact ih (onSilent _ _ step holds)
  | visible _ _ _ => exact ⟨_, List.mem_cons_self .., holds⟩

/-- **The rule for registers.** A register that silent steps leave alone, and that each visible
step updates as its state says, holds in the end what the visible states made of it. -/
theorem fold {β : Type*} {motive : σ → Prop} (value : σ → β) (update : β → σ → β)
    (onSilent : ∀ first next, silent first next → motive first →
      motive next ∧ value next = value first)
    (onVisible : ∀ first next, visible first next → motive first →
      motive next ∧ value next = update (value first) first)
    {first last : σ} {visited : List σ} (journey : Journey silent visible first visited last)
    (holds : motive first) : value last = visited.foldl update (value first) := by
  induction journey with
  | nil => rfl
  | silent step _ ih =>
      obtain ⟨onward, same⟩ := onSilent _ _ step holds
      rw [ih onward, same]
  | visible step _ ih =>
      obtain ⟨onward, updated⟩ := onVisible _ _ step holds
      rw [ih onward, updated, List.foldl_cons]

/-- **The rule for logs.** A log that silent steps leave alone, and to which each visible step
appends what its state contributes, lists in the end what the visible states contributed. -/
theorem log {ε : Type*} {motive : σ → Prop} (entries : σ → List ε) (contributes : σ → List ε)
    (onSilent : ∀ first next, silent first next → motive first →
      motive next ∧ entries next = entries first)
    (onVisible : ∀ first next, visible first next → motive first →
      motive next ∧ entries next = entries first ++ contributes first)
    {first last : σ} {visited : List σ} (journey : Journey silent visible first visited last)
    (holds : motive first) : entries last = entries first ++ visited.flatMap contributes := by
  rw [journey.fold entries (fun log state => log ++ contributes state) onSilent onVisible holds,
    List.foldl_append_eq_append, List.flatMap_def]

/-- **The chain rule.** A preorder that relates the two ends of every step, the
visible ones from guarded states, relates the visible states of a journey in order,
the first state to all of them, and all of them to the last one. -/
theorem chain (related : σ → σ → Prop) (refl : ∀ state, related state state)
    (trans : ∀ {one two three}, related one two → related two three → related one three)
    (onSilent : ∀ first next, silent first next → related first next) (guard : σ → Prop)
    (onVisible : ∀ first next, visible first next → guard first → related first next)
    {first last : σ} {visited : List σ} (journey : Journey silent visible first visited last)
    (guarded : ∀ state ∈ visited, guard state) :
    (first :: (visited ++ [last])).Pairwise related := by
  induction journey with
  | nil state =>
      refine List.pairwise_cons.mpr ⟨?_, List.pairwise_singleton _ _⟩
      intro other member
      rw [List.mem_singleton.mp member]
      exact refl state
  | silent step _ ih =>
      obtain ⟨later, chained⟩ := List.pairwise_cons.mp (ih guarded)
      exact List.pairwise_cons.mpr
        ⟨fun other member => trans (onSilent _ _ step) (later other member), chained⟩
  | visible step _ ih =>
      have rest := ih fun state member => guarded state (List.mem_cons_of_mem _ member)
      have here := onVisible _ _ step (guarded _ (List.mem_cons_self ..))
      obtain ⟨later, chained⟩ := List.pairwise_cons.mp rest
      have onward : ∀ other ∈ _ ++ [_], related _ other :=
        fun other member => trans here (later other member)
      refine List.pairwise_cons.mpr ⟨?_, List.pairwise_cons.mpr ⟨onward, chained⟩⟩
      intro other member
      rcases List.mem_cons.mp member with rfl | after
      · exact refl _
      · exact onward other after

end Journey

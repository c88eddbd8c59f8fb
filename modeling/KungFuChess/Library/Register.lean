import Mathlib.Order.Lattice
import Mathlib.Data.List.Basic
import Mathlib.Tactic.Common

/-!
# Registers that keep the latest value

A register keeps the value with the greatest key that arrived so far, and of two
values with one key the first. What it holds in the end depends on the values
that arrived and not on their order or their number, as far as their keys tell
them apart.
-/

set_option autoImplicit false

namespace Register

variable {α κ : Type*} [LinearOrder κ] (key : α → κ)

/-- The register after one arrival. -/
def latest (held : Option α) (arriving : α) : Option α :=
  match held with
  | none => some arriving
  | some current => if key current < key arriving then some arriving else some current

@[simp] theorem latest_none (arriving : α) : latest key none arriving = some arriving := rfl

theorem latest_some (current arriving : α) :
    latest key (some current) arriving =
      if key current < key arriving then some arriving else some current := rfl

variable {key}

/-- A register that holds a value keeps holding one: a value it held before or
one that arrived, and none of these has a greater key. -/
theorem foldl_latest_some (key : α → κ) : ∀ (arrivals : List α) (current : α),
    ∃ last ∈ current :: arrivals, arrivals.foldl (latest key) (some current) = some last ∧
      ∀ value ∈ current :: arrivals, key value ≤ key last
  | [], current => ⟨current, List.mem_singleton_self _, rfl, by
      rintro value member
      rw [List.mem_singleton.mp member]⟩
  | arriving :: rest, current => by
      rw [List.foldl_cons, latest_some]
      split
      · next newer =>
          obtain ⟨last, member, held, bound⟩ := foldl_latest_some key rest arriving
          refine ⟨last, List.mem_cons_of_mem _ member, held, fun value among => ?_⟩
          rcases List.mem_cons.mp among with rfl | later
          · exact le_trans (le_of_lt newer) (bound arriving (List.mem_cons_self ..))
          · exact bound value later
      · next older =>
          obtain ⟨last, member, held, bound⟩ := foldl_latest_some key rest current
          refine ⟨last, ?_, held, fun value among => ?_⟩
          · rcases List.mem_cons.mp member with rfl | later
            · exact List.mem_cons_self ..
            · exact List.mem_cons_of_mem _ (List.mem_cons_of_mem _ later)
          · rcases List.mem_cons.mp among with rfl | later
            · exact bound value (List.mem_cons_self ..)
            · rcases List.mem_cons.mp later with rfl | later
              · exact le_trans (not_lt.mp older) (bound current (List.mem_cons_self ..))
              · exact bound value (List.mem_cons_of_mem _ later)

/-- **The register converges.** Among values that their keys tell apart, it ends
with the one that has the greatest key, whatever the order and the number of
arrivals. -/
theorem foldl_latest_eq (key : α → κ) {arrivals : List α} {greatest : α}
    (arrived : greatest ∈ arrivals)
    (bound : ∀ value ∈ arrivals, key value ≤ key greatest)
    (apart : ∀ value ∈ arrivals, key value = key greatest → value = greatest) :
    arrivals.foldl (latest key) none = some greatest := by
  cases arrivals with
  | nil => exact absurd arrived List.not_mem_nil
  | cons arriving rest =>
      obtain ⟨last, member, held, above⟩ := foldl_latest_some key rest arriving
      have same : last = greatest :=
        apart last member (le_antisymm (bound last member) (above greatest arrived))
      rw [List.foldl_cons, latest_none, held, same]

end Register

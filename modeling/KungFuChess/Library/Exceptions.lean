import Mathlib.Data.List.Forall2

/-!
# Computations that may throw

Rules for `Except`: what a chain of computations returned tells what each of its
links returned.
-/

set_option autoImplicit false

namespace Except

variable {Error Value Result Item : Type}

@[simp] theorem ok_bind (value : Value) (next : Value → Except Error Result) :
    (Except.ok value >>= next) = next value := rfl

@[simp] theorem ok_map (value : Value) (change : Value → Result) :
    (change <$> (Except.ok value : Except Error Value)) = Except.ok (change value) := rfl

theorem bind_eq_ok {first : Except Error Value} {next : Value → Except Error Result}
    {result : Result} :
    (first >>= next) = Except.ok result ↔ ∃ value, first = .ok value ∧ next value = .ok result := by
  cases first with
  | error message => exact ⟨nofun, nofun⟩
  | ok value => exact ⟨fun returned => ⟨value, rfl, returned⟩, fun ⟨_, same, returned⟩ => by
      cases same
      exact returned⟩

theorem map_eq_ok {first : Except Error Value} {change : Value → Result} {result : Result} :
    (change <$> first) = Except.ok result ↔ ∃ value, first = .ok value ∧ change value = result := by
  cases first with
  | error message => exact ⟨nofun, nofun⟩
  | ok value =>
      constructor
      · intro changed
        cases changed
        exact ⟨value, rfl, rfl⟩
      · rintro ⟨_, same, rfl⟩
        cases same
        rfl

/-- A loop returned item by item. -/
theorem mapM_eq_ok {compute : Item → Except Error Result} {items : List Item}
    {results : List Result} :
    items.mapM compute = Except.ok results ↔
      List.Forall₂ (fun item result => compute item = .ok result) items results := by
  induction items generalizing results with
  | nil =>
      rw [List.mapM_nil, List.forall₂_nil_left_iff]
      exact ⟨fun returned => (Except.ok.inj returned).symm, fun empty => empty ▸ rfl⟩
  | cons item items ih =>
      rw [List.mapM_cons, bind_eq_ok, List.forall₂_cons_left_iff]
      constructor
      · rintro ⟨result, computed, rest⟩
        obtain ⟨others, loop, returned⟩ := bind_eq_ok.mp rest
        exact ⟨result, others, computed, ih.mp loop, (Except.ok.inj returned).symm⟩
      · rintro ⟨result, others, computed, loop, rfl⟩
        exact ⟨result, computed, bind_eq_ok.mpr ⟨others, ih.mpr loop, rfl⟩⟩

end Except

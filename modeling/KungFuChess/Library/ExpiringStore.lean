import KungFuChess.Library.Trace
import Mathlib.Algebra.Order.Ring.Nat
import Mathlib.Data.List.Induction

/-!
# A store whose entries expire

A map from keys to values in which every entry has a deadline: reading a key after the
deadline of its entry finds nothing, and writing the key again replaces value and
deadline. What a key reads after a run of operations is then settled by the last of them
that names the key and by the time since.
-/

set_option autoImplicit false

/-- A store with its clock. -/
structure ExpiringStore (κ ν : Type*) where
  now : Nat := 0
  /-- The entry of a key, with the moment it expires. -/
  entry : κ → Option (ν × Nat) := fun _ => none

namespace ExpiringStore

variable {κ ν : Type*}

/-- The value of a key, while its deadline has not come. -/
def get (store : ExpiringStore κ ν) (key : κ) : Option ν :=
  ((store.entry key).filter fun entry => store.now < entry.2).map Prod.fst

theorem get_eq_some {store : ExpiringStore κ ν} {key : κ} {value : ν} :
    store.get key = some value ↔
      ∃ deadline, store.entry key = some (value, deadline) ∧ store.now < deadline := by
  unfold get
  rw [Option.map_eq_some_iff]
  constructor
  · rintro ⟨⟨found, deadline⟩, kept, rfl⟩
    obtain ⟨isEntry, alive⟩ := Option.filter_eq_some_iff.mp kept
    exact ⟨deadline, isEntry, of_decide_eq_true alive⟩
  · rintro ⟨deadline, isEntry, alive⟩
    exact ⟨(value, deadline), Option.filter_eq_some_iff.mpr ⟨isEntry, decide_eq_true alive⟩, rfl⟩

variable [DecidableEq κ]

/-- Writes a value that lives for some time. -/
def set (store : ExpiringStore κ ν) (key : κ) (value : ν) (lifetime : Nat) :
    ExpiringStore κ ν :=
  { store with entry := Function.update store.entry key (some (value, store.now + lifetime)) }

/-- Removes a key. -/
def delete (store : ExpiringStore κ ν) (key : κ) : ExpiringStore κ ν :=
  { store with entry := Function.update store.entry key none }

@[simp] theorem entry_set_self (store : ExpiringStore κ ν) (key : κ) (value : ν) (lifetime : Nat) :
    (store.set key value lifetime).entry key = some (value, store.now + lifetime) :=
  Function.update_self ..

@[simp] theorem entry_delete_self (store : ExpiringStore κ ν) (key : κ) :
    (store.delete key).entry key = none :=
  Function.update_self ..

/-- Lets time pass. -/
def advance (store : ExpiringStore κ ν) (elapsed : Nat) : ExpiringStore κ ν :=
  { store with now := store.now + elapsed }

/-- What can be done to a store. -/
inductive Operation (κ ν : Type*) where
  | set (key : κ) (value : ν) (lifetime : Nat)
  | delete (key : κ)
  | advance (elapsed : Nat)

namespace Operation

/-- The key an operation names. -/
def key? : Operation κ ν → Option κ
  | .set key _ _ => some key
  | .delete key => some key
  | .advance _ => none

/-- The time an operation takes. -/
def elapsed : Operation κ ν → Nat
  | .advance elapsed => elapsed
  | _ => 0

end Operation

/-- Does an operation. -/
def apply (store : ExpiringStore κ ν) : Operation κ ν → ExpiringStore κ ν
  | .set key value lifetime => store.set key value lifetime
  | .delete key => store.delete key
  | .advance elapsed => store.advance elapsed

/-- The time a run of operations takes. -/
def elapsed (operations : List (Operation κ ν)) : Nat := (operations.map Operation.elapsed).sum

theorem now_apply (store : ExpiringStore κ ν) (operation : Operation κ ν) :
    (store.apply operation).now = store.now + operation.elapsed := by
  cases operation <;> rfl

theorem now_run (operations : List (Operation κ ν)) : ∀ store : ExpiringStore κ ν,
    (Trace.run apply store operations).now = store.now + elapsed operations := by
  induction operations with
  | nil => exact fun _ => rfl
  | cons operation rest ih =>
      intro store
      rw [Trace.run_cons, ih, now_apply, Nat.add_assoc]
      rfl

/-- An operation leaves the entries of other keys. -/
theorem entry_apply_of_ne (store : ExpiringStore κ ν) {operation : Operation κ ν} {key : κ}
    (other : operation.key? ≠ some key) : (store.apply operation).entry key = store.entry key := by
  cases operation with
  | set written value lifetime =>
      exact Function.update_of_ne (fun same => other (congrArg some same.symm)) _ _
  | delete removed =>
      exact Function.update_of_ne (fun same => other (congrArg some same.symm)) _ _
  | advance elapsed => rfl

/-- A run that does not name a key leaves its entry. -/
theorem entry_run_of_unnamed {key : κ} {operations : List (Operation κ ν)}
    (unnamed : ∀ operation ∈ operations, operation.key? ≠ some key) (store : ExpiringStore κ ν) :
    (Trace.run apply store operations).entry key = store.entry key := by
  refine Trace.run_rule (motive := fun reached => reached.entry key = store.entry key)
    (fun _ operation => operation.key? ≠ some key) ?_ operations store ?_ rfl
  · intro reached operation other same
    exact (reached.entry_apply_of_ne other).trans same
  · intro visit member
    obtain ⟨before, after, split, _⟩ := Trace.visits_split member
    exact unnamed _ (split ▸ List.mem_append_right _ List.mem_cons_self)

/-- Where the entry of a key comes from: the last operation that names it. -/
theorem entry_run_iff {key : κ} {value : ν} {deadline : Nat} :
    ∀ operations : List (Operation κ ν),
      (Trace.run apply ({} : ExpiringStore κ ν) operations).entry key = some (value, deadline) ↔
        ∃ before lifetime later, operations = before ++ .set key value lifetime :: later ∧
          (∀ operation ∈ later, operation.key? ≠ some key) ∧
          deadline = elapsed before + lifetime := by
  intro operations
  constructor
  · induction operations using List.reverseRecOn with
    | nil => exact fun found => by cases found
    | append_singleton before operation ih =>
        intro found
        rw [Trace.run_append, Trace.run_cons, Trace.run_nil] at found
        by_cases named : operation.key? = some key
        · cases operation with
          | set written stored lifetime =>
              cases named
              rw [apply, entry_set_self, now_run, Nat.zero_add] at found
              cases found
              exact ⟨before, lifetime, [], rfl, fun _ member => absurd member List.not_mem_nil, rfl⟩
          | delete removed =>
              cases named
              rw [apply, entry_delete_self] at found
              cases found
          | advance elapsed => cases named
        · rw [entry_apply_of_ne _ named] at found
          obtain ⟨earlier, lifetime, later, rfl, unnamed, same⟩ := ih found
          refine ⟨earlier, lifetime, later ++ [operation], by simp, ?_, same⟩
          intro other member
          rcases List.mem_append.mp member with inLater | isLast
          · exact unnamed other inLater
          · rw [List.mem_singleton.mp isLast]
            exact named
  · rintro ⟨before, lifetime, later, rfl, unnamed, rfl⟩
    rw [Trace.run_append, Trace.run_cons, entry_run_of_unnamed unnamed, apply, entry_set_self,
      now_run, Nat.zero_add]

/-- **What a key reads after a run.** A value, exactly when the last operation that names
the key has set it, less than its lifetime ago. -/
theorem get_run_iff {key : κ} {value : ν} (operations : List (Operation κ ν)) :
    (Trace.run apply ({} : ExpiringStore κ ν) operations).get key = some value ↔
      ∃ before lifetime later, operations = before ++ .set key value lifetime :: later ∧
        (∀ operation ∈ later, operation.key? ≠ some key) ∧ elapsed later < lifetime := by
  rw [get_eq_some, now_run, Nat.zero_add]
  constructor
  · rintro ⟨deadline, found, alive⟩
    obtain ⟨before, lifetime, later, rfl, unnamed, rfl⟩ := (entry_run_iff operations).mp found
    refine ⟨before, lifetime, later, rfl, unnamed, ?_⟩
    simp only [elapsed, List.map_append, List.map_cons, List.sum_append, List.sum_cons,
      Operation.elapsed] at alive ⊢
    omega
  · rintro ⟨before, lifetime, later, rfl, unnamed, alive⟩
    refine ⟨elapsed before + lifetime,
      (entry_run_iff _).mpr ⟨before, lifetime, later, rfl, unnamed, rfl⟩, ?_⟩
    simp only [elapsed, List.map_append, List.map_cons, List.sum_append, List.sum_cons,
      Operation.elapsed] at alive ⊢
    omega

end ExpiringStore

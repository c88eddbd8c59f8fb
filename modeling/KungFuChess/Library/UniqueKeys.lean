import Mathlib.Data.List.Nodup

/-!
# Rows with a unique key

A table whose rows differ in a key: looking a key up finds the row that has it.
-/

set_option autoImplicit false

namespace UniqueKeys

variable {Row Key : Type*} {key : Row → Key}

/-- Two rows with one key are one row. -/
theorem row_ext {rows : List Row} (unique : (rows.map key).Nodup) {first second : Row}
    (isFirst : first ∈ rows) (isSecond : second ∈ rows) (same : key first = key second) :
    first = second :=
  List.inj_on_of_nodup_map unique isFirst isSecond same

/-- A key is looked up to the row that has it. -/
theorem find?_eq_some [DecidableEq Key] {rows : List Row} (unique : (rows.map key).Nodup)
    {wanted : Key} {row : Row} :
    (rows.find? fun row => key row = wanted) = some row ↔ row ∈ rows ∧ key row = wanted := by
  constructor
  · intro found
    exact ⟨List.mem_of_find?_eq_some found, of_decide_eq_true (List.find?_some found :)⟩
  · rintro ⟨member, rfl⟩
    cases found : rows.find? fun other => key other = key row with
    | none =>
        have missing := List.find?_eq_none.mp found row member
        exact absurd (decide_eq_true rfl) missing
    | some other =>
        have same : key other = key row := of_decide_eq_true (List.find?_some found :)
        rw [row_ext unique (List.mem_of_find?_eq_some found) member same]

end UniqueKeys

import KungFuChess.Library.Exceptions

/-!
# Accesses by position

A program that reads a sequence keeps a position in it. Here every access is checked: one
that is out of range is a fault of its own, beside the errors that the program throws, and
nothing catches it. A position that a scan reaches stands for the part of the sequence
that starts there.
-/

set_option autoImplicit false

/-- How a checked computation fails. -/
inductive Fault (Error : Type) where
  | thrown (error : Error)
  | outOfRange
  deriving DecidableEq, Repr

namespace Fault

variable {Error Item Value Result : Type}

/-- A computation that makes no access. -/
def lift (computed : Except Error Value) : Except (Fault Error) Value :=
  match computed with
  | .ok value => .ok value
  | .error error => .error (.thrown error)

/-- `sequence[position]`. -/
def itemAt (sequence : List Item) (position : Nat) : Except (Fault Error) Item :=
  match sequence[position]? with
  | some item => .ok item
  | none => .error .outOfRange

/-- `left - right` of unsigned numbers, which may not wrap around. -/
def minus (left right : Nat) : Except (Fault Error) Nat :=
  if right ≤ left then .ok (left - right) else .error .outOfRange

/-- `count` items from a position on, or all that are left. -/
def substr (sequence : List Item) (position count : Nat) : Except (Fault Error) (List Item) :=
  if position ≤ sequence.length then .ok ((sequence.drop position).take count)
  else .error .outOfRange

/-! ## Lifted computations -/

@[simp] theorem lift_ok (value : Value) : lift (.ok value : Except Error Value) = .ok value := rfl

@[simp] theorem lift_error (error : Error) :
    lift (.error error : Except Error Value) = .error (.thrown error) := rfl

@[simp] theorem lift_pure (value : Value) :
    lift (pure value : Except Error Value) = pure value := rfl

@[simp] theorem lift_bind (first : Except Error Value) (next : Value → Except Error Result) :
    lift (first >>= next) = lift first >>= fun value => lift (next value) := by
  cases first <;> rfl

@[simp] theorem lift_map (change : Value → Result) (computed : Except Error Value) :
    lift (change <$> computed) = change <$> lift computed := by
  cases computed <;> rfl

theorem lift_mapM (compute : Item → Except Error Result) (items : List Item) :
    items.mapM (fun item => lift (compute item)) = lift (items.mapM compute) := by
  induction items with
  | nil => rfl
  | cons item items ih => simp only [List.mapM_cons, ih, lift_bind, lift_pure]

/-- What a lifted computation comes to. -/
theorem lift_cases (computed : Except Error Value) :
    (∃ value, computed = .ok value ∧ lift computed = .ok value) ∨
      ∃ error, computed = .error error ∧ lift computed = .error (.thrown error) := by
  cases computed with
  | ok value => exact .inl ⟨value, rfl, rfl⟩
  | error error => exact .inr ⟨error, rfl, rfl⟩

/-! ## Positions and the parts that start there -/

/-- Where a part starts that reaches to the end of the sequence. -/
def indexOf (sequence part : List Item) : Nat := sequence.length - part.length

section Parts

variable {sequence part first rest : List Item} {item : Item}

theorem indexOf_add_length (suffix : part <:+ sequence) :
    indexOf sequence part + part.length = sequence.length :=
  Nat.sub_add_cancel suffix.length_le

theorem indexOf_nil (sequence : List Item) : indexOf sequence [] = sequence.length := Nat.sub_zero _

theorem indexOf_lt_length (suffix : (item :: rest) <:+ sequence) :
    indexOf sequence (item :: rest) < sequence.length := by
  have total := indexOf_add_length suffix
  rw [List.length_cons] at total
  omega

theorem indexOf_append (suffix : (first ++ rest) <:+ sequence) :
    indexOf sequence (first ++ rest) + first.length = indexOf sequence rest := by
  have long := suffix.length_le
  rw [List.length_append] at long
  rw [indexOf, indexOf, List.length_append]
  omega

theorem indexOf_cons (suffix : (item :: rest) <:+ sequence) :
    indexOf sequence (item :: rest) + 1 = indexOf sequence rest := by
  have split : [item] ++ rest <:+ sequence := suffix
  exact indexOf_append split

theorem minus_eq {left right difference : Nat} (sum : right + difference = left) :
    (minus left right : Except (Fault Error) Nat) = .ok difference := by
  rw [minus, if_pos (by omega)]
  exact congrArg _ (by omega)

theorem drop_indexOf (suffix : part <:+ sequence) :
    sequence.drop (indexOf sequence part) = part :=
  (List.suffix_iff_eq_drop.mp suffix).symm

theorem itemAt_indexOf (suffix : (item :: rest) <:+ sequence) :
    (itemAt sequence (indexOf sequence (item :: rest)) : Except (Fault Error) Item) =
      .ok item := by
  have found : sequence[indexOf sequence (item :: rest)]? = some item := by
    rw [← List.head?_drop, drop_indexOf suffix, List.head?_cons]
  rw [itemAt, found]

theorem substr_indexOf (suffix : (first ++ rest) <:+ sequence) :
    (substr sequence (indexOf sequence (first ++ rest)) first.length :
      Except (Fault Error) (List Item)) = .ok first := by
  have inside : indexOf sequence (first ++ rest) ≤ sequence.length := Nat.sub_le ..
  rw [substr, if_pos inside, drop_indexOf suffix, List.take_left]

end Parts

end Fault

import Mathlib.Algebra.Order.Ring.Nat
import Mathlib.Data.List.Lex
import Mathlib.Tactic.Common

/-!
# Numbers whose texts sort like themselves

Texts are compared character by character. Where numbers are written with a fixed
count of digits, and several of them one after another between fixed separators,
this comparison is the one of the numbers: the first number that differs decides.
-/

set_option autoImplicit false

namespace TextOrder

/-! ## Comparing lists part by part -/

section Parts

variable {α : Type*} [LT α]

theorem append_lt_append_iff {front front' : List α} (length : front.length = front'.length)
    (rest rest' : List α) :
    front ++ rest < front' ++ rest' ↔ front < front' ∨ front = front' ∧ rest < rest' := by
  induction front generalizing front' with
  | nil =>
      obtain rfl := List.length_eq_zero_iff.mp length.symm
      simp only [List.nil_append, List.not_lt_nil, true_and, false_or]
  | cons head tail ih =>
      cases front' with
      | nil => cases length
      | cons head' tail' =>
          simp only [List.cons_append, List.cons_lt_cons_iff, ih (Nat.succ.inj length),
            List.cons.injEq]
          tauto

theorem append_left_lt_iff [Std.Irrefl (· < · : α → α → Prop)] (front rest rest' : List α) :
    front ++ rest < front ++ rest' ↔ rest < rest' := by
  rw [append_lt_append_iff rfl, or_iff_right (List.lt_irrefl front), and_iff_right rfl]

end Parts

/-! ## Digits -/

/-- The last digits of a number, `width` of them. -/
def digits : Nat → Nat → List Char
  | 0, _ => []
  | width + 1, number => digits width (number / 10) ++ [Nat.digitChar (number % 10)]

theorem length_digits (width number : Nat) : (digits width number).length = width := by
  induction width generalizing number with
  | zero => rfl
  | succ width ih => rw [digits, List.length_append, ih, List.length_singleton]

theorem digitChar_lt_iff : ∀ first < 10, ∀ second < 10,
    (Nat.digitChar first < Nat.digitChar second ↔ first < second) := by
  decide

theorem digitChar_inj : ∀ first < 10, ∀ second < 10,
    Nat.digitChar first = Nat.digitChar second → first = second := by
  decide

theorem digits_inj {width first second : Nat} (small : first < 10 ^ width)
    (small' : second < 10 ^ width) (same : digits width first = digits width second) :
    first = second := by
  induction width generalizing first second with
  | zero =>
      rw [Nat.pow_zero, Nat.lt_one_iff] at small small'
      rw [small, small']
  | succ width ih =>
      rw [Nat.pow_succ] at small small'
      obtain ⟨fronts, lasts⟩ := List.append_inj same (by simp only [length_digits])
      have quotients := ih (by omega) (by omega) fronts
      have remainders := digitChar_inj _ (Nat.mod_lt _ (by decide)) _ (Nat.mod_lt _ (by decide))
        (List.singleton_inj.mp lasts)
      omega

/-- **Padded numbers sort like numbers.** -/
theorem digits_lt_iff {width first second : Nat} (small : first < 10 ^ width)
    (small' : second < 10 ^ width) :
    digits width first < digits width second ↔ first < second := by
  induction width generalizing first second with
  | zero =>
      rw [Nat.pow_zero, Nat.lt_one_iff] at small small'
      rw [small, small']
      exact iff_of_false (List.lt_irrefl _) (Nat.lt_irrefl 0)
  | succ width ih =>
      rw [Nat.pow_succ] at small small'
      have quotient : first / 10 < 10 ^ width := by omega
      have quotient' : second / 10 < 10 ^ width := by omega
      have fronts : digits width (first / 10) = digits width (second / 10) ↔
          first / 10 = second / 10 :=
        ⟨digits_inj quotient quotient', congrArg _⟩
      rw [digits, digits, append_lt_append_iff (by simp only [length_digits]),
        ih quotient quotient', fronts, List.cons_lt_cons_iff,
        digitChar_lt_iff _ (Nat.mod_lt _ (by decide)) _ (Nat.mod_lt _ (by decide))]
      simp only [List.not_lt_nil, and_false, or_false]
      omega

/-! ## Records -/

/-- A text before a number, and the number's width. -/
structure Field where
  separator : List Char
  width : Nat
  deriving DecidableEq, Repr

/-- The numbers of a record, each after its separator. -/
def render : List Field → List Nat → List Char
  | field :: layout, number :: numbers =>
      field.separator ++ (digits field.width number ++ render layout numbers)
  | _, _ => []

/-- Every number of a record has a field that is wide enough. -/
def Fits : List Field → List Nat → Prop := List.Forall₂ fun field number => number < 10 ^ field.width

theorem length_render {layout : List Field} {numbers numbers' : List Nat}
    (fits : Fits layout numbers) (fits' : Fits layout numbers') :
    (render layout numbers).length = (render layout numbers').length := by
  induction fits generalizing numbers' with
  | nil =>
      cases fits'
      rfl
  | cons small fits ih =>
      cases fits' with
      | cons small' fits' =>
          simp only [render, List.length_append, length_digits, ih fits']

theorem render_inj {layout : List Field} {numbers numbers' : List Nat}
    (fits : Fits layout numbers) (fits' : Fits layout numbers')
    (same : render layout numbers = render layout numbers') : numbers = numbers' := by
  induction fits generalizing numbers' with
  | nil =>
      cases fits'
      rfl
  | cons small fits ih =>
      cases fits' with
      | cons small' fits' =>
          obtain ⟨first, rest⟩ :=
            List.append_inj (List.append_cancel_left same) (by simp only [length_digits])
          rw [digits_inj small small' first, ih fits' rest]

/-- **Rendered records sort like records.** -/
theorem render_lt_iff {layout : List Field} {numbers numbers' : List Nat}
    (fits : Fits layout numbers) (fits' : Fits layout numbers') :
    render layout numbers < render layout numbers' ↔ numbers < numbers' := by
  induction fits generalizing numbers' with
  | nil =>
      cases fits'
      exact iff_of_false (List.lt_irrefl _) (List.lt_irrefl _)
  | cons small fits ih =>
      cases fits' with
      | cons small' fits' =>
          rw [render, render, append_left_lt_iff,
            append_lt_append_iff (by simp only [length_digits]), digits_lt_iff small small',
            ih fits', List.cons_lt_cons_iff]
          exact or_congr_right (and_congr_left fun _ => ⟨digits_inj small small', congrArg _⟩)

end TextOrder

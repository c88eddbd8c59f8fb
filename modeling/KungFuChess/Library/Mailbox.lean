import KungFuChess.Library.Trace
import Mathlib.Data.List.Induction

/-!
# A mailbox that is read selectively

Messages of several kinds wait in one list. A reader names a kind and takes the oldest
message of it, whatever waits in front of it. For every kind by itself the mailbox is
then a queue: what was taken of the kind, followed by what still waits of it, is what
was put in of it.
-/

set_option autoImplicit false

namespace Mailbox

variable {μ κ : Type*} [DecidableEq κ] (kind : μ → κ)

/-- The oldest message of a kind. -/
def oldest (wanted : κ) (waiting : List μ) : Option μ := waiting.find? fun message =>
  kind message = wanted

/-- The mailbox without the oldest message of a kind. -/
def without (wanted : κ) (waiting : List μ) : List μ := waiting.eraseP fun message =>
  kind message = wanted

/-- The messages of a kind. -/
def ofKind (wanted : κ) (messages : List μ) : List μ := messages.filter fun message =>
  kind message = wanted

/-- Taking splits off the first message of the kind. -/
theorem ofKind_taken {wanted : κ} {message : μ} : ∀ {waiting : List μ},
    oldest kind wanted waiting = some message →
      ofKind kind wanted waiting = message :: ofKind kind wanted (without kind wanted waiting) := by
  intro waiting
  induction waiting with
  | nil => exact fun found => by cases found
  | cons first rest ih =>
      intro found
      unfold oldest at found
      unfold ofKind without
      by_cases same : kind first = wanted
      · rw [List.find?_cons_of_pos (by simpa using same)] at found
        cases found
        rw [List.filter_cons_of_pos (by simpa using same),
          List.eraseP_cons_of_pos (by simpa using same)]
      · rw [List.find?_cons_of_neg (by simpa using same)] at found
        rw [List.filter_cons_of_neg (by simpa using same),
          List.eraseP_cons_of_neg (by simpa using same),
          List.filter_cons_of_neg (by simpa using same)]
        exact ih found

/-- Taking leaves the messages of other kinds where they are. -/
theorem ofKind_others {wanted other : κ} (distinct : other ≠ wanted) : ∀ waiting : List μ,
    ofKind kind other (without kind wanted waiting) = ofKind kind other waiting := by
  intro waiting
  induction waiting with
  | nil => rfl
  | cons first rest ih =>
      unfold ofKind without at ih ⊢
      by_cases same : kind first = wanted
      · rw [List.eraseP_cons_of_pos (by simpa using same),
          List.filter_cons_of_neg (by simpa [same] using distinct.symm)]
      · rw [List.eraseP_cons_of_neg (by simpa using same), List.filter_cons, List.filter_cons, ih]

theorem kind_of_oldest {wanted : κ} {waiting : List μ} {message : μ}
    (found : oldest kind wanted waiting = some message) : kind message = wanted := by
  simpa using List.find?_some found

/-- A mailbox with its past: what was put in, what waits and what was taken. -/
structure Ledger (put waiting taken : List μ) : Prop where
  balance : ∀ wanted, ofKind kind wanted taken ++ ofKind kind wanted waiting =
    ofKind kind wanted put

variable {kind} {put waiting taken : List μ}

theorem Ledger.empty : Ledger kind [] [] [] := ⟨fun _ => rfl⟩

/-- Putting a message in keeps the balance. -/
theorem Ledger.push (ledger : Ledger kind put waiting taken) (message : μ) :
    Ledger kind (put ++ [message]) (waiting ++ [message]) taken := by
  refine ⟨fun wanted => ?_⟩
  unfold ofKind
  rw [List.filter_append, List.filter_append, ← List.append_assoc]
  exact congrArg (· ++ _) (ledger.balance wanted)

/-- Taking the oldest message of a kind keeps the balance. -/
theorem Ledger.take (ledger : Ledger kind put waiting taken) {wanted : κ} {message : μ}
    (found : oldest kind wanted waiting = some message) :
    Ledger kind put (without kind wanted waiting) (taken ++ [message]) := by
  have isWanted := kind_of_oldest kind found
  refine ⟨fun other => ?_⟩
  rw [← ledger.balance other]
  by_cases same : other = wanted
  · subst same
    rw [ofKind_taken kind found]
    unfold ofKind
    rw [List.filter_append, List.filter_cons_of_pos (by simpa using isWanted), List.filter_nil,
      List.append_assoc, List.singleton_append]
  · rw [ofKind_others kind same]
    unfold ofKind
    rw [List.filter_append, List.filter_cons_of_neg (by simpa [isWanted] using Ne.symm same),
      List.filter_nil, List.append_nil]

end Mailbox

import Mathlib.Algebra.Order.Ring.Nat
import Mathlib.Data.List.Basic

/-!
# JSON as text

The texts of JSON objects and arrays, as a writer puts them together, and the shape
that lets a reader walk over a part of one without looking into it: strings are
closed, braces and brackets are balanced outside of strings.
-/

set_option autoImplicit false

namespace JsonText

/-- A text, character by character. -/
abbrev Text := List Char

/-- A property of all characters is decided character by character. -/
instance (property : Char → Prop) [DecidablePred property] (text : Text) :
    Decidable (∀ character ∈ text, property character) := List.decidableBAll property text

/-! ## Writing -/

def quoted (raw : Text) : Text := '"' :: (raw ++ ['"'])

/-- The items with a comma before all but the first. -/
def separated : List Text → Text
  | [] => []
  | first :: rest => first ++ rest.flatMap fun item => ',' :: item

/-- A member of an object: its key and the text of its value. -/
abbrev Member := String × Text

def member (entry : Member) : Text := quoted entry.1.toList ++ ':' :: entry.2

def object (members : List Member) : Text := '{' :: (separated (members.map member) ++ ['}'])

def array (items : List Text) : Text := '[' :: (separated items ++ [']'])

/-- The length of an object with a member. -/
theorem length_object {members : List Member} (some : members ≠ []) :
    (object members).length =
      (members.map fun entry => entry.1.toList.length + entry.2.length + 4).sum + 1 := by
  have others : ∀ items : List Text,
      (items.flatMap fun item => ',' :: item).length =
        (items.map fun item => item.length + 1).sum := by
    intro items
    rw [List.length_flatMap]
    rfl
  have each : ∀ entry : Member,
      (member entry).length = entry.1.toList.length + entry.2.length + 3 := by
    intro entry
    simp only [member, quoted, List.length_append, List.length_cons, List.length_nil]
    omega
  cases members with
  | nil => exact absurd rfl some
  | cons entry members =>
      simp only [object, separated, List.map_cons, List.length_cons, List.length_append,
        List.length_nil, List.sum_cons, others, List.map_map, each]
      have same : (members.map ((fun item : Text => item.length + 1) ∘ member)).sum =
          (members.map fun entry => entry.1.toList.length + entry.2.length + 4).sum := by
        refine congrArg List.sum (List.map_congr_left fun entry _ => ?_)
        rw [Function.comp_apply, each]
      omega

/-! ## Closed strings -/

/-- The text between the quotes of a string: it has no quote and no trailing
backslash outside of an escape. -/
inductive Closed : Text → Prop
  | nil : Closed []
  | plain {character : Char} {raw : Text} (notQuote : character ≠ '"')
      (notEscape : character ≠ '\\') (rest : Closed raw) : Closed (character :: raw)
  | escape (character : Char) {raw : Text} (rest : Closed raw) : Closed ('\\' :: character :: raw)

theorem Closed.append {first second : Text} (left : Closed first) (right : Closed second) :
    Closed (first ++ second) := by
  induction left with
  | nil => exact right
  | plain notQuote notEscape _ ih => exact .plain notQuote notEscape ih
  | escape character _ ih => exact .escape character ih

/-- A text without quotes and backslashes is closed. -/
theorem Closed.of_plain {raw : Text}
    (plain : ∀ character ∈ raw, character ≠ '"' ∧ character ≠ '\\') :
    Closed raw := by
  induction raw with
  | nil => exact .nil
  | cons character raw ih =>
      obtain ⟨notQuote, notEscape⟩ := plain character (List.mem_cons_self ..)
      exact .plain notQuote notEscape (ih fun other member =>
        plain other (List.mem_cons_of_mem _ member))

/-! ## Balanced texts -/

/-- A character that opens and closes nothing. -/
def Plain (character : Char) : Prop :=
  character ≠ '"' ∧ character ≠ '{' ∧ character ≠ '}' ∧ character ≠ '[' ∧ character ≠ ']'

instance : DecidablePred Plain := fun _ => inferInstanceAs (Decidable (_ ∧ _))

inductive Balanced : Text → Prop
  | nil : Balanced []
  | plain {character : Char} {text : Text} (plain : Plain character) (rest : Balanced text) :
      Balanced (character :: text)
  | string {raw text : Text} (closed : Closed raw) (rest : Balanced text) :
      Balanced ('"' :: (raw ++ '"' :: text))
  | braces {inner text : Text} (inside : Balanced inner) (rest : Balanced text) :
      Balanced ('{' :: (inner ++ '}' :: text))
  | brackets {inner text : Text} (inside : Balanced inner) (rest : Balanced text) :
      Balanced ('[' :: (inner ++ ']' :: text))

namespace Balanced

theorem append {first second : Text} (left : Balanced first) (right : Balanced second) :
    Balanced (first ++ second) := by
  induction left with
  | nil => exact right
  | plain plain _ ih => exact .plain plain ih
  | string closed _ ih =>
      rw [List.cons_append, List.append_assoc, List.cons_append]
      exact .string closed ih
  | braces inside _ _ ih =>
      rw [List.cons_append, List.append_assoc, List.cons_append]
      exact .braces inside ih
  | brackets inside _ _ ih =>
      rw [List.cons_append, List.append_assoc, List.cons_append]
      exact .brackets inside ih

theorem of_plain {text : Text} (plain : ∀ character ∈ text, Plain character) : Balanced text := by
  induction text with
  | nil => exact .nil
  | cons character text ih =>
      exact .plain (plain character (List.mem_cons_self ..))
        (ih fun other member => plain other (List.mem_cons_of_mem _ member))

theorem comma {text : Text} (balanced : Balanced text) : Balanced (',' :: text) :=
  .plain (by decide) balanced

theorem separated {items : List Text} (balanced : ∀ item ∈ items, Balanced item) :
    Balanced (separated items) := by
  cases items with
  | nil => exact .nil
  | cons first rest =>
      refine (balanced first (List.mem_cons_self ..)).append ?_
      have others : ∀ item ∈ rest, Balanced item := fun item member =>
        balanced item (List.mem_cons_of_mem _ member)
      clear balanced
      induction rest with
      | nil => exact .nil
      | cons item rest ih =>
          rw [List.flatMap_cons]
          exact (others item (List.mem_cons_self ..)).comma.append
            (ih fun other member => others other (List.mem_cons_of_mem _ member))

end Balanced

/-! ## Values -/

/-- The text of a value. The characters of a scalar come after the space in the
alphabet. -/
inductive Value : Text → Prop
  | scalar {text : Text} (written : text ≠ [])
      (plain : ∀ character ∈ text, Plain character ∧ ' ' < character) : Value text
  | string {raw : Text} (closed : Closed raw) : Value (quoted raw)
  | object {inner : Text} (inside : Balanced inner) : Value ('{' :: (inner ++ ['}']))
  | array {inner : Text} (inside : Balanced inner) : Value ('[' :: (inner ++ [']']))

theorem Value.balanced {text : Text} (value : Value text) : Balanced text := by
  cases value with
  | scalar _ plain => exact .of_plain fun character member => (plain character member).1
  | string closed => exact .string closed .nil
  | object inside => exact .braces inside .nil
  | array inside => exact .brackets inside .nil

/-- A value starts with a character after the space. -/
theorem Value.start {text : Text} (value : Value text) :
    ∃ character rest, text = character :: rest ∧ ' ' < character := by
  cases value with
  | @scalar text written plain =>
      cases text with
      | nil => exact absurd rfl written
      | cons character rest => exact ⟨character, rest, rfl, (plain _ (List.mem_cons_self ..)).2⟩
  | string _ => exact ⟨_, _, rfl, by decide⟩
  | object _ => exact ⟨_, _, rfl, by decide⟩
  | array _ => exact ⟨_, _, rfl, by decide⟩

/-- Members that can be read back. -/
def Proper (members : List Member) : Prop :=
  ∀ entry ∈ members, Closed entry.1.toList ∧ Value entry.2

theorem Proper.head {entry : Member} {members : List Member} (proper : Proper (entry :: members)) :
    Closed entry.1.toList ∧ Value entry.2 := proper entry (List.mem_cons_self ..)

theorem Proper.tail {entry : Member} {members : List Member} (proper : Proper (entry :: members)) :
    Proper members := fun other member => proper other (List.mem_cons_of_mem _ member)

theorem member_balanced {entry : Member} (closed : Closed entry.1.toList) (value : Value entry.2) :
    Balanced (member entry) := by
  rw [member, quoted, List.cons_append, List.append_assoc]
  exact .string closed (.plain (by decide) value.balanced)

theorem members_balanced {members : List Member} (proper : Proper members) :
    Balanced (separated (members.map member)) := by
  refine .separated fun item isItem => ?_
  obtain ⟨entry, isEntry, rfl⟩ := List.mem_map.mp isItem
  exact member_balanced (proper entry isEntry).1 (proper entry isEntry).2

theorem value_object {members : List Member} (proper : Proper members) : Value (object members) :=
  .object (members_balanced proper)

theorem value_array {items : List Text} (values : ∀ item ∈ items, Value item) :
    Value (array items) :=
  .array (.separated fun item isItem => (values item isItem).balanced)

/-! ## Texts of one line -/

/-- A text without control characters. -/
def Visible (text : Text) : Prop := ∀ character ∈ text, 0x20 ≤ character.toNat

instance (text : Text) : Decidable (Visible text) :=
  inferInstanceAs (Decidable (∀ character ∈ text, 0x20 ≤ character.toNat))

namespace Visible

theorem nil : Visible [] := fun _ member => absurd member List.not_mem_nil

theorem cons {character : Char} {text : Text} (shown : 0x20 ≤ character.toNat)
    (visible : Visible text) : Visible (character :: text) :=
      List.forall_mem_cons.mpr ⟨shown, visible⟩

theorem append {first second : Text} (left : Visible first) (right : Visible second) :
    Visible (first ++ second) := List.forall_mem_append.mpr ⟨left, right⟩

theorem quoted {raw : Text} (visible : Visible raw) : Visible (quoted raw) :=
  .cons (by decide) (visible.append (.cons (by decide) .nil))

theorem separated {items : List Text} (visible : ∀ item ∈ items, Visible item) :
    Visible (separated items) := by
  cases items with
  | nil => exact .nil
  | cons first rest =>
      refine (visible first (List.mem_cons_self ..)).append fun character member => ?_
      obtain ⟨item, isItem, inItem⟩ := List.mem_flatMap.mp member
      exact Visible.cons (by decide) (visible item (List.mem_cons_of_mem _ isItem)) _ inItem

theorem not_newline {text : Text} (visible : Visible text) : '\n' ∉ text :=
  fun member => absurd (visible _ member) (by decide)

end Visible

/-- The text of a value that is one line. -/
structure Clean (value : Text) : Prop where
  isValue : Value value
  visible : Visible value

/-- Members with such values. -/
def CleanMembers (members : List Member) : Prop :=
  ∀ entry ∈ members, (Closed entry.1.toList ∧ Visible entry.1.toList) ∧ Clean entry.2

namespace CleanMembers

theorem nil : CleanMembers [] := fun _ member => absurd member List.not_mem_nil

/-- A key without quotes and backslashes. -/
theorem cons {key : String} {value : Text} {members : List Member}
    (plain : ∀ character ∈ key.toList,
      (character ≠ '"' ∧ character ≠ '\\') ∧ 0x20 ≤ character.toNat)
    (clean : Clean value) (rest : CleanMembers members) : CleanMembers ((key, value) :: members) :=
  List.forall_mem_cons.mpr ⟨⟨⟨.of_plain fun character member => (plain character member).1,
    fun character member => (plain character member).2⟩, clean⟩, rest⟩

theorem proper {members : List Member} (clean : CleanMembers members) : Proper members :=
  fun entry member => ⟨(clean entry member).1.1, (clean entry member).2.isValue⟩

theorem object {members : List Member} (clean : CleanMembers members) : Clean (object members) := by
  refine ⟨value_object clean.proper,
    .cons (by decide) ((Visible.separated fun item isItem => ?_).append
    (.cons (by decide) .nil))⟩
  obtain ⟨entry, isEntry, rfl⟩ := List.mem_map.mp isItem
  exact (clean entry isEntry).1.2.quoted.append (.cons (by decide) (clean entry isEntry).2.visible)

theorem append {first second : List Member} (left : CleanMembers first)
    (right : CleanMembers second) : CleanMembers (first ++ second) :=
  List.forall_mem_append.mpr ⟨left, right⟩

end CleanMembers

theorem Clean.array {items : List Text} (clean : ∀ item ∈ items, Clean item) :
    Clean (array items) :=
  ⟨value_array fun item member => (clean item member).isValue,
    .cons (by decide) ((Visible.separated fun item member => (clean item member).visible).append
      (.cons (by decide) .nil))⟩

end JsonText

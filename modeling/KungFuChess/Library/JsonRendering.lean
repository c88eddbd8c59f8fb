import KungFuChess.Library.JsonText
import Mathlib.Data.List.Forall2

/-!
# Other renderings of a JSON text

A JSON value that is written without blanks can be rendered in other ways: with blanks
around the tokens, with the members of its objects in another order, and with further
members in its objects. `Respells` relates a text to its renderings. In all of them
strings are closed and delimiters are balanced.
-/

set_option autoImplicit false

namespace JsonText

/-! ## Blanks -/

/-- JSON white space. -/
def Blank (text : Text) : Prop :=
  ∀ character ∈ text, character = ' ' ∨ character = '\t' ∨ character = '\n' ∨ character = '\r'

instance (text : Text) : Decidable (Blank text) :=
  inferInstanceAs (Decidable (∀ character ∈ text, character = ' ' ∨ _))

/-- An item with blanks around it. -/
def Padded (item text : Text) : Prop :=
  ∃ before behind, Blank before ∧ Blank behind ∧ text = before ++ (item ++ behind)

/-- A member with blanks around its key and its value. -/
def PaddedMember (entry : Member) (text : Text) : Prop :=
  ∃ key value, Padded (quoted entry.1.toList) key ∧ Padded entry.2 value ∧
    text = key ++ ':' :: value

/-- What stands between two delimiters: the items, or blanks when there are none. -/
def Body (items : List Text) (body : Text) : Prop :=
  body = separated items ∨ items = [] ∧ Blank body

def SpacedArray (items : List Text) (text : Text) : Prop :=
  ∃ padded body, List.Forall₂ Padded items padded ∧ Body padded body ∧
    text = '[' :: (body ++ [']'])

def SpacedObject (members : List Member) (text : Text) : Prop :=
  ∃ padded body, List.Forall₂ PaddedMember members padded ∧ Body padded body ∧
    text = '{' :: (body ++ ['}'])

theorem Blank.nil : Blank [] := fun _ member => absurd member List.not_mem_nil

theorem Blank.balanced {text : Text} (blank : Blank text) : Balanced text := by
  refine .of_plain fun character member => ?_
  obtain rfl | rfl | rfl | rfl := blank character member <;> decide

theorem Padded.self (item : Text) : Padded item item :=
  ⟨[], [], .nil, .nil, (List.append_nil item).symm⟩

theorem Padded.balanced {item text : Text} (padded : Padded item text)
    (balanced : Balanced item) : Balanced text := by
  obtain ⟨before, behind, left, right, rfl⟩ := padded
  exact left.balanced.append (balanced.append right.balanced)

theorem PaddedMember.self (entry : Member) : PaddedMember entry (member entry) :=
  ⟨_, _, .self _, .self _, rfl⟩

theorem PaddedMember.balanced {entry : Member} {text : Text} (padded : PaddedMember entry text)
    (closed : Closed entry.1.toList) (value : Value entry.2) : Balanced text := by
  obtain ⟨key, padded, left, right, rfl⟩ := padded
  have string : Balanced (quoted entry.1.toList) := .string closed .nil
  exact (left.balanced string).append (.plain (by decide) (right.balanced value.balanced))

theorem Body.balanced {items : List Text} {body : Text} (isBody : Body items body)
    (balanced : ∀ item ∈ items, Balanced item) : Balanced body := by
  obtain rfl | ⟨-, blank⟩ := isBody
  · exact .separated balanced
  · exact blank.balanced

theorem SpacedArray.self (items : List Text) : SpacedArray items (array items) :=
  ⟨items, _, List.forall₂_same.mpr fun item _ => .self item, .inl rfl, rfl⟩

theorem SpacedObject.self (members : List Member) : SpacedObject members (object members) :=
  ⟨members.map member, _, List.forall₂_map_right_iff.mpr
    (List.forall₂_same.mpr fun entry _ => .self entry), .inl rfl, rfl⟩

/-- The texts of a list that are related to the items have what the relation gives them. -/
theorem forall_of_forall₂ {Item : Type} {related : Item → Text → Prop} {property : Text → Prop}
    {items : List Item} {texts : List Text} (pairs : List.Forall₂ related items texts)
    (each : ∀ item ∈ items, ∀ text, related item text → property text) :
    ∀ text ∈ texts, property text := by
  induction pairs with
  | nil => exact fun _ member => absurd member List.not_mem_nil
  | cons first _ ih =>
      exact List.forall_mem_cons.mpr ⟨each _ (List.mem_cons_self ..) _ first,
        ih fun item member => each item (List.mem_cons_of_mem _ member)⟩

theorem value_spacedArray {items : List Text} {text : Text} (spaced : SpacedArray items text)
    (values : ∀ item ∈ items, Value item) : Value text := by
  obtain ⟨padded, body, pairs, isBody, rfl⟩ := spaced
  exact .array (isBody.balanced (forall_of_forall₂ pairs fun item member _ padded =>
    padded.balanced (values item member).balanced))

theorem value_spacedObject {members : List Member} {text : Text}
    (spaced : SpacedObject members text) (proper : Proper members) : Value text := by
  obtain ⟨padded, body, pairs, isBody, rfl⟩ := spaced
  exact .object (isBody.balanced (forall_of_forall₂ pairs fun entry member _ padded =>
    padded.balanced (proper entry member).1 (proper entry member).2))

/-! ## JSON values -/

/-- A character that is no blank, no quote and no structural token. -/
def Bare (character : Char) : Prop :=
  ' ' < character ∧ character ∉ ['"', ',', ':', '{', '}', '[', ']']

instance : DecidablePred Bare := fun _ => inferInstanceAs (Decidable (_ ∧ _))

theorem Bare.plain {character : Char} (bare : Bare character) : Plain character := by
  refine ⟨?_, ?_, ?_, ?_, ?_⟩ <;> rintro rfl <;> exact absurd bare (by decide)

theorem value_bare {text : Text} (written : text ≠ [])
    (bare : ∀ character ∈ text, Bare character) : Value text :=
  .scalar written fun character member => ⟨(bare character member).plain, (bare character member).1⟩

/-- **The texts of JSON values.** A scalar is any word of bare characters: the numbers and the
literals are among them. -/
inductive Json : Text → Prop
  | scalar {text : Text} (written : text ≠ []) (bare : ∀ character ∈ text, Bare character) :
      Json text
  | string {raw : Text} (closed : Closed raw) : Json (quoted raw)
  | array {items : List Text} {text : Text} (values : ∀ item ∈ items, Json item)
      (spaced : SpacedArray items text) : Json text
  | object {members : List Member} {text : Text}
      (keys : ∀ entry ∈ members, Closed entry.1.toList) (values : ∀ entry ∈ members, Json entry.2)
      (spaced : SpacedObject members text) : Json text

theorem Json.value {text : Text} (json : Json text) : Value text := by
  induction json with
  | scalar written bare => exact value_bare written bare
  | string closed => exact .string closed
  | array _ spaced ih => exact value_spacedArray spaced ih
  | object keys _ spaced ih =>
      exact value_spacedObject spaced fun entry member => ⟨keys entry member, ih entry member⟩

/-! ## Renderings -/

/-- A member with the text of its value and another rendering of it. -/
structure Rewritten where
  key : String
  was : Text
  now : Text

namespace Rewritten

def before (entry : Rewritten) : Member := (entry.key, entry.was)

def after (entry : Rewritten) : Member := (entry.key, entry.now)

/-- A member that stays as it is. -/
def same (entry : Member) : Rewritten := ⟨entry.1, entry.2, entry.2⟩

theorem map_before_same (members : List Member) : (members.map same).map before = members := by
  rw [List.map_map]
  exact List.map_id' members

theorem map_after_same (members : List Member) : (members.map same).map after = members := by
  rw [List.map_map]
  exact List.map_id' members

end Rewritten

/-- **The renderings of a text.** Scalars and strings stay as they are. The members of an object
can be permuted, and there can be others whose names are new. -/
inductive Respells : Text → Text → Prop
  | scalar {text : Text} (written : text ≠ []) (bare : ∀ character ∈ text, Bare character) :
      Respells text text
  | string {raw : Text} (closed : Closed raw) : Respells (quoted raw) (quoted raw)
  | array {rows : List (Text × Text)} {text : Text} (each : ∀ row ∈ rows, Respells row.1 row.2)
      (spaced : SpacedArray (rows.map Prod.snd) text) : Respells (array (rows.map Prod.fst)) text
  | object {entries : List Rewritten} {extras members : List Member} {text : Text}
      (keys : ∀ entry ∈ entries, Closed entry.key.toList)
      (each : ∀ entry ∈ entries, Respells entry.was entry.now)
      (names : ∀ extra ∈ extras, Closed extra.1.toList ∧
        ∀ entry ∈ entries, extra.1 ≠ entry.key)
      (values : ∀ extra ∈ extras, Json extra.2)
      (order : members.Perm (entries.map Rewritten.after ++ extras))
      (spaced : SpacedObject members text) :
      Respells (object (entries.map Rewritten.before)) text

/-- The members of a rendering can be read back. -/
theorem proper_rendering {entries : List Rewritten} {extras members : List Member}
    (keys : ∀ entry ∈ entries, Closed entry.key.toList)
    (each : ∀ entry ∈ entries, Value entry.now)
    (names : ∀ extra ∈ extras, Closed extra.1.toList ∧ ∀ entry ∈ entries, extra.1 ≠ entry.key)
    (values : ∀ extra ∈ extras, Json extra.2)
    (order : members.Perm (entries.map Rewritten.after ++ extras)) : Proper members := by
  intro entry member
  rcases List.mem_append.mp (order.mem_iff.mp member) with known | extra
  · obtain ⟨entry, isEntry, rfl⟩ := List.mem_map.mp known
    exact ⟨keys entry isEntry, each entry isEntry⟩
  · exact ⟨(names entry extra).1, (values entry extra).value⟩

/-- A rendering is the text of a value. -/
theorem Respells.value {text other : Text} (respells : Respells text other) : Value other := by
  induction respells with
  | scalar written bare => exact value_bare written bare
  | string closed => exact .string closed
  | array _ spaced ih => exact value_spacedArray spaced (List.forall_mem_map.mpr ih)
  | object keys _ names values order spaced ih =>
      exact value_spacedObject spaced (proper_rendering keys ih names values order)

/-- A bare text has one rendering. -/
theorem Respells.eq_of_bare {text other : Text} (bare : ∀ character ∈ text, Bare character)
    (respells : Respells text other) : other = text := by
  cases respells with
  | scalar | string => rfl
  | array | object => exact absurd (bare _ (List.mem_cons_self ..)) (by decide)

theorem Respells.eq_of_quoted {raw other : Text} (respells : Respells (quoted raw) other) :
    other = quoted raw := by
  generalize same : quoted raw = text at respells
  cases respells with
  | scalar | string => rfl
  | array | object => exact absurd (List.cons.inj same).1 (by decide)

/-! ## Texts without blanks -/

/-- A text as a writer puts it together: it is a rendering of itself. -/
def Compact (text : Text) : Prop := Respells text text

theorem Compact.value {text : Text} (compact : Compact text) : Value text := Respells.value compact

theorem Compact.array {items : List Text} (compact : ∀ item ∈ items, Compact item) :
    Compact (array items) := by
  have each : ∀ row ∈ items.map fun item => (item, item), Respells row.1 row.2 :=
    List.forall_mem_map.mpr fun item member => compact item member
  have was : (items.map fun item => (item, item)).map Prod.fst = items := by
    rw [List.map_map]
    exact List.map_id' items
  have now : (items.map fun item => (item, item)).map Prod.snd = items := by
    rw [List.map_map]
    exact List.map_id' items
  have respells := Respells.array each (.self _)
  rw [was, now] at respells
  exact respells

/-- Members that a writer has put together. -/
def CompactMembers (members : List Member) : Prop :=
  ∀ entry ∈ members, Closed entry.1.toList ∧ Compact entry.2

namespace CompactMembers

theorem nil : CompactMembers [] := fun _ member => absurd member List.not_mem_nil

/-- A key without quotes and backslashes. -/
theorem cons {key : String} {value : Text} {members : List Member}
    (plain : ∀ character ∈ key.toList, character ≠ '"' ∧ character ≠ '\\')
    (compact : Compact value) (rest : CompactMembers members) :
    CompactMembers ((key, value) :: members) :=
  List.forall_mem_cons.mpr ⟨⟨.of_plain plain, compact⟩, rest⟩

theorem append {first second : List Member} (left : CompactMembers first)
    (right : CompactMembers second) : CompactMembers (first ++ second) :=
  List.forall_mem_append.mpr ⟨left, right⟩

theorem proper {members : List Member} (compact : CompactMembers members) : Proper members :=
  fun entry member => ⟨(compact entry member).1, (compact entry member).2.value⟩

theorem object {members : List Member} (compact : CompactMembers members) :
    Compact (object members) := by
  have each : ∀ entry ∈ members.map Rewritten.same,
      Closed entry.key.toList ∧ Respells entry.was entry.now :=
    List.forall_mem_map.mpr fun entry member => compact entry member
  have order : members.Perm ((members.map Rewritten.same).map Rewritten.after ++ []) := by
    rw [Rewritten.map_after_same, List.append_nil]
  have respells := Respells.object (fun entry member => (each entry member).1)
    (fun entry member => (each entry member).2) (fun _ member => absurd member List.not_mem_nil)
    (fun _ member => absurd member List.not_mem_nil) order (.self members)
  rw [Rewritten.map_before_same] at respells
  exact respells

end CompactMembers

/-- Whatever has a rendering is such a text. -/
theorem Respells.compact {text other : Text} (respells : Respells text other) : Compact text := by
  induction respells with
  | scalar written bare => exact .scalar written bare
  | string closed => exact .string closed
  | array _ _ ih => exact .array (List.forall_mem_map.mpr ih)
  | object keys _ _ _ _ _ ih =>
      refine CompactMembers.object (List.forall_mem_map.mpr fun entry member => ?_)
      exact ⟨keys entry member, ih entry member⟩

end JsonText

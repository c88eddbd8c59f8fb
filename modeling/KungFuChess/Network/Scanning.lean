import KungFuChess.Library.JsonRendering
import KungFuChess.Network.Protocol

/-!
# Scanning what was written

On a text that was put together as an object, with blanks or without, the scans of the
codec find what was put in: the end of a string, the value of a member, the end of an
object, the items of an array. A value is walked over in one step, because its strings
are closed and its delimiters are balanced.
-/

set_option autoImplicit false

namespace KungFuChess

namespace Protocol

open JsonText

/-! ## Strings -/

@[simp] theorem findStringEnd_closed {raw : Text} (closed : Closed raw) (rest : Text) :
    findStringEnd false (raw ++ '"' :: rest) = .ok (raw, rest) := by
  induction closed with
  | nil => rfl
  | plain notQuote notEscape _ ih =>
      rw [List.cons_append, findStringEnd, if_neg Bool.false_ne_true, if_neg notEscape,
        if_neg notQuote, ih]
      rfl
  | escape character _ ih =>
      rw [List.cons_append, List.cons_append, findStringEnd, if_neg Bool.false_ne_true, if_pos rfl,
        findStringEnd, if_pos rfl, ih]
      rfl

/-! ## Members -/

section FindValue

variable {key : String} {objectDepth arrayDepth : Int} {rest : Text}

theorem findValueFrom_plain {character : Char} (plain : Plain character) (more : rest ≠ []) :
    findValueFrom key objectDepth arrayDepth (character :: rest) =
      findValueFrom key objectDepth arrayDepth rest := by
  obtain ⟨notQuote, notOpen, notClose, notOpenArray, notCloseArray⟩ := plain
  rw [findValueFrom.eq_3 _ _ _ _ _ more, if_neg notQuote, if_neg notOpen, if_neg notClose,
    if_neg notOpenArray, if_neg notCloseArray]

/-- At a string: the scan stops when it is the key, or goes on behind it. -/
theorem findValueFrom_quote {raw : Text} (closed : Closed raw) :
    findValueFrom key objectDepth arrayDepth ('"' :: (raw ++ '"' :: rest)) =
      match skipWhitespace rest with
      | ':' :: value =>
          if objectDepth = 1 ∧ arrayDepth = 0 ∧ raw = key.toList then .ok (skipWhitespace value)
          else findValueFrom key objectDepth arrayDepth rest
      | _ => findValueFrom key objectDepth arrayDepth rest := by
  rw [findValueFrom.eq_3 _ _ _ _ _ (by simp), if_pos rfl]
  split
  · next ended =>
      rw [findStringEnd_closed closed] at ended
      cases ended
  · next ended =>
      rw [findStringEnd_closed closed] at ended
      cases ended
      rfl

/-- A string is passed over when it is not a key of the object itself. -/
theorem findValueFrom_string {raw : Text} (closed : Closed raw)
    (noKey : objectDepth = 1 → arrayDepth = 0 → (skipWhitespace rest).head? ≠ some ':') :
    findValueFrom key objectDepth arrayDepth ('"' :: (raw ++ '"' :: rest)) =
      findValueFrom key objectDepth arrayDepth rest := by
  rw [findValueFrom_quote closed]
  split
  · next colon =>
      rw [if_neg]
      rintro ⟨inObject, inArray, -⟩
      exact noKey inObject inArray (colon ▸ rfl)
  · rfl

/-- The scan is inside an object or an array that is itself a member. -/
def Nested (objectDepth arrayDepth : Int) : Prop :=
  1 < objectDepth ∧ 0 ≤ arrayDepth ∨ 1 ≤ objectDepth ∧ 0 < arrayDepth

theorem findValueFrom_balanced {text : Text} (balanced : Balanced text)
    (nested : Nested objectDepth arrayDepth) (more : rest ≠ []) :
    findValueFrom key objectDepth arrayDepth (text ++ rest) =
      findValueFrom key objectDepth arrayDepth rest := by
  induction balanced generalizing objectDepth arrayDepth rest with
  | nil => rfl
  | plain plain _ ih =>
      rw [List.cons_append, findValueFrom_plain plain (List.append_ne_nil_of_right_ne_nil _ more),
        ih nested more]
  | string closed _ ih =>
      rw [List.cons_append, List.append_assoc, List.cons_append,
        findValueFrom_string closed fun inObject inArray => ?_, ih nested more]
      rw [Nested] at nested
      omega
  | @braces inner text _ _ insideIh ih =>
      have deeper : Nested (objectDepth + 1) arrayDepth := by
        rw [Nested] at nested ⊢
        omega
      rw [List.cons_append, List.append_assoc, List.cons_append,
        findValueFrom.eq_3 _ _ _ _ _ (by simp), if_neg (by decide), if_pos rfl,
        insideIh deeper (by simp),
        findValueFrom.eq_3 _ _ _ _ _ (List.append_ne_nil_of_right_ne_nil _ more),
        if_neg (by decide), if_neg (by decide), if_pos rfl, Int.add_sub_cancel, ih nested more]
  | @brackets inner text _ _ insideIh ih =>
      have deeper : Nested objectDepth (arrayDepth + 1) := by
        rw [Nested] at nested ⊢
        omega
      rw [List.cons_append, List.append_assoc, List.cons_append,
        findValueFrom.eq_3 _ _ _ _ _ (by simp), if_neg (by decide), if_neg (by decide),
        if_neg (by decide), if_pos rfl, insideIh deeper (by simp),
        findValueFrom.eq_3 _ _ _ _ _ (List.append_ne_nil_of_right_ne_nil _ more),
        if_neg (by decide), if_neg (by decide), if_neg (by decide), if_neg (by decide), if_pos rfl,
        Int.add_sub_cancel, ih nested more]

/-- What stands behind the value of a member: a comma or the end of the object. -/
def EndsValue (tail : Text) : Prop := tail.head? = some ',' ∨ tail.head? = some '}'

theorem EndsValue.skip {tail : Text} (ends : EndsValue tail) : skipWhitespace tail = tail := by
  cases tail with
  | nil => rfl
  | cons character tail =>
      refine List.dropWhile_cons_of_neg ?_
      rcases ends with comma | brace
      · cases comma
        decide
      · cases brace
        decide

theorem EndsValue.more {tail : Text} (ends : EndsValue tail) : tail ≠ [] := by
  rintro rfl
  rcases ends with none | none <;> cases none

theorem not_space {character : Char} (visible : ' ' < character) :
    ¬ Username.isSpace character = true := by
  have code : 32 < character.toNat := visible
  rw [Username.isSpace, Bool.or_eq_true, Bool.and_eq_true, decide_eq_true_eq, decide_eq_true_eq,
    decide_eq_true_eq]
  rintro (rfl | ⟨-, low⟩)
  · exact absurd code (by decide)
  · omega

theorem skipWhitespace_value {value : Text} (isValue : Value value) (tail : Text) :
    skipWhitespace (value ++ tail) = value ++ tail := by
  obtain ⟨character, others, rfl, visible⟩ := isValue.start
  exact List.dropWhile_cons_of_neg (not_space visible)

theorem skipWhitespace_blank {gap : Text} (blank : Blank gap) (tail : Text) :
    skipWhitespace (gap ++ tail) = skipWhitespace tail := by
  refine List.dropWhile_append_of_pos fun character member => ?_
  obtain rfl | rfl | rfl | rfl := blank character member <;> decide

/-- What stands behind a value, past blanks. -/
def Behind (tail : Text) : Prop := EndsValue (skipWhitespace tail)

theorem EndsValue.behind {tail : Text} (ends : EndsValue tail) : Behind tail := by
  rw [Behind, ends.skip]
  exact ends

namespace Behind

variable {tail : Text} (behind : Behind tail)

include behind

theorem more : tail ≠ [] := by
  rintro rfl
  exact EndsValue.more behind rfl

theorem blank {gap : Text} (blank : Blank gap) : Behind (gap ++ tail) := by
  rw [Behind, skipWhitespace_blank blank]
  exact behind

/-- It is no colon. -/
theorem noKey : (skipWhitespace tail).head? ≠ some ':' := by
  rcases behind with comma | brace
  · rw [comma]
    decide
  · rw [brace]
    decide

end Behind

theorem findValueFrom_plains {text : Text} (plain : ∀ character ∈ text, Plain character)
    (more : rest ≠ []) :
    findValueFrom key objectDepth arrayDepth (text ++ rest) =
      findValueFrom key objectDepth arrayDepth rest := by
  induction text with
  | nil => rfl
  | cons character text ih =>
      rw [List.cons_append, findValueFrom_plain (plain _ (List.mem_cons_self ..))
        (List.append_ne_nil_of_right_ne_nil _ more)]
      exact ih fun other member => plain other (List.mem_cons_of_mem _ member)

theorem findValueFrom_blank {gap : Text} (blank : Blank gap) (more : rest ≠ []) :
    findValueFrom key objectDepth arrayDepth (gap ++ rest) =
      findValueFrom key objectDepth arrayDepth rest := by
  refine findValueFrom_plains (fun character member => ?_) more
  obtain rfl | rfl | rfl | rfl := blank character member <;> decide

/-- A whole value of the object is passed over. -/
theorem findValueFrom_value {value tail : Text} (isValue : Value value) (behind : Behind tail) :
    findValueFrom key 1 0 (value ++ tail) = findValueFrom key 1 0 tail := by
  cases isValue with
  | scalar _ plain =>
      exact findValueFrom_plains (fun character member => (plain character member).1) behind.more
  | string closed =>
      rw [quoted, List.cons_append, List.append_assoc, List.cons_append, List.nil_append,
        findValueFrom_string closed fun _ _ => behind.noKey]
  | object inside =>
      rw [List.cons_append, List.append_assoc, List.cons_append, List.nil_append,
        findValueFrom.eq_3 _ _ _ _ _ (by simp), if_neg (by decide), if_pos rfl,
        findValueFrom_balanced inside (.inl (by decide)) (by simp),
        findValueFrom.eq_3 _ _ _ _ _ behind.more, if_neg (by decide), if_neg (by decide),
        if_pos rfl]
      rfl
  | array inside =>
      rw [List.cons_append, List.append_assoc, List.cons_append, List.nil_append,
        findValueFrom.eq_3 _ _ _ _ _ (by simp), if_neg (by decide), if_neg (by decide),
        if_neg (by decide), if_pos rfl, findValueFrom_balanced inside (.inr (by decide)) (by simp),
        findValueFrom.eq_3 _ _ _ _ _ behind.more, if_neg (by decide), if_neg (by decide),
        if_neg (by decide), if_neg (by decide), if_pos rfl]
      rfl

/-- At a member of the object the scan stops with its value or passes it over. -/
theorem findValueFrom_member {entry : Member} {text tail : Text} (padded : PaddedMember entry text)
    (closed : Closed entry.1.toList) (isValue : Value entry.2) (behind : Behind tail) :
    ∃ gap, Blank gap ∧ findValueFrom key 1 0 (text ++ tail) =
      if entry.1 = key then .ok (entry.2 ++ (gap ++ tail)) else findValueFrom key 1 0 tail := by
  obtain ⟨_, _, ⟨before, between, left, beforeColon, rfl⟩, ⟨afterColon, gap, start, blank, rfl⟩,
    rfl⟩ := padded
  have ends := behind.blank blank
  refine ⟨gap, blank, ?_⟩
  have colon : ∀ value : Text, skipWhitespace (between ++ ':' :: value) = ':' :: value := by
    intro value
    rw [skipWhitespace_blank beforeColon]
    exact List.dropWhile_cons_of_neg (not_space (by decide))
  have valueStarts : skipWhitespace (afterColon ++ (entry.2 ++ (gap ++ tail))) =
      entry.2 ++ (gap ++ tail) := by
    rw [skipWhitespace_blank start, skipWhitespace_value isValue]
  rw [quoted]
  simp only [List.append_assoc, List.cons_append, List.nil_append]
  rw [findValueFrom_blank left (List.cons_ne_nil _ _), findValueFrom_quote closed, colon]
  by_cases same : entry.1 = key
  · rw [if_pos same]
    exact (if_pos ⟨rfl, rfl, congrArg String.toList same⟩).trans (congrArg Except.ok valueStarts)
  · rw [if_neg same]
    refine (if_neg fun found => same (String.toList_inj.mp found.2.2)).trans ?_
    have more := List.append_ne_nil_of_right_ne_nil entry.2 ends.more
    rw [findValueFrom_blank beforeColon (List.cons_ne_nil _ _),
      findValueFrom_plain (by decide) (List.append_ne_nil_of_right_ne_nil _ more),
      findValueFrom_blank start more, findValueFrom_value isValue ends,
      findValueFrom_blank blank behind.more]

/-- The scan over the members behind the first one. -/
theorem findValueFrom_others {members : List Member} {padded : List Text} (proper : Proper members)
    (pairs : List.Forall₂ PaddedMember members padded) {value : Text}
    (found : members.lookup key = some value) :
    ∃ tail, Behind tail ∧
      findValueFrom key 1 0 (padded.flatMap (',' :: ·) ++ ['}']) = .ok (value ++ tail) := by
  induction pairs with
  | nil => cases found
  | @cons entry text members padded first _ ih =>
      have ends : Behind (padded.flatMap (',' :: ·) ++ ['}']) := by
        cases padded with
        | nil => exact EndsValue.behind (.inr rfl)
        | cons other padded => exact EndsValue.behind (.inl rfl)
      obtain ⟨gap, blank, scan⟩ := findValueFrom_member first proper.head.1 proper.head.2 ends
      rw [List.flatMap_cons, List.cons_append, List.cons_append, List.append_assoc,
        findValueFrom_plain (by decide) (List.append_ne_nil_of_right_ne_nil _ ends.more), scan]
      rw [List.lookup_cons] at found
      split at found
      · next same =>
          cases found
          exact ⟨_, ends.blank blank, if_pos (beq_iff_eq.mp same).symm⟩
      · next other =>
          obtain ⟨tail, tailEnds, reached⟩ := ih proper.tail found
          refine ⟨tail, tailEnds, (if_neg fun same => ?_).trans reached⟩
          rw [same, beq_self_eq_true] at other
          cases other

/-- A text between the delimiters of an object. -/
theorem delimited (body : Text) :
    ('{' :: (body ++ ['}'])).head? = some '{' ∧ ('{' :: (body ++ ['}'])).getLast? = some '}' := by
  rw [← List.cons_append, List.getLast?_concat]
  exact ⟨rfl, rfl⟩

theorem object_delimited (members : List Member) :
    (object members).head? = some '{' ∧ (object members).getLast? = some '}' :=
  delimited _

/-- The scan for a key ends at this value. -/
def Reads (json : Text) (key : String) (value : Text) : Prop :=
  ∃ tail, Behind tail ∧ findValue json key = .ok (value ++ tail)

/-- **A member of an object is found**, whatever blanks there are. -/
theorem reads_spaced {members : List Member} {text : Text} (proper : Proper members)
    (spaced : SpacedObject members text) {value : Text}
    (found : members.lookup key = some value) : Reads text key value := by
  obtain ⟨padded, body, pairs, isBody, rfl⟩ := spaced
  obtain ⟨tail, behind, reached⟩ := findValueFrom_others proper pairs found
  refine ⟨tail, behind, ?_⟩
  rw [findValue, if_neg, List.tail_cons, ← reached]
  · cases pairs with
    | nil => cases found
    | @cons entry first members padded _ _ =>
        obtain rfl | ⟨none, -⟩ := isBody
        · rw [List.flatMap_cons, separated, List.cons_append, List.cons_append,
            findValueFrom_plain (by decide) (by simp)]
        · cases none
  · rw [(delimited body).1, (delimited body).2]
    simp

theorem reads_object {members : List Member} (proper : Proper members) {value : Text}
    (found : members.lookup key = some value) : Reads (object members) key value :=
  reads_spaced proper (.self members) found

end FindValue

/-! ## Delimiters -/

/-- The delimiters are those of objects or those of arrays. -/
def Delimiters (opening closing : Char) : Prop :=
  opening = '{' ∧ closing = '}' ∨ opening = '[' ∧ closing = ']'

/-- A search inside the delimiters passes over the text. -/
def Passes (opening closing : Char) (text : Text) : Prop :=
  ∀ (depth : Int) (rest consumed after : Text), 1 ≤ depth →
    findMatchingDelimiterFrom opening closing depth rest = .ok (consumed, after) →
      findMatchingDelimiterFrom opening closing depth (text ++ rest) = .ok (text ++ consumed, after)

namespace Passes

variable {opening closing : Char}

theorem append {first second : Text} (left : Passes opening closing first)
    (right : Passes opening closing second) : Passes opening closing (first ++ second) := by
  intro depth rest consumed after inside found
  rw [List.append_assoc, List.append_assoc]
  exact left _ _ _ _ inside (right _ _ _ _ inside found)

theorem other {character : Char} (notQuote : character ≠ '"') (notOpening : character ≠ opening)
    (notClosing : character ≠ closing) : Passes opening closing [character] := by
  intro depth rest consumed after _ found
  rw [List.singleton_append, findMatchingDelimiterFrom, if_neg notQuote, if_neg notOpening,
    if_neg notClosing, found]
  rfl

theorem quoted {raw : Text} (closed : Closed raw) : Passes opening closing (quoted raw) := by
  intro depth rest consumed after _ found
  rw [JsonText.quoted, List.cons_append, List.append_assoc, List.singleton_append,
    findMatchingDelimiterFrom, if_pos rfl]
  split
  · next ended =>
      rw [findStringEnd_closed closed] at ended
      cases ended
  · next ended =>
      rw [findStringEnd_closed closed] at ended
      cases ended
      rw [found]
      rfl

/-- A text between matching delimiters. -/
theorem nested (delimiters : Delimiters opening closing) {inner : Text}
    (inside : Passes opening closing inner) :
    Passes opening closing (opening :: (inner ++ [closing])) := by
  intro depth rest consumed after deep found
  have notQuote : opening ≠ '"' ∧ closing ≠ '"' ∧ closing ≠ opening := by
    obtain ⟨rfl, rfl⟩ | ⟨rfl, rfl⟩ := delimiters <;> decide
  have closed : findMatchingDelimiterFrom opening closing (depth + 1) (closing :: rest) =
      .ok (closing :: consumed, after) := by
    rw [findMatchingDelimiterFrom, if_neg notQuote.2.1, if_neg notQuote.2.2, if_pos rfl,
      Int.add_sub_cancel, if_neg (by omega), found]
    rfl
  rw [List.cons_append, List.append_assoc, List.singleton_append, findMatchingDelimiterFrom,
    if_neg notQuote.1, if_pos rfl, inside _ _ _ _ (by omega) closed, List.cons_append,
      List.append_assoc]
  rfl

/-- Every balanced text is passed over. -/
theorem of_balanced (delimiters : Delimiters opening closing) {text : Text}
    (balanced : Balanced text) : Passes opening closing text := by
  induction balanced with
  | nil => exact fun _ _ _ _ _ found => found
  | plain plain _ ih =>
      obtain ⟨notQuote, notOpen, notClose, notOpenArray, notCloseArray⟩ := plain
      obtain ⟨rfl, rfl⟩ | ⟨rfl, rfl⟩ := delimiters
      · exact (other notQuote notOpen notClose).append ih
      · exact (other notQuote notOpenArray notCloseArray).append ih
  | @string raw text closed _ ih =>
      have split : '"' :: (raw ++ '"' :: text) = JsonText.quoted raw ++ text := by
        simp [JsonText.quoted]
      exact split ▸ (quoted closed).append ih
  | @braces inner text _ _ insideIh ih =>
      obtain ⟨rfl, rfl⟩ | ⟨rfl, rfl⟩ := delimiters
      · have split : '{' :: (inner ++ '}' :: text) = ('{' :: (inner ++ ['}'])) ++ text := by simp
        exact split ▸ (nested (.inl ⟨rfl, rfl⟩) insideIh).append ih
      · have left : Passes '[' ']' ['{'] := other (by decide) (by decide) (by decide)
        have right : Passes '[' ']' ['}'] := other (by decide) (by decide) (by decide)
        exact left.append (insideIh.append (right.append ih))
  | @brackets inner text _ _ insideIh ih =>
      obtain ⟨rfl, rfl⟩ | ⟨rfl, rfl⟩ := delimiters
      · have left : Passes '{' '}' ['['] := other (by decide) (by decide) (by decide)
        have right : Passes '{' '}' [']'] := other (by decide) (by decide) (by decide)
        exact left.append (insideIh.append (right.append ih))
      · have split : '[' :: (inner ++ ']' :: text) = ('[' :: (inner ++ [']'])) ++ text := by simp
        exact split ▸ (nested (.inr ⟨rfl, rfl⟩) insideIh).append ih

end Passes

/-- **The end of an object or an array is found.** -/
theorem findMatchingDelimiter_delimited {opening closing : Char}
    (delimiters : Delimiters opening closing) {inner : Text} (inside : Balanced inner)
    (rest : Text) :
    findMatchingDelimiter opening closing (opening :: (inner ++ [closing]) ++ rest) =
      .ok (opening :: (inner ++ [closing]), rest) := by
  have notQuote : opening ≠ '"' ∧ closing ≠ '"' ∧ closing ≠ opening := by
    obtain ⟨rfl, rfl⟩ | ⟨rfl, rfl⟩ := delimiters <;> decide
  have closed : findMatchingDelimiterFrom opening closing (0 + 1) (closing :: rest) =
      .ok ([closing], rest) := by
    rw [findMatchingDelimiterFrom, if_neg notQuote.2.1, if_neg notQuote.2.2, if_pos rfl,
      if_pos (by decide)]
  rw [List.cons_append, List.append_assoc, List.singleton_append, findMatchingDelimiter,
    if_neg (fun other => other rfl), findMatchingDelimiterFrom, if_neg notQuote.1, if_pos rfl,
    Passes.of_balanced delimiters inside _ _ _ _ (by omega) closed]
  rfl

/-! ## Members that hold objects or arrays -/

@[simp] theorem require_ok {condition : Prop} [Decidable condition] {message : String}
    (holds : condition) : require condition message = .ok () := if_pos holds

section Reading

variable {json : Text} {members : List Member} {key : String}

theorem readDelimited_reads {opening closing : Char} (delimiters : Delimiters opening closing)
    (kind : String) {inner : Text} (inside : Balanced inner)
    (reads : Reads json key (opening :: (inner ++ [closing]))) :
    readDelimited opening closing kind json key = .ok (opening :: (inner ++ [closing])) := by
  obtain ⟨tail, -, start⟩ := reads
  have opens : (opening :: (inner ++ [closing]) ++ tail).head? = some opening := rfl
  rw [readDelimited, start, Except.ok_bind, require_ok opens, Except.ok_bind,
    findMatchingDelimiter_delimited delimiters inside tail]
  rfl

/-- The text of an object. -/
def IsObject (text : Text) : Prop := ∃ inner, Balanced inner ∧ text = '{' :: (inner ++ ['}'])

theorem isObject_object {inner : List Member} (proper : Proper inner) : IsObject (object inner) :=
  ⟨_, members_balanced proper, rfl⟩

theorem readObject_reads {text : Text} (isObject : IsObject text) (reads : Reads json key text) :
    readObject json key = .ok text := by
  obtain ⟨inner, inside, rfl⟩ := isObject
  exact readDelimited_reads (.inl ⟨rfl, rfl⟩) "object" inside reads

/-- A member that holds an object is read back. -/
theorem readObject_object (proper : Proper members) {inner : List Member}
    (isObject : Proper inner) (found : members.lookup key = some (object inner)) :
    readObject (object members) key = .ok (object inner) :=
  readObject_reads (isObject_object isObject) (reads_object proper found)

/-- One turn of the loop, at an object. -/
theorem readObjectsFrom_turn {item : Text} (isObject : IsObject item) {behind : Text}
    (more : behind ≠ []) :
    readObjectsFrom key (item ++ behind) =
      match skipWhitespace behind with
      | [_] => .ok [item]
      | ',' :: next =>
          if (skipWhitespace next).length = 1 then
            .error ("Protocol: trailing comma in array '" ++ key ++ "'")
          else (item :: ·) <$> readObjectsFrom key (skipWhitespace next)
      | _ => .error ("Protocol: invalid array '" ++ key ++ "'") := by
  obtain ⟨inner, inside, rfl⟩ := isObject
  have matched := findMatchingDelimiter_delimited (.inl ⟨rfl, rfl⟩) inside behind
  rw [readObjectsFrom, if_neg (by simp [more]), if_neg (fun other => other rfl)]
  split
  · next failed =>
      rw [matched] at failed
      cases failed
  · next found =>
      rw [matched] at found
      cases found
      split
      · next only => rw [only]
      · next rest more comma =>
          rw [comma]
          cases rest with
          | nil => exact absurd rfl more
          | cons _ _ => rfl
      · next notOnly notComma =>
          split
          · next only => exact absurd only (notOnly _)
          · next comma => exact absurd comma (notComma _)
          · rfl

theorem skipWhitespace_padded {item text : Text} (padded : Padded item text)
    (isObject : IsObject item) (rest : Text) :
    ∃ behind, Blank behind ∧ skipWhitespace (text ++ rest) = item ++ (behind ++ rest) := by
  obtain ⟨before, behind, start, blank, rfl⟩ := padded
  obtain ⟨inner, inside, rfl⟩ := isObject
  refine ⟨behind, blank, ?_⟩
  rw [List.append_assoc, List.append_assoc, skipWhitespace_blank start]
  exact skipWhitespace_value (.object inside) _

/-- The objects of an array are told apart. -/
theorem readObjectsFrom_objects {item : Text} {items padded : List Text} {behind : Text}
    (objects : ∀ other ∈ item :: items, IsObject other) (blank : Blank behind)
    (pairs : List.Forall₂ Padded items padded) :
    readObjectsFrom key (item ++ (behind ++ (padded.flatMap (',' :: ·) ++ [']']))) =
      .ok (item :: items) := by
  induction pairs generalizing item behind with
  | nil =>
      rw [readObjectsFrom_turn (objects _ (List.mem_cons_self ..)) (by simp),
        skipWhitespace_blank blank]
      rfl
  | @cons next text items padded first _ ih =>
      have others := fun other member => objects other (List.mem_cons_of_mem _ member)
      obtain ⟨gap, gapBlank, start⟩ := skipWhitespace_padded first
        (others next (List.mem_cons_self ..)) (padded.flatMap (',' :: ·) ++ [']'])
      have long : (next ++ (gap ++ (padded.flatMap (',' :: ·) ++ [']']))).length ≠ 1 := by
        obtain ⟨inner, -, rfl⟩ := others next (List.mem_cons_self ..)
        simp
      have comma : ∀ rest : Text, skipWhitespace (',' :: rest) = ',' :: rest :=
        fun rest => List.dropWhile_cons_of_neg (not_space (by decide))
      rw [readObjectsFrom_turn (objects _ (List.mem_cons_self ..)) (by simp),
        skipWhitespace_blank blank, List.flatMap_cons, List.cons_append, List.cons_append,
        List.append_assoc, comma]
      obtain ⟨letter, rest, shown⟩ := List.exists_cons_of_ne_nil
        (List.append_ne_nil_of_right_ne_nil text
          (List.append_ne_nil_of_right_ne_nil (padded.flatMap (',' :: ·))
            (List.cons_ne_nil ']' [])))
      rw [shown] at start ⊢
      change (if (skipWhitespace _).length = 1 then _ else _) = _
      rw [start, if_neg long, ih others gapBlank]
      rfl

/-- **The objects of an array are read**, whatever blanks there are. -/
theorem readObjectArray_reads {items : List Text} {text : Text} (reads : Reads json key text)
    (spaced : SpacedArray items text) (objects : ∀ item ∈ items, IsObject item) :
    readObjectArray json key = .ok items := by
  obtain ⟨padded, body, pairs, isBody, rfl⟩ := spaced
  have balanced : Balanced body := isBody.balanced (forall_of_forall₂ pairs
    fun item member text padded => padded.balanced (by
      obtain ⟨inner, inside, rfl⟩ := objects item member
      exact (Value.object inside).balanced))
  rw [readObjectArray, readArray, readDelimited_reads (.inr ⟨rfl, rfl⟩) "array" balanced reads,
    Except.ok_bind, List.tail_cons]
  cases pairs with
  | nil =>
      have blank : Blank body := isBody.elim (fun none => none ▸ .nil) And.right
      rw [skipWhitespace_blank blank, readObjectsFrom, if_pos (by decide)]
  | @cons item text items padded first others =>
      obtain rfl | ⟨none, -⟩ := isBody
      · obtain ⟨behind, blank, start⟩ := skipWhitespace_padded first
          (objects item (List.mem_cons_self ..)) (padded.flatMap (',' :: ·) ++ [']'])
        rw [separated, List.append_assoc, start]
        exact readObjectsFrom_objects objects blank others
      · cases none

/-- A member that holds an array of objects is read back. -/
theorem readObjectArray_object (proper : Proper members) {items : List (List Member)}
    (areProper : ∀ item ∈ items, Proper item)
    (found : members.lookup key = some (array (items.map object))) :
    readObjectArray (object members) key = .ok (items.map object) :=
  readObjectArray_reads (reads_object proper found) (.self _)
    (List.forall_mem_map.mpr fun item member => isObject_object (areProper item member))

/-! ## Members that hold scalars -/

theorem digit_range {character : Char} (digit : character.isDigit = true) :
    48 ≤ character.toNat ∧ character.toNat ≤ 57 := by
  simpa [Char.isDigit, UInt32.le_iff_toNat_le] using digit

theorem digit_bare {character : Char} (digit : character.isDigit = true) : Bare character := by
  have range := digit_range digit
  have visible : 32 < character.toNat := by omega
  refine ⟨visible, fun structural => ?_⟩
  have above : ∀ other ∈ ['"', ',', ':', '{', '}', '[', ']'],
      ¬ (48 ≤ other.toNat ∧ other.toNat ≤ 57) := by decide
  exact above character structural range

theorem number_bare (value : Int) : ∀ character ∈ number value, Bare character := by
  intro character member
  rw [number] at member
  split at member
  · rcases List.mem_cons.mp member with rfl | digit
    · decide
    · exact digit_bare (Nat.isDigit_of_mem_toDigits (by decide) (by decide) digit)
  · exact digit_bare (Nat.isDigit_of_mem_toDigits (by decide) (by decide) member)

theorem number_written (value : Int) : number value ≠ [] := by
  rw [number]
  split
  · exact List.cons_ne_nil _ _
  · exact Nat.toDigits_ne_nil

theorem clean_number (value : Int) : Clean (number value) := by
  refine ⟨value_bare (number_written value) (number_bare value), fun character member => ?_⟩
  have visible : 32 < character.toNat := (number_bare value character member).1
  omega

theorem clean_boolean (value : Bool) : Clean (boolean value) := by
  cases value <;> exact ⟨.scalar (by decide) (by decide), by decide⟩

/-- The numbers of a `long long`. -/
def IsLong (value : Int) : Prop := -2 ^ 63 ≤ value ∧ value < 2 ^ 63

instance : DecidablePred IsLong := fun _ => inferInstanceAs (Decidable (_ ∧ _))

/-- The numbers of an `int`. -/
def IsInt (value : Int) : Prop := -2 ^ 31 ≤ value ∧ value < 2 ^ 31

instance : DecidablePred IsInt := fun _ => inferInstanceAs (Decidable (_ ∧ _))

theorem IsInt.isLong {value : Int} (isInt : IsInt value) : IsLong value := by
  rw [IsInt] at isInt
  rw [IsLong]
  omega

/-- What follows a value starts with no digit. -/
theorem Behind.takeWhile {digits tail : Text} (behind : Behind tail)
    (areDigits : ∀ character ∈ digits, character.isDigit = true) :
    (digits ++ tail).takeWhile Char.isDigit = digits ∧
      (digits ++ tail).dropWhile Char.isDigit = tail := by
  have stops : tail.takeWhile Char.isDigit = [] ∧ tail.dropWhile Char.isDigit = tail := by
    cases tail with
    | nil => exact ⟨rfl, rfl⟩
    | cons character tail =>
        have notDigit : ¬ character.isDigit = true := by
          intro digit
          have shown : skipWhitespace (character :: tail) = character :: tail :=
            List.dropWhile_cons_of_neg (not_space (digit_bare digit).1)
          rw [Behind, shown] at behind
          rcases behind with comma | brace
          · cases comma
            exact absurd digit (by decide)
          · cases brace
            exact absurd digit (by decide)
        exact ⟨List.takeWhile_cons_of_neg notDigit, List.dropWhile_cons_of_neg notDigit⟩
  rw [List.takeWhile_append_of_pos areDigits, List.dropWhile_append_of_pos areDigits, stops.1,
    stops.2, List.append_nil]
  exact ⟨rfl, rfl⟩

/-- **A number is read back when it is a `long long`.** -/
theorem stoll_number (value : Int) {tail : Text} (ends : Behind tail) :
    stoll (number value ++ tail) = if IsLong value then some (value, tail) else none := by
  have areDigits : ∀ character ∈ Nat.toDigits 10 value.natAbs, character.isDigit = true :=
    fun _ => Nat.isDigit_of_mem_toDigits (by decide) (by decide)
  obtain ⟨start, behind⟩ := ends.takeWhile areDigits
  have range : ∀ {read : Int}, read = value →
      (if read < -2 ^ 63 ∨ 2 ^ 63 ≤ read then none else some (read, tail)) =
        if IsLong value then some (value, tail) else none := by
    intro read same
    rw [same]
    by_cases isLong : IsLong value
    · rw [if_pos isLong, if_neg]
      rw [IsLong] at isLong
      omega
    · rw [if_neg isLong, if_pos]
      rw [IsLong] at isLong
      omega
  rw [stoll, skipWhitespace_value (clean_number value).isValue]
  by_cases negative : value < 0
  · have signed : number value ++ tail = '-' :: (Nat.toDigits 10 value.natAbs ++ tail) := by
      rw [number, if_pos negative, List.cons_append]
    simp only [signed, List.head?_cons, List.tail_cons, true_or, if_true, start, behind,
      Nat.ofDigitChars_ten_toDigits, Nat.toDigits_ne_nil, false_or]
    exact range (by omega)
  · have unsigned : number value ++ tail = Nat.toDigits 10 value.natAbs ++ tail := by
      rw [number, if_neg negative]
    have noSign : ∀ sign, (Nat.toDigits 10 value.natAbs ++ tail).head? = some sign →
        sign.isDigit = true := by
      intro sign head
      cases digits : Nat.toDigits 10 value.natAbs with
      | nil => exact absurd digits Nat.toDigits_ne_nil
      | cons first others =>
          rw [digits] at head
          cases head
          exact areDigits _ (digits ▸ List.mem_cons_self ..)
    have notMinus : (Nat.toDigits 10 value.natAbs ++ tail).head? ≠ some '-' :=
      fun head => absurd (noSign _ head) (by decide)
    have notPlus : (Nat.toDigits 10 value.natAbs ++ tail).head? ≠ some '+' :=
      fun head => absurd (noSign _ head) (by decide)
    simp only [unsigned, notMinus, notPlus, or_self, if_false, start, behind,
      Nat.ofDigitChars_ten_toDigits, Nat.toDigits_ne_nil, false_or]
    exact range (by omega)

theorem endsNumber_behind {tail : Text} (behind : Behind tail) : endsNumber tail = true := by
  rw [endsNumber]
  cases rest : skipWhitespace tail with
  | nil =>
      rw [Behind, rest] at behind
      exact absurd rfl behind.more
  | cons character others =>
      rw [Behind, rest] at behind
      rcases behind with comma | brace
      · cases comma
        rfl
      · cases brace
        rfl

/-- A number that is no `long long` is refused. -/
theorem readSigned_reads {value : Int} (reads : Reads json key (number value)) :
    readSigned json key =
      if IsLong value then .ok value
      else .error ("Protocol: field '" ++ key ++ "' must be an integer") := by
  obtain ⟨tail, behind, start⟩ := reads
  rw [readSigned, start, Except.ok_bind, stoll_number value behind]
  by_cases isLong : IsLong value
  · rw [if_pos isLong, if_pos isLong]
    exact if_pos (endsNumber_behind behind)
  · rw [if_neg isLong, if_neg isLong]
    rfl

theorem readSigned_object (proper : Proper members) {value : Int} (isLong : IsLong value)
    (found : members.lookup key = some (number value)) :
    readSigned (object members) key = .ok value := by
  rw [readSigned_reads (reads_object proper found), if_pos isLong]

theorem isLong_of_readSigned_object (proper : Proper members) {value read : Int}
    (found : members.lookup key = some (number value))
    (accepted : readSigned (object members) key = .ok read) : IsLong value := by
  by_contra tooLong
  rw [readSigned_reads (reads_object proper found), if_neg tooLong] at accepted
  cases accepted

theorem readInt_object (proper : Proper members) {value : Int} (isInt : IsInt value)
    (found : members.lookup key = some (number value)) :
    readInt (object members) key = .ok value := by
  rw [readInt, readSigned_object proper isInt.isLong found, Except.ok_bind,
    require_ok (by exact isInt)]
  rfl

theorem readUnsigned_object (proper : Proper members) {value : Nat} (isLong : IsLong value)
    (found : members.lookup key = some (number value)) :
    readUnsigned (object members) key = .ok value := by
  rw [readUnsigned, readSigned_object proper isLong found, Except.ok_bind, requireNonNegative,
    require_ok (Int.natCast_nonneg value)]
  rfl

theorem readBool_reads {value : Bool} (reads : Reads json key (boolean value)) :
    readBool json key = .ok value := by
  obtain ⟨tail, -, start⟩ := reads
  rw [readBool, start]
  cases value <;> rfl

theorem readBool_object (proper : Proper members) {value : Bool}
    (found : members.lookup key = some (boolean value)) :
    readBool (object members) key = .ok value :=
  readBool_reads (reads_object proper found)

/-! ## Members that hold strings -/

/-- The characters a string may have to be written. -/
def Printable (character : Char) : Prop :=
  0x20 ≤ character.toNat ∨ character = '\n' ∨ character = '\r' ∨ character = '\t'

instance : DecidablePred Printable := fun _ => inferInstanceAs (Decidable (_ ∨ _))

/-- A character is written as itself or as an escape that stands for it. -/
theorem escapeCharacter_cases {character : Char} {piece : Text}
    (written : escapeCharacter character = .ok piece) :
    Printable character ∧
      (piece = [character] ∧ 0x20 ≤ character.toNat ∧ character ≠ '"' ∧ character ≠ '\\' ∨
        ∃ letter : Char, piece = ['\\', letter] ∧ 0x20 ≤ letter.toNat ∧
          unescape letter = some character) := by
  unfold escapeCharacter at written
  split at written
  case h_6 notEscape notQuote _ _ _ =>
    split at written
    · cases written
    · next visible =>
        cases written
        exact ⟨.inl (not_lt.mp visible), .inl ⟨rfl, not_lt.mp visible, notQuote, notEscape⟩⟩
  all_goals
    cases written
    exact ⟨by decide, .inr ⟨_, rfl, by decide, rfl⟩⟩

theorem escapeCharacter_isOk {character : Char} (printable : Printable character) :
    ∃ piece, escapeCharacter character = .ok piece := by
  unfold escapeCharacter
  split
  case h_6 _ _ notNewline notReturn notTab =>
    rw [if_neg fun control => ?_]
    · exact ⟨_, rfl⟩
    · obtain visible | rfl | rfl | rfl := printable
      · exact absurd control (not_lt.mpr visible)
      · exact notNewline rfl
      · exact notReturn rfl
      · exact notTab rfl
  all_goals exact ⟨_, rfl⟩

/-- What is written for a string is read back. It is closed and shows no control
characters. -/
theorem escapeJson_reads {value raw : Text} (written : escapeJson value = .ok raw) :
    Closed raw ∧ Visible raw ∧
      ∀ rest, readStringFrom false (raw ++ '"' :: rest) = .ok value := by
  induction value generalizing raw with
  | nil =>
      cases written
      exact ⟨.nil, .nil, fun _ => rfl⟩
  | cons character value ih =>
      obtain ⟨piece, first, later⟩ := Except.bind_eq_ok.mp written
      obtain ⟨others, rest, returned⟩ := Except.bind_eq_ok.mp later
      cases returned
      obtain ⟨closed, shown, reads⟩ := ih rest
      obtain ⟨-, ⟨rfl, visible, notQuote, notEscape⟩ | ⟨letter, rfl, visible, meant⟩⟩ :=
        escapeCharacter_cases first
      · refine ⟨.plain notQuote notEscape closed, shown.cons visible, fun rest => ?_⟩
        rw [List.singleton_append, List.cons_append, readStringFrom, if_neg Bool.false_ne_true,
          if_neg notEscape, if_neg notQuote, reads]
        rfl
      · refine ⟨.escape letter closed, (shown.cons visible).cons (by decide), fun rest => ?_⟩
        simp only [List.cons_append, List.nil_append]
        rw [readStringFrom, if_neg Bool.false_ne_true, if_pos rfl, readStringFrom, if_pos rfl,
          meant]
        simp only [reads, Except.ok_map]

/-- **A string can be written just in case its characters are printable.** -/
theorem escapeJson_isOk {value : Text} :
    (∃ raw, escapeJson value = .ok raw) ↔ ∀ character ∈ value, Printable character := by
  induction value with
  | nil => exact ⟨fun _ _ member => absurd member List.not_mem_nil, fun _ => ⟨[], rfl⟩⟩
  | cons character value ih =>
      rw [List.forall_mem_cons, ← ih]
      constructor
      · rintro ⟨raw, written⟩
        obtain ⟨piece, first, later⟩ := Except.bind_eq_ok.mp written
        obtain ⟨others, rest, -⟩ := Except.bind_eq_ok.mp later
        exact ⟨(escapeCharacter_cases first).1, others, rest⟩
      · rintro ⟨printable, others, rest⟩
        obtain ⟨piece, first⟩ := escapeCharacter_isOk printable
        exact ⟨piece ++ others, by rw [escapeJson, first, rest]; rfl⟩

/-- The text is a string that is read as the value. -/
def Spells (value : String) (text : Text) : Prop :=
  ∃ raw, text = quoted raw ∧ Closed raw ∧
    ∀ rest, readStringFrom false (raw ++ '"' :: rest) = .ok value.toList

theorem readString_reads {value : String} {text : Text} (spells : Spells value text)
    (reads : Reads json key text) : readString json key = .ok value := by
  obtain ⟨raw, rfl, -, spelled⟩ := spells
  obtain ⟨tail, -, start⟩ := reads
  rw [readString, start, Except.ok_bind, quoted, List.cons_append, List.append_assoc,
    List.singleton_append]
  change String.ofList <$> readStringFrom false (raw ++ '"' :: tail) = _
  rw [spelled, Except.ok_map, String.ofList_toList]

theorem readString_object (proper : Proper members) {value : String} {text : Text}
    (spells : Spells value text) (found : members.lookup key = some text) :
    readString (object members) key = .ok value :=
  readString_reads spells (reads_object proper found)

/-- **A string without control characters is written and read back.** -/
theorem string_spells {value : String}
    (printable : ∀ character ∈ value.toList, Printable character) :
    ∃ text, string value = .ok text ∧ Clean text ∧ Spells value text := by
  obtain ⟨raw, written⟩ := escapeJson_isOk.mpr printable
  obtain ⟨closed, visible, reads⟩ := escapeJson_reads written
  exact ⟨quoted raw, by rw [string, written, Except.ok_map], ⟨.string closed, visible.quoted⟩,
    raw, rfl, closed, reads⟩

/-- A text that needs no escapes is read as itself. -/
theorem spells_plain {value : String}
    (plain : ∀ character ∈ value.toList, character ≠ '"' ∧ character ≠ '\\') :
    Spells value (quoted value.toList) := by
  refine ⟨value.toList, rfl, .of_plain plain, fun rest => ?_⟩
  generalize value.toList = letters at plain
  induction letters with
  | nil => rfl
  | cons character letters ih =>
      obtain ⟨notQuote, notEscape⟩ := plain character (List.mem_cons_self ..)
      rw [List.cons_append, readStringFrom, if_neg Bool.false_ne_true, if_neg notEscape,
        if_neg notQuote, ih fun other member => plain other (List.mem_cons_of_mem _ member)]
      rfl

/-! ## Positions -/

theorem clean_position (position : Position) : Clean (writePosition position) :=
  CleanMembers.object (.cons (by decide) (clean_number _) (.cons (by decide) (clean_number _) .nil))

/-- A position is read back where it is allowed. -/
theorem readPosition_object {allowUnused : Bool} (proper : Proper members) {position : Position}
    (allowed : allowUnused = true ∧ position.row = -1 ∧ position.col = -1 ∨
      isBoardPosition position)
    (found : members.lookup key = some (writePosition position)) :
    readPosition allowUnused (object members) key = .ok position := by
  have clean : CleanMembers [("row", number position.row), ("col", number position.col)] :=
    .cons (by decide) (clean_number _) (.cons (by decide) (clean_number _) .nil)
  have small : IsInt position.row ∧ IsInt position.col := by
    rw [isBoardPosition] at allowed
    rw [IsInt, IsInt]
    omega
  rw [readPosition, readObject_object proper clean.proper found, Except.ok_bind,
    readInt_object clean.proper small.1 rfl, Except.ok_bind,
    readInt_object clean.proper small.2 rfl, Except.ok_bind, require_ok allowed]
  rfl

end Reading

end Protocol

end KungFuChess

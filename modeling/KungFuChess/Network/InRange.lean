import KungFuChess.Network.Indexing

/-!
# No access out of range

A part of a text stands for the position at which it starts. With that every function of
the decoder by positions is the one on parts, so that it fails only where that one throws.
-/

set_option autoImplicit false

namespace KungFuChess

namespace Protocol

open JsonText Fault

/-! ## What the scans leave behind them -/

theorem skipWhitespace_suffix (text : Text) : skipWhitespace text <:+ text :=
  List.dropWhile_suffix _

/-- A string ends at a quote. -/
theorem findStringEnd_split {escaped : Bool} {text content after : Text}
    (found : findStringEnd escaped text = .ok (content, after)) :
    text = content ++ '"' :: after := by
  induction text generalizing escaped content with
  | nil => cases found
  | cons character rest ih =>
      have behind : ∀ {skipped : Bool},
          Prod.map (character :: ·) id <$> findStringEnd skipped rest = .ok (content, after) →
            character :: rest = content ++ '"' :: after := by
        intro skipped mapped
        obtain ⟨_, ended, same⟩ := Except.map_eq_ok.mp mapped
        cases same
        exact congrArg (character :: ·) (ih ended)
      rw [findStringEnd] at found
      split at found
      · exact behind found
      · split at found
        · exact behind found
        · split at found
          · next quote =>
              cases found
              rw [quote]
              rfl
          · exact behind found

/-- What a member starts with is a part of the text. -/
theorem findValueFrom_suffix {key : String} {objectDepth arrayDepth : Int} {text start : Text}
    (found : findValueFrom key objectDepth arrayDepth text = .ok start) : start <:+ text := by
  fun_induction findValueFrom key objectDepth arrayDepth text with
  | case1 | case2 | case3 => cases found
  | case4 objectDepth arrayDepth next more content after ended value colon isKey =>
      cases found
      have split := findStringEnd_split ended
      have behind : ':' :: value <:+ after := colon ▸ skipWhitespace_suffix after
      rw [split]
      exact ((skipWhitespace_suffix value).trans (List.suffix_cons ..)).trans
        (behind.trans ((List.suffix_cons ..).trans
          ((List.suffix_append ..).trans (List.suffix_cons ..))))
  | case5 objectDepth arrayDepth next more content after ended value colon otherKey ih =>
      rw [findStringEnd_split ended]
      exact (ih found).trans ((List.suffix_cons ..).trans
        ((List.suffix_append ..).trans (List.suffix_cons ..)))
  | case6 objectDepth arrayDepth next more content after ended noColon ih =>
      rw [findStringEnd_split ended]
      exact (ih found).trans ((List.suffix_cons ..).trans
        ((List.suffix_append ..).trans (List.suffix_cons ..)))
  | case7 | case8 | case9 | case10 | case11 =>
      rename_i ih
      exact (ih found).trans (List.suffix_cons ..)

theorem findValue_suffix {json start : Text} {key : String}
    (found : findValue json key = .ok start) : start <:+ json := by
  rw [findValue] at found
  split at found
  · cases found
  · exact (findValueFrom_suffix found).trans (List.tail_suffix json)

/-- A delimiter is matched by the last character of what is consumed. -/
theorem findMatchingDelimiterFrom_split {opening closing : Char} {depth : Int}
    {text consumed after : Text}
    (found : findMatchingDelimiterFrom opening closing depth text = .ok (consumed, after)) :
    ∃ inner, consumed = inner ++ [closing] ∧ text = inner ++ closing :: after := by
  fun_induction findMatchingDelimiterFrom opening closing depth text generalizing consumed with
  | case1 | case2 => cases found
  | case3 depth rest content behind ended ih =>
      obtain ⟨_, matched, same⟩ := Except.map_eq_ok.mp found
      cases same
      obtain ⟨inner, left, right⟩ := ih matched
      refine ⟨quoted content ++ inner, ?_, ?_⟩
      · simp only [left, List.append_assoc]
      · rw [findStringEnd_split ended, right]
        simp [quoted]
  | case5 =>
      cases found
      exact ⟨[], rfl, rfl⟩
  | case4 | case6 | case7 =>
      rename_i ih
      obtain ⟨_, matched, same⟩ := Except.map_eq_ok.mp found
      cases same
      obtain ⟨inner, left, right⟩ := ih matched
      exact ⟨_ :: inner, congrArg _ left, congrArg _ right⟩

/-- The number that a part starts with, and the part behind it. -/
theorem stoll_split {start after : Text} {value : Int} (read : stoll start = some (value, after)) :
    after <:+ start ∧ after.length < start.length := by
  rw [stoll, Option.ite_none_left_eq_some] at read
  obtain ⟨valid, same⟩ := read
  obtain ⟨-, behind⟩ := Prod.mk.inj (Option.some.inj same)
  obtain ⟨digits, -⟩ := not_or.mp valid
  have signed : ∀ body : Text,
      (if body.head? = some '-' ∨ body.head? = some '+' then body.tail else body) <:+ body := by
    intro body
    split
    · exact List.tail_suffix body
    · exact List.suffix_rfl
  have unsigned := (signed (skipWhitespace start)).trans (skipWhitespace_suffix start)
  have split := congrArg List.length (List.takeWhile_append_dropWhile (p := Char.isDigit)
    (l := if (skipWhitespace start).head? = some '-' ∨ (skipWhitespace start).head? = some '+'
      then (skipWhitespace start).tail else skipWhitespace start))
  have positive := List.length_pos_iff.mpr digits
  have short := unsigned.length_le
  rw [List.length_append, behind] at split
  refine ⟨?_, by omega⟩
  rw [← behind]
  exact (List.dropWhile_suffix _).trans unsigned

namespace Indexed

/-! ## The scans -/

variable {text rest : Text}

theorem skipWhitespace_at (suffix : rest <:+ text) :
    skipWhitespace text (indexOf text rest) =
      .ok (indexOf text (Protocol.skipWhitespace rest)) := by
  induction rest with
  | nil =>
      rw [skipWhitespace, dif_neg (indexOf_nil text).not_lt]
      rfl
  | cons character rest ih =>
      have behind : rest <:+ text := (List.suffix_cons ..).trans suffix
      rw [skipWhitespace, dif_pos (indexOf_lt_length suffix), itemAt_indexOf suffix,
        Except.ok_bind, Protocol.skipWhitespace, List.dropWhile_cons]
      by_cases space : Username.isSpace character = true
      · rw [if_pos space, if_pos space, indexOf_cons suffix]
        exact ih behind
      · rw [if_neg space, if_neg space]
        rfl

theorem findStringEndFrom_at (suffix : rest <:+ text) (escaped : Bool) :
    findStringEndFrom text escaped (indexOf text rest) =
      lift ((fun found => indexOf text ('"' :: found.2)) <$>
        Protocol.findStringEnd escaped rest) := by
  induction rest generalizing escaped with
  | nil =>
      rw [findStringEndFrom, dif_neg (indexOf_nil text).not_lt]
      rfl
  | cons character rest ih =>
      have behind : rest <:+ text := (List.suffix_cons ..).trans suffix
      have onward : ∀ skipped : Bool, findStringEndFrom text skipped (indexOf text rest) =
          lift ((fun found => indexOf text ('"' :: found.2)) <$>
            (Prod.map (character :: ·) id <$> Protocol.findStringEnd skipped rest)) := by
        intro skipped
        rw [ih behind skipped]
        cases Protocol.findStringEnd skipped rest <;> rfl
      rw [findStringEndFrom, dif_pos (indexOf_lt_length suffix), itemAt_indexOf suffix,
        Except.ok_bind, indexOf_cons suffix, Protocol.findStringEnd]
      by_cases skips : escaped = true
      · rw [if_pos skips, if_pos skips]
        exact onward false
      · rw [if_neg skips, if_neg skips]
        by_cases escape : character = '\\'
        · rw [if_pos escape, if_pos escape]
          exact onward true
        · rw [if_neg escape, if_neg escape]
          by_cases quote : character = '"'
          · rw [if_pos quote, if_pos quote, quote]
            rfl
          · rw [if_neg quote, if_neg quote]
            exact onward false

/-- At an opening quote. -/
theorem findStringEnd_at (suffix : ('"' :: rest) <:+ text) :
    findStringEnd text (indexOf text ('"' :: rest)) =
      lift ((fun found => indexOf text ('"' :: found.2)) <$>
        Protocol.findStringEnd false rest) := by
  rw [findStringEnd, indexOf_cons suffix]
  exact findStringEndFrom_at ((List.suffix_cons ..).trans suffix) false

/-- The text behind a colon. -/
def behindColon : Text → Option Text
  | ':' :: value => some value
  | _ => none

theorem behindColon_of_not {text : Text} (noColon : ∀ value, text = ':' :: value → False) :
    behindColon text = none := by
  unfold behindColon
  split
  · next value => exact absurd rfl (noColon value)
  · rfl

section Strings

variable {json content after : Text} (suffix : ('"' :: (content ++ '"' :: after)) <:+ json)

include suffix

theorem behind_quote : after <:+ json :=
  (List.suffix_cons ..).trans ((List.suffix_append ..).trans ((List.suffix_cons ..).trans suffix))

/-- At a string, the value is found behind the colon when the string is the key. -/
theorem keyValue_at (key : String) :
    keyValue json key (indexOf json ('"' :: (content ++ '"' :: after)))
        (indexOf json ('"' :: after)) =
      .ok (match behindColon (Protocol.skipWhitespace after) with
        | some value =>
            if content = key.toList then some (indexOf json (Protocol.skipWhitespace value))
            else none
        | none => none) := by
  have behind := behind_quote suffix
  have inner : content ++ '"' :: after <:+ json := (List.suffix_cons ..).trans suffix
  have closing : '"' :: after <:+ json := (List.suffix_append ..).trans inner
  have first := indexOf_cons suffix
  have second := indexOf_append inner
  have difference : (minus (indexOf json ('"' :: after))
      (indexOf json ('"' :: (content ++ '"' :: after))) : Checked Nat) = .ok (content.length + 1) :=
    minus_eq (by omega)
  have length : (minus (content.length + 1) 1 : Checked Nat) = .ok content.length :=
    minus_eq (Nat.add_comm ..)
  have skipped := (skipWhitespace_suffix after).trans behind
  simp only [keyValue, indexOf_cons closing, skipWhitespace_at behind, Except.ok_bind]
  cases spaces : Protocol.skipWhitespace after with
  | nil =>
      rw [if_neg (indexOf_nil json).not_lt]
      rfl
  | cons separator value =>
      rw [spaces] at skipped
      have onward : value <:+ json := (List.suffix_cons ..).trans skipped
      rw [if_pos (indexOf_lt_length skipped), itemAt_indexOf skipped, Except.ok_bind]
      by_cases colon : separator = ':'
      · subst colon
        rw [if_pos rfl, difference, Except.ok_bind, length, Except.ok_bind, first,
          substr_indexOf inner, Except.ok_bind, indexOf_cons skipped]
        by_cases isKey : content = key.toList
        · simp only [if_pos isKey, skipWhitespace_at onward, Except.ok_bind]
          rfl
        · simp only [if_neg isKey]
          rfl
      · rw [if_neg colon, behindColon_of_not fun _ same => colon (List.cons.inj same).1]
        rfl

end Strings

/-- The first turn of the loop of `findValue`, where the object has not ended. -/
theorem findValueFrom_step {json : Text} {key : String} {objectDepth arrayDepth : Int}
    {character : Char} {next : Text} (suffix : (character :: next) <:+ json) (more : next ≠ []) :
    findValueFrom json key objectDepth arrayDepth (indexOf json (character :: next)) =
      if character = '"' then
        match findStringEnd json (indexOf json (character :: next)) with
        | .error fault => .error fault
        | .ok last => do
            let value? ←
              if objectDepth = 1 ∧ arrayDepth = 0 then
                keyValue json key (indexOf json (character :: next)) last
              else pure none
            match value? with
            | some start => return start
            | none => findValueFrom json key objectDepth arrayDepth (last + 1)
      else if character = '{' then
        findValueFrom json key (objectDepth + 1) arrayDepth (indexOf json next)
      else if character = '}' then
        findValueFrom json key (objectDepth - 1) arrayDepth (indexOf json next)
      else if character = '[' then
        findValueFrom json key objectDepth (arrayDepth + 1) (indexOf json next)
      else if character = ']' then
        findValueFrom json key objectDepth (arrayDepth - 1) (indexOf json next)
      else findValueFrom json key objectDepth arrayDepth (indexOf json next) := by
  have inside : indexOf json (character :: next) + 1 < json.length := by
    obtain ⟨second, rest, rfl⟩ := List.exists_cons_of_ne_nil more
    rw [indexOf_cons suffix]
    exact indexOf_lt_length ((List.suffix_cons ..).trans suffix)
  rw [findValueFrom, dif_pos inside, itemAt_indexOf suffix, Except.ok_bind, indexOf_cons suffix]
  by_cases quote : character = '"'
  · simp only [if_pos quote]
    cases findStringEnd json (indexOf json (character :: next)) with
    | error _ => rfl
    | ok _ => rfl
  · simp only [if_neg quote]

/-- A turn at a string goes on behind it, or ends at the value of the key. -/
theorem findValueFrom_quote_at {json : Text} {key : String} {objectDepth arrayDepth : Int}
    {next content after : Text} (suffix : ('"' :: next) <:+ json) (more : next ≠ [])
    (ended : Protocol.findStringEnd false next = .ok (content, after)) :
    findValueFrom json key objectDepth arrayDepth (indexOf json ('"' :: next)) =
      match behindColon (Protocol.skipWhitespace after) with
      | some value =>
          if objectDepth = 1 ∧ arrayDepth = 0 ∧ content = key.toList then
            .ok (indexOf json (Protocol.skipWhitespace value))
          else findValueFrom json key objectDepth arrayDepth (indexOf json after)
      | none => findValueFrom json key objectDepth arrayDepth (indexOf json after) := by
  have split := findStringEnd_split ended
  rw [findValueFrom_step suffix more, if_pos rfl, findStringEnd_at suffix, ended]
  subst split
  have closing : '"' :: after <:+ json :=
    (List.suffix_append ..).trans ((List.suffix_cons ..).trans suffix)
  simp only [Except.ok_map, lift_ok, indexOf_cons closing, keyValue_at suffix, Except.ok_bind]
  cases behindColon (Protocol.skipWhitespace after) with
  | none => exact ite_self _
  | some value =>
      by_cases inObject : objectDepth = 1 ∧ arrayDepth = 0
      · by_cases isKey : content = key.toList
        · simp only [inObject, isKey, and_self, if_true]
          rfl
        · simp only [if_pos inObject, isKey, and_false, if_false]
      · have outside : ¬ (objectDepth = 1 ∧ arrayDepth = 0 ∧ content = key.toList) :=
          fun here => inObject ⟨here.1, here.2.1⟩
        simp only [if_neg inObject, if_neg outside]
        rfl

theorem findValueFrom_at {json : Text} {key : String} {objectDepth arrayDepth : Int} {rest : Text}
    (suffix : rest <:+ json) :
    findValueFrom json key objectDepth arrayDepth (indexOf json rest) =
      lift (indexOf json <$> Protocol.findValueFrom key objectDepth arrayDepth rest) := by
  fun_induction Protocol.findValueFrom key objectDepth arrayDepth rest with
  | case1 =>
      rw [findValueFrom, dif_neg (by rw [indexOf_nil]; omega)]
      rfl
  | case2 objectDepth arrayDepth last =>
      rw [findValueFrom, dif_neg (by rw [indexOf_cons suffix, indexOf_nil]; omega)]
      rfl
  | case3 objectDepth arrayDepth next more message ended =>
      rw [findValueFrom_step suffix more, if_pos rfl, findStringEnd_at suffix, ended]
      rfl
  | case4 objectDepth arrayDepth next more content after ended value colon isKey =>
      rw [findValueFrom_quote_at suffix more ended, colon]
      exact if_pos isKey
  | case5 objectDepth arrayDepth next more content after ended value colon otherKey ih =>
      rw [findValueFrom_quote_at suffix more ended, colon]
      rw [findStringEnd_split ended] at suffix
      exact (if_neg otherKey).trans (ih (behind_quote suffix))
  | case6 objectDepth arrayDepth next more content after ended noColon ih =>
      rw [findValueFrom_quote_at suffix more ended, behindColon_of_not noColon]
      rw [findStringEnd_split ended] at suffix
      exact ih (behind_quote suffix)
  | case7 objectDepth arrayDepth next more notQuote ih =>
      rw [findValueFrom_step suffix more, if_neg notQuote, if_pos rfl]
      exact ih ((List.suffix_cons ..).trans suffix)
  | case8 objectDepth arrayDepth next more notQuote notOpen ih =>
      rw [findValueFrom_step suffix more, if_neg notQuote, if_neg notOpen, if_pos rfl]
      exact ih ((List.suffix_cons ..).trans suffix)
  | case9 objectDepth arrayDepth next more notQuote notOpen notClose ih =>
      rw [findValueFrom_step suffix more, if_neg notQuote, if_neg notOpen, if_neg notClose,
        if_pos rfl]
      exact ih ((List.suffix_cons ..).trans suffix)
  | case10 objectDepth arrayDepth next more notQuote notOpen notClose notArray ih =>
      rw [findValueFrom_step suffix more, if_neg notQuote, if_neg notOpen, if_neg notClose,
        if_neg notArray, if_pos rfl]
      exact ih ((List.suffix_cons ..).trans suffix)
  | case11 objectDepth arrayDepth character next more notQuote notOpen notClose notArray
      notArrayEnd ih =>
      rw [findValueFrom_step suffix more, if_neg notQuote, if_neg notOpen, if_neg notClose,
        if_neg notArray, if_neg notArrayEnd]
      exact ih ((List.suffix_cons ..).trans suffix)

/-- The tests of the two ends of a text that is not empty. -/
theorem isEnclosed_eq {json : Text} (nonempty : json ≠ []) :
    isEnclosed json = .ok (decide (json.head? = some '{' ∧ json.getLast? = some '}')) := by
  obtain ⟨first, rest, rfl⟩ := List.exists_cons_of_ne_nil nonempty
  have opening : (itemAt (first :: rest) 0 : Checked Char) = .ok first := rfl
  have closing : (itemAt (first :: rest) rest.length : Checked Char) =
      .ok ((first :: rest).getLast nonempty) := by
    rw [itemAt, List.getElem?_eq_getElem (Nat.lt_succ_self _), List.getLast_eq_getElem]
    rfl
  have back : (minus (first :: rest).length 1 : Checked Nat) = .ok rest.length :=
    minus_eq (Nat.add_comm ..)
  rw [isEnclosed, opening, Except.ok_bind, List.head?_cons, List.getLast?_eq_some_getLast nonempty]
  by_cases isOpen : first = '{'
  · rw [if_pos isOpen, back, Except.ok_bind, closing, Except.ok_bind]
    simp only [isOpen, true_and, Option.some.injEq]
    rfl
  · rw [if_neg isOpen]
    simp only [isOpen, Option.some.injEq, false_and, decide_false]
    rfl

theorem findValue_at (json : Text) (key : String) :
    findValue json key = lift (indexOf json <$> Protocol.findValue json key) := by
  rw [findValue, Protocol.findValue]
  by_cases short : json.length < 2
  · rw [if_pos short, if_pos (.inl short)]
    rfl
  · have nonempty : json ≠ [] := by
      rintro rfl
      exact short (by decide)
    obtain ⟨first, rest, same⟩ := List.exists_cons_of_ne_nil nonempty
    have start : indexOf json json.tail = 1 := by
      subst same
      exact (Nat.add_sub_cancel_left ..)
    rw [if_neg short, isEnclosed_eq nonempty, Except.ok_bind]
    by_cases enclosed : json.head? = some '{' ∧ json.getLast? = some '}'
    · have valid : ¬ (json.length < 2 ∨ json.head? ≠ some '{' ∨ json.getLast? ≠ some '}') := by
        rintro (small | open_ | close)
        · exact short small
        · exact open_ enclosed.1
        · exact close enclosed.2
      rw [if_neg valid, decide_eq_true enclosed, if_pos rfl, ← start]
      exact findValueFrom_at (List.tail_suffix json)
    · have invalid : json.length < 2 ∨ json.head? ≠ some '{' ∨ json.getLast? ≠ some '}' :=
        .inr (not_and_or.mp enclosed)
      rw [if_pos invalid, decide_eq_false enclosed]
      rfl

/-- What is found is a position in the text. -/
theorem findValue_cases (json : Text) (key : String) :
    (∃ start, start <:+ json ∧ Protocol.findValue json key = .ok start ∧
        findValue json key = .ok (indexOf json start)) ∨
      ∃ message, Protocol.findValue json key = .error message ∧
        findValue json key = .error (.thrown message) := by
  rw [findValue_at]
  cases found : Protocol.findValue json key with
  | ok start => exact .inl ⟨start, findValue_suffix found, rfl, rfl⟩
  | error message => exact .inr ⟨message, rfl, rfl⟩

theorem startsWith_at (suffix : rest <:+ text) (character : Char) :
    startsWith text (indexOf text rest) character =
      .ok (decide (rest.head? = some character)) := by
  rw [startsWith]
  cases rest with
  | nil =>
      rw [if_neg (indexOf_nil text).not_lt]
      rfl
  | cons first rest =>
      rw [if_pos (indexOf_lt_length suffix), itemAt_indexOf suffix, Except.ok_bind,
        List.head?_cons]
      simp only [Option.some.injEq]
      rfl

/-- A turn of the loop of `findMatchingDelimiter`. -/
theorem findMatchingDelimiterFrom_step {opening closing character : Char} {depth : Int}
    (suffix : (character :: rest) <:+ text) :
    findMatchingDelimiterFrom text opening closing depth (indexOf text (character :: rest)) =
      if character = '"' then
        match findStringEnd text (indexOf text (character :: rest)) with
        | .error fault => .error fault
        | .ok last => findMatchingDelimiterFrom text opening closing depth (last + 1)
      else if character = opening then
        findMatchingDelimiterFrom text opening closing (depth + 1) (indexOf text rest)
      else if character = closing then
        if depth - 1 = 0 then .ok (indexOf text (character :: rest))
        else findMatchingDelimiterFrom text opening closing (depth - 1) (indexOf text rest)
      else findMatchingDelimiterFrom text opening closing depth (indexOf text rest) := by
  rw [findMatchingDelimiterFrom, dif_pos (indexOf_lt_length suffix), itemAt_indexOf suffix,
    Except.ok_bind, indexOf_cons suffix]
  by_cases quote : character = '"'
  · rw [if_pos quote, if_pos quote]
    split
    · next ended => rw [ended]
    · next ended => rw [ended]
  · rw [if_neg quote, if_neg quote]
    rfl

theorem findMatchingDelimiterFrom_at {opening closing : Char} {depth : Int}
    (suffix : rest <:+ text) :
    findMatchingDelimiterFrom text opening closing depth (indexOf text rest) =
      lift ((fun found => indexOf text (closing :: found.2)) <$>
        Protocol.findMatchingDelimiterFrom opening closing depth rest) := by
  -- What was passed over does not matter for the place of the closing delimiter.
  have drop : ∀ {rest : Text} {pass : Text → Text} {depth : Int},
      (lift ((fun found => indexOf text (closing :: found.2)) <$>
          (Prod.map pass id <$>
            Protocol.findMatchingDelimiterFrom opening closing depth rest)) : Checked Nat) =
        lift ((fun found => indexOf text (closing :: found.2)) <$>
          Protocol.findMatchingDelimiterFrom opening closing depth rest) := by
    intro rest pass depth
    cases Protocol.findMatchingDelimiterFrom opening closing depth rest <;> rfl
  fun_induction Protocol.findMatchingDelimiterFrom opening closing depth rest with
  | case1 =>
      rw [findMatchingDelimiterFrom, dif_neg (indexOf_nil text).not_lt]
      rfl
  | case2 depth rest message ended =>
      rw [findMatchingDelimiterFrom_step suffix, if_pos rfl, findStringEnd_at suffix, ended]
      rfl
  | case3 depth rest content after ended ih =>
      rw [findMatchingDelimiterFrom_step suffix, if_pos rfl, findStringEnd_at suffix, ended, drop]
      rw [findStringEnd_split ended] at suffix
      have closes : '"' :: after <:+ text :=
        (List.suffix_append ..).trans ((List.suffix_cons ..).trans suffix)
      simp only [Except.ok_map, lift_ok, indexOf_cons closes]
      exact ih (behind_quote suffix)
  | case4 depth rest notQuote ih =>
      rw [findMatchingDelimiterFrom_step suffix, if_neg notQuote, if_pos rfl]
      exact (ih ((List.suffix_cons ..).trans suffix)).trans drop.symm
  | case5 depth rest closes notQuote notOpen =>
      rw [findMatchingDelimiterFrom_step suffix, if_neg notQuote, if_neg notOpen, if_pos rfl,
        if_pos closes]
      rfl
  | case6 depth rest stays notQuote notOpen ih =>
      rw [findMatchingDelimiterFrom_step suffix, if_neg notQuote, if_neg notOpen, if_pos rfl,
        if_neg stays]
      exact (ih ((List.suffix_cons ..).trans suffix)).trans drop.symm
  | case7 depth character rest notQuote notOpen notClose ih =>
      rw [findMatchingDelimiterFrom_step suffix, if_neg notQuote, if_neg notOpen, if_neg notClose]
      exact (ih ((List.suffix_cons ..).trans suffix)).trans drop.symm

/-- What is matched: the part up to the closing delimiter, and where that stands. -/
theorem findMatchingDelimiter_at (opening closing : Char) (suffix : rest <:+ text) :
    (∃ inner after, rest = inner ++ closing :: after ∧
        Protocol.findMatchingDelimiter opening closing rest = .ok (inner ++ [closing], after) ∧
        findMatchingDelimiter text (indexOf text rest) opening closing =
          .ok (indexOf text (closing :: after))) ∨
      ∃ message, Protocol.findMatchingDelimiter opening closing rest = .error message ∧
        findMatchingDelimiter text (indexOf text rest) opening closing =
          .error (.thrown message) := by
  rw [findMatchingDelimiter, Protocol.findMatchingDelimiter, startsWith_at suffix, Except.ok_bind]
  by_cases opens : rest.head? = some opening
  · rw [if_neg (not_not.mpr opens), decide_eq_true opens, if_pos rfl,
      findMatchingDelimiterFrom_at suffix]
    cases found : Protocol.findMatchingDelimiterFrom opening closing 0 rest with
    | ok result =>
        obtain ⟨consumed, after⟩ := result
        obtain ⟨inner, rfl, split⟩ := findMatchingDelimiterFrom_split found
        exact .inl ⟨inner, after, split, rfl, rfl⟩
    | error message => exact .inr ⟨message, rfl, rfl⟩
  · rw [if_pos opens, decide_eq_false opens]
    exact .inr ⟨_, rfl, rfl⟩

/-- A delimited part is cut out as a whole. -/
theorem substr_delimited {inner after : Text} {closing : Char}
    (suffix : (inner ++ closing :: after) <:+ text) :
    (minus (indexOf text (closing :: after)) (indexOf text (inner ++ closing :: after)) :
        Checked Nat) = .ok inner.length ∧
      (substr text (indexOf text (inner ++ closing :: after)) (inner.length + 1) :
        Checked Text) = .ok (inner ++ [closing]) := by
  refine ⟨minus_eq (indexOf_append suffix), ?_⟩
  have split : inner ++ closing :: after = (inner ++ [closing]) ++ after := by
    rw [List.append_assoc, List.singleton_append]
  have whole : (inner ++ [closing]).length = inner.length + 1 := List.length_append
  rw [split] at suffix ⊢
  rw [← whole]
  exact substr_indexOf suffix

/-! ## The readers -/

/-- The last character of an array stays the last one, in front of any part of it. -/
theorem getLast?_suffix {array part : Text} {last : Char} (suffix : part <:+ array)
    (nonempty : part ≠ []) (closed : array.getLast? = some last) : part.getLast? = some last := by
  obtain ⟨before, rfl⟩ := suffix
  rwa [List.getLast?_append_of_ne_nil _ nonempty] at closed

/-- White space does not reach the end of an array. -/
theorem skipWhitespace_ne_nil {part : Text} (closed : part.getLast? = some ']') :
    Protocol.skipWhitespace part ≠ [] := by
  intro blank
  have spaces := List.dropWhile_eq_nil_iff.mp blank ']' (List.mem_of_getLast? closed)
  exact absurd spaces (by decide)

theorem readDelimited_eq (opening closing : Char) (kind : String) (json : Text) (key : String) :
    readDelimited opening closing kind json key =
      lift (Protocol.readDelimited opening closing kind json key) := by
  rw [readDelimited, Protocol.readDelimited]
  obtain ⟨start, suffix, found, here⟩ | ⟨message, missing, here⟩ := findValue_cases json key
  · rw [found, here, Except.ok_bind, Except.ok_bind, startsWith_at suffix, Except.ok_bind]
    by_cases opens : start.head? = some opening
    · rw [decide_eq_true opens, if_pos rfl, require, if_pos opens, Except.ok_bind]
      obtain ⟨inner, after, rfl, matched, place⟩ | ⟨message, unmatched, place⟩ :=
        findMatchingDelimiter_at opening closing suffix
      · obtain ⟨length, cut⟩ := substr_delimited suffix
        rw [matched, place, Except.ok_bind, length, Except.ok_bind, cut]
        rfl
      · rw [unmatched, place]
        rfl
    · rw [decide_eq_false opens, require, if_neg opens]
      rfl
  · rw [missing, here]
    rfl

/-- What is cut out starts and ends with its delimiters. -/
theorem readDelimited_split {opening closing : Char} (differ : opening ≠ closing) {kind : String}
    {json member : Text} {key : String}
    (read : Protocol.readDelimited opening closing kind json key = .ok member) :
    ∃ inner, member = opening :: (inner ++ [closing]) := by
  obtain ⟨start, -, read⟩ := Except.bind_eq_ok.mp read
  obtain ⟨_, opens, read⟩ := Except.bind_eq_ok.mp read
  obtain ⟨⟨consumed, after⟩, matched, returned⟩ := Except.bind_eq_ok.mp read
  cases returned
  rw [require] at opens
  split at opens
  · next isOpen =>
      rw [Protocol.findMatchingDelimiter, if_neg (not_not.mpr isOpen)] at matched
      obtain ⟨inner, rfl, split⟩ := findMatchingDelimiterFrom_split matched
      cases inner with
      | nil =>
          rw [split] at isOpen
          exact absurd (Option.some.inj isOpen).symm differ
      | cons first inner =>
          rw [split] at isOpen
          cases isOpen
          exact ⟨inner, rfl⟩
  · cases opens

/-- A turn of the loop of `readObjectArray`. -/
theorem readObjectsFrom_step {key : String} {array : Text} {back position : Nat}
    (inside : position < back) :
    readObjectsFrom key array back position = (do
      let opening ← itemAt array position
      if opening ≠ '{' then
        invalidArgument ("Protocol: array '" ++ key ++ "' must contain objects")
      else do
        let last ← findMatchingDelimiter array position '{' '}'
        let object ← substr array position ((← minus last position) + 1)
        let behind ← skipWhitespace array (last + 1)
        if behind = back then return [object]
        else do
          let separator ← itemAt array behind
          if separator ≠ ',' then
            invalidArgument ("Protocol: invalid array '" ++ key ++ "'")
          else do
            let next ← skipWhitespace array (behind + 1)
            if next = back then
              invalidArgument ("Protocol: trailing comma in array '" ++ key ++ "'")
            else (object :: ·) <$> readObjectsFrom key array back next) := by
  rw [readObjectsFrom, dif_pos inside]
  refine congrArg (itemAt array position >>= ·) (funext fun opening => ?_)
  split
  · rfl
  · split
    · next found =>
        rw [found]
        rfl
    · next last found =>
        rw [found, Except.ok_bind]
        refine congrArg (minus last position >>= ·) (funext fun difference => ?_)
        refine congrArg (substr array position (difference + 1) >>= ·) (funext fun object => ?_)
        split
        · next skipped =>
            rw [skipped]
            rfl
        · next behind skipped =>
            rw [skipped, Except.ok_bind]
            split
            · rfl
            · refine congrArg (itemAt array behind >>= ·) (funext fun separator => ?_)
              split
              · rfl
              · split
                · next spaces =>
                    rw [spaces]
                    rfl
                · next spaces =>
                    rw [spaces]
                    rfl

/-- The end of an array is reached with its last character. -/
theorem indexOf_eq_back {array part : Text} (suffix : part <:+ array) (nonempty : part ≠ []) :
    indexOf array part = array.length - 1 ↔ part.length = 1 := by
  have total := indexOf_add_length suffix
  have positive := List.length_pos_iff.mpr nonempty
  omega

/-- A turn at an object that is closed in the array. -/
theorem readObjectsFrom_object {array object behind : Text} (key : String)
    (closed : array.getLast? = some ']') (suffix : rest <:+ array) (long : 1 < rest.length)
    (opens : rest.head? = some '{')
    (matched : Protocol.findMatchingDelimiter '{' '}' rest = .ok (object, behind)) :
    Protocol.skipWhitespace behind <:+ array ∧ Protocol.skipWhitespace behind ≠ [] ∧
      readObjectsFrom key array (array.length - 1) (indexOf array rest) = (do
        if (Protocol.skipWhitespace behind).length = 1 then return [object]
        else do
          let separator ← itemAt array (indexOf array (Protocol.skipWhitespace behind))
          if separator ≠ ',' then
            invalidArgument ("Protocol: invalid array '" ++ key ++ "'")
          else do
            let next ← skipWhitespace array (indexOf array (Protocol.skipWhitespace behind) + 1)
            if next = array.length - 1 then
              invalidArgument ("Protocol: trailing comma in array '" ++ key ++ "'")
            else (object :: ·) <$> readObjectsFrom key array (array.length - 1) next) := by
  have total := indexOf_add_length suffix
  have inside : indexOf array rest < array.length - 1 := by omega
  obtain ⟨inner, after, split, found, place⟩ | ⟨other, failed, -⟩ :=
    findMatchingDelimiter_at '{' '}' suffix
  · rw [matched] at found
    cases found
    obtain ⟨first, tail, same⟩ : ∃ first tail, rest = first :: tail :=
      List.exists_cons_of_ne_nil (List.ne_nil_of_length_pos (by omega))
    have isOpen : first = '{' := by
      rw [same] at opens
      exact Option.some.inj opens
    have start : (itemAt array (indexOf array rest) : Checked Char) = .ok '{' := by
      rw [same] at suffix ⊢
      rw [itemAt_indexOf suffix, isOpen]
    subst split
    have closes : '}' :: behind <:+ array := (List.suffix_append ..).trans suffix
    have behindArray : behind <:+ array := (List.suffix_cons ..).trans closes
    have more : behind ≠ [] := by
      rintro rfl
      have last := getLast?_suffix closes (List.cons_ne_nil _ _) closed
      cases last
    have skipped := skipWhitespace_ne_nil (getLast?_suffix behindArray more closed)
    have skippedArray := (skipWhitespace_suffix behind).trans behindArray
    obtain ⟨length, cut⟩ := substr_delimited suffix
    refine ⟨skippedArray, skipped, ?_⟩
    rw [readObjectsFrom_step inside, start, Except.ok_bind, if_neg (not_not.mpr rfl), place,
      Except.ok_bind, length, Except.ok_bind, cut, Except.ok_bind, indexOf_cons closes,
      skipWhitespace_at behindArray, Except.ok_bind]
    simp only [indexOf_eq_back skippedArray skipped]
  · rw [matched] at failed
    cases failed

theorem readObjectsFrom_at {array : Text} (key : String) (closed : array.getLast? = some ']')
    (suffix : rest <:+ array) (nonempty : rest ≠ []) :
    readObjectsFrom key array (array.length - 1) (indexOf array rest) =
      lift (Protocol.readObjectsFrom key rest) := by
  have total := indexOf_add_length suffix
  fun_induction Protocol.readObjectsFrom key rest with
  | case1 rest short =>
      have outside : ¬ indexOf array rest < array.length - 1 := by omega
      rw [readObjectsFrom, dif_neg outside]
      rfl
  | case2 rest long notOpen =>
      have inside : indexOf array rest < array.length - 1 := by omega
      obtain ⟨first, tail, rfl⟩ := List.exists_cons_of_ne_nil nonempty
      rw [readObjectsFrom_step inside, itemAt_indexOf suffix, Except.ok_bind,
        if_pos fun open_ => notOpen (congrArg some open_)]
      rfl
  | case3 rest long opens message unmatched =>
      have inside : indexOf array rest < array.length - 1 := by omega
      obtain ⟨first, tail, rfl⟩ := List.exists_cons_of_ne_nil nonempty
      obtain ⟨inner, after, -, matched, -⟩ | ⟨other, failed, place⟩ :=
        findMatchingDelimiter_at '{' '}' suffix
      · rw [unmatched] at matched
        cases matched
      · rw [unmatched] at failed
        cases failed
        rw [readObjectsFrom_step inside, itemAt_indexOf suffix, Except.ok_bind,
          if_neg fun notOpen => opens fun same => notOpen (Option.some.inj same), place]
        rfl
  | case4 rest long opens object behind matched last spaces =>
      obtain ⟨-, -, turn⟩ := readObjectsFrom_object key closed suffix (not_le.mp long)
        (not_not.mp opens) matched
      rw [turn, spaces]
      exact if_pos rfl
  | case5 rest long opens object behind matched next more spaces trailing =>
      obtain ⟨part, -, turn⟩ := readObjectsFrom_object key closed suffix (not_le.mp long)
        (not_not.mp opens) matched
      rw [spaces] at turn part
      have onward : next <:+ array := (List.suffix_cons ..).trans part
      have length : indexOf array (Protocol.skipWhitespace next) = array.length - 1 := by
        refine (indexOf_eq_back ((skipWhitespace_suffix next).trans onward) ?_).mpr trailing
        exact List.ne_nil_of_length_pos (by omega)
      have notLast : (',' :: next).length ≠ 1 := fun short =>
        more (List.length_eq_zero_iff.mp (Nat.succ.inj short))
      rw [turn, if_neg notLast, itemAt_indexOf part, Except.ok_bind, if_neg (not_not.mpr rfl),
        indexOf_cons part, skipWhitespace_at onward, Except.ok_bind, if_pos length]
      rfl
  | case6 rest long opens object behind matched next more spaces goesOn ih =>
      obtain ⟨part, -, turn⟩ := readObjectsFrom_object key closed suffix (not_le.mp long)
        (not_not.mp opens) matched
      rw [spaces] at turn part
      have onward : next <:+ array := (List.suffix_cons ..).trans part
      have later := (skipWhitespace_suffix next).trans onward
      have nonblank := skipWhitespace_ne_nil (getLast?_suffix onward more closed)
      have notLast : (',' :: next).length ≠ 1 := fun short =>
        more (List.length_eq_zero_iff.mp (Nat.succ.inj short))
      rw [turn, if_neg notLast, itemAt_indexOf part, Except.ok_bind, if_neg (not_not.mpr rfl),
        indexOf_cons part, skipWhitespace_at onward, Except.ok_bind,
        if_neg fun short => goesOn ((indexOf_eq_back later nonblank).mp short),
        ih later nonblank (indexOf_add_length later), lift_map]
  | case7 rest long opens object behind matched notLast noComma =>
      obtain ⟨part, nonblank, turn⟩ := readObjectsFrom_object key closed suffix (not_le.mp long)
        (not_not.mp opens) matched
      obtain ⟨separator, next, spaces⟩ := List.exists_cons_of_ne_nil nonblank
      rw [spaces] at turn part
      have other : separator ≠ ',' := fun comma => noComma next (comma ▸ spaces)
      have more : (separator :: next).length ≠ 1 := fun short =>
        notLast separator (spaces.trans (congrArg _ (List.length_eq_zero_iff.mp
          (Nat.succ.inj short))))
      rw [turn, if_neg more, itemAt_indexOf part, Except.ok_bind, if_pos other]
      rfl

theorem readObjectArray_eq (json : Text) (key : String) :
    readObjectArray json key = lift (Protocol.readObjectArray json key) := by
  rw [readObjectArray, Protocol.readObjectArray, readArray, readDelimited_eq, lift_bind]
  change lift (Protocol.readArray json key) >>= _ = _
  cases read : Protocol.readArray json key with
  | error message => rfl
  | ok array =>
      obtain ⟨inner, rfl⟩ := readDelimited_split (by decide) read
      have closed : ('[' :: (inner ++ [']'])).getLast? = some ']' := by
        rw [← List.cons_append, List.getLast?_concat]
      have tail : inner ++ [']'] <:+ '[' :: (inner ++ [']']) := List.suffix_cons ..
      have start : indexOf ('[' :: (inner ++ [']'])) (inner ++ [']']) = 1 :=
        Nat.add_sub_cancel_left ..
      have part := (skipWhitespace_suffix (inner ++ [']'])).trans tail
      have nonblank := skipWhitespace_ne_nil (getLast?_suffix tail (by simp) closed)
      have back : (minus ('[' :: (inner ++ [']'])).length 1 : Checked Nat) =
          .ok (('[' :: (inner ++ [']'])).length - 1) := minus_eq (Nat.add_comm ..)
      rw [lift_ok, Except.ok_bind, Except.ok_bind, List.tail_cons, ← start, skipWhitespace_at tail,
        Except.ok_bind, start, back, Except.ok_bind]
      by_cases empty : (Protocol.skipWhitespace (inner ++ [']'])).length = 1
      · rw [if_pos ((indexOf_eq_back part nonblank).mpr empty), Protocol.readObjectsFrom,
          if_pos empty.le]
        rfl
      · rw [if_neg fun same => empty ((indexOf_eq_back part nonblank).mp same)]
        exact readObjectsFrom_at key closed part nonblank

theorem readStringFrom_at (suffix : rest <:+ text) (escaped : Bool) :
    readStringFrom text escaped (indexOf text rest) =
      lift (Protocol.readStringFrom escaped rest) := by
  induction rest generalizing escaped with
  | nil =>
      rw [readStringFrom, dif_neg (indexOf_nil text).not_lt]
      rfl
  | cons character rest ih =>
      have behind : rest <:+ text := (List.suffix_cons ..).trans suffix
      rw [readStringFrom, dif_pos (indexOf_lt_length suffix), itemAt_indexOf suffix,
        Except.ok_bind, indexOf_cons suffix, Protocol.readStringFrom, ih behind, ih behind]
      by_cases skips : escaped = true
      · rw [if_pos skips, if_pos skips]
        cases unescape character with
        | none => rfl
        | some meant => exact (lift_map ..).symm
      · rw [if_neg skips, if_neg skips]
        by_cases escape : character = '\\'
        · rw [if_pos escape, if_pos escape]
        · rw [if_neg escape, if_neg escape]
          by_cases quote : character = '"'
          · rw [if_pos quote, if_pos quote]
            rfl
          · rw [if_neg quote, if_neg quote]
            exact (lift_map ..).symm

theorem readString_eq (json : Text) (key : String) :
    readString json key = lift (Protocol.readString json key) := by
  rw [readString, Protocol.readString]
  obtain ⟨start, suffix, found, here⟩ | ⟨message, missing, here⟩ := findValue_cases json key
  · rw [found, here, Except.ok_bind, Except.ok_bind, startsWith_at suffix, Except.ok_bind]
    by_cases quote : start.head? = some '"'
    · obtain ⟨rest, rfl⟩ := List.head?_eq_some_iff.mp quote
      rw [decide_eq_true quote, if_pos rfl, indexOf_cons suffix,
        readStringFrom_at ((List.suffix_cons ..).trans suffix), ← lift_map]
      rfl
    · rw [decide_eq_false quote, if_neg Bool.false_ne_true]
      split
      · exact absurd rfl quote
      · rfl
  · rw [missing, here]
    rfl

theorem readSigned_eq (json : Text) (key : String) :
    readSigned json key = lift (Protocol.readSigned json key) := by
  rw [readSigned, Protocol.readSigned]
  obtain ⟨start, suffix, found, here⟩ | ⟨message, missing, here⟩ := findValue_cases json key
  · have cut : (substr json (indexOf json start) json.length : Checked Text) = .ok start := by
      have inside : indexOf json start ≤ json.length := Nat.sub_le ..
      rw [substr, if_pos inside, drop_indexOf suffix, List.take_of_length_le suffix.length_le]
    rw [found, here, Except.ok_bind, Except.ok_bind, cut, Except.ok_bind, stollUsed]
    cases read : stoll start with
    | none => rfl
    | some result =>
        obtain ⟨value, after⟩ := result
        obtain ⟨part, shorter⟩ := stoll_split read
        have behind := part.trans suffix
        have place : indexOf json start + (start.length - after.length) = indexOf json after := by
          have left := indexOf_add_length suffix
          have right := indexOf_add_length behind
          omega
        have used : start.length - after.length ≠ 0 := by omega
        have skipped := (skipWhitespace_suffix after).trans behind
        simp only [Option.map_some, place, skipWhitespace_at behind, Except.ok_bind, used,
          ne_eq, not_false_eq_true, true_and]
        cases spaces : Protocol.skipWhitespace after with
        | nil =>
            have open_ : endsNumber after = false := by rw [endsNumber, spaces]
            rw [if_neg (indexOf_nil json).not_lt, open_]
            rfl
        | cons character rest =>
            have ends : endsNumber after =
                decide (character = ',' ∨ character = '}' ∨ character = ']') := by
              rw [endsNumber, spaces]
              simp only [Bool.decide_or, Bool.or_assoc]
            rw [spaces] at skipped
            rw [if_pos (indexOf_lt_length skipped), itemAt_indexOf skipped, Except.ok_bind, ends]
            by_cases closes : character = ',' ∨ character = '}' ∨ character = ']'
            · rw [if_pos closes, decide_eq_true closes]
              rfl
            · rw [if_neg closes, decide_eq_false closes]
              rfl
  · rw [missing, here]
    rfl

theorem readBool_eq (json : Text) (key : String) :
    readBool json key = lift (Protocol.readBool json key) := by
  rw [readBool, Protocol.readBool]
  obtain ⟨start, suffix, found, here⟩ | ⟨message, missing, here⟩ := findValue_cases json key
  · have cut : ∀ count, (substr json (indexOf json start) count : Checked Text) =
        .ok (start.take count) := by
      intro count
      have inside : indexOf json start ≤ json.length := Nat.sub_le ..
      rw [substr, if_pos inside, drop_indexOf suffix]
    have isPrefix : ∀ word : Text,
        start.take word.length = word ↔ word.isPrefixOf start = true := by
      intro word
      rw [List.isPrefixOf_iff_prefix, List.prefix_iff_eq_take, eq_comm]
    have yes : start.take 4 = "true".toList ↔ _ := isPrefix "true".toList
    have no : start.take 5 = "false".toList ↔ _ := isPrefix "false".toList
    rw [found, here, Except.ok_bind, Except.ok_bind, cut, Except.ok_bind]
    by_cases isTrue : "true".toList.isPrefixOf start = true
    · rw [if_pos (yes.mpr isTrue), if_pos isTrue]
      rfl
    · rw [if_neg fun same => isTrue (yes.mp same), if_neg isTrue, cut, Except.ok_bind]
      by_cases isFalse : "false".toList.isPrefixOf start = true
      · rw [if_pos (no.mpr isFalse), if_pos isFalse]
        rfl
      · rw [if_neg fun same => isFalse (no.mp same), if_neg isFalse]
        rfl
  · rw [missing, here]
    rfl

theorem readInt_eq (json : Text) (key : String) :
    readInt json key = lift (Protocol.readInt json key) := by
  simp only [readInt, Protocol.readInt, readSigned_eq, lift_bind, lift_pure]

theorem readUnsigned_eq (json : Text) (key : String) :
    readUnsigned json key = lift (Protocol.readUnsigned json key) := by
  simp only [readUnsigned, Protocol.readUnsigned, readSigned_eq, lift_bind, lift_pure]

theorem readObject_eq (json : Text) (key : String) :
    readObject json key = lift (Protocol.readObject json key) :=
  readDelimited_eq ..

theorem readPosition_eq (allowUnused : Bool) (json : Text) (key : String) :
    readPosition allowUnused json key = lift (Protocol.readPosition allowUnused json key) := by
  simp only [readPosition, Protocol.readPosition, readObject_eq, readInt_eq, lift_bind, lift_pure]

/-! ## The decoder -/

theorem readPiece_eq (object : Text) : readPiece object = lift (Protocol.readPiece object) := by
  simp only [readPiece, Protocol.readPiece, readInt_eq, readString_eq, readPosition_eq,
    readBool_eq, readSigned_eq, lift_bind, lift_pure]

theorem readMotion_eq (object : Text) : readMotion object = lift (Protocol.readMotion object) := by
  simp only [readMotion, Protocol.readMotion, readInt_eq, readPosition_eq, readBool_eq,
    readSigned_eq, lift_bind, lift_pure]

theorem readJump_eq (object : Text) : readJump object = lift (Protocol.readJump object) := by
  simp only [readJump, Protocol.readJump, readInt_eq, readPosition_eq, readSigned_eq, lift_bind,
    lift_pure]

theorem readHistory_eq (object : Text) :
    readHistory object = lift (Protocol.readHistory object) := by
  simp only [readHistory, Protocol.readHistory, readString_eq, readPosition_eq, readBool_eq,
    readSigned_eq, lift_bind, lift_pure]

theorem readAll_eq {Item : Type} {indexed : Text → Checked Item}
    {read : Text → Except String Item} (agrees : ∀ object, indexed object = lift (read object))
    (json : Text) (key : String) :
    readAll indexed json key = lift (Protocol.readAll read json key) := by
  have same : indexed = fun object => lift (read object) := funext agrees
  simp only [readAll, Protocol.readAll, readObjectArray_eq, same, lift_mapM, lift_bind]

theorem readSnapshot_eq (object : Text) :
    readSnapshot object = lift (Protocol.readSnapshot object) := by
  simp only [readSnapshot, Protocol.readSnapshot, readSigned_eq, readBool_eq, readInt_eq,
    readString_eq, readAll_eq readPiece_eq, readAll_eq readMotion_eq, readAll_eq readJump_eq,
    readAll_eq readHistory_eq, lift_bind, lift_pure]

theorem readSnapshotMember_eq (hasSnapshot : Bool) (json : Text) :
    readSnapshotMember hasSnapshot json = lift (Protocol.readSnapshotMember hasSnapshot json) := by
  rw [readSnapshotMember, Protocol.readSnapshotMember]
  cases hasSnapshot with
  | true => simp only [if_true, readObject_eq, readSnapshot_eq, lift_bind]
  | false => rfl

/-- **The decoder by positions is the decoder on parts.** -/
theorem deserialize_eq (json : Text) : deserialize json = lift (Protocol.deserialize json) := by
  have enclosed : isObject json =
      .ok (decide (json.head? = some '{' ∧ json.getLast? = some '}')) := by
    rw [isObject]
    by_cases empty : json = []
    · rw [if_pos empty, empty]
      rfl
    · rw [if_neg empty]
      exact isEnclosed_eq empty
  simp only [deserialize, Protocol.deserialize, enclosed, Except.ok_bind, readSigned_eq,
    readString_eq, readUnsigned_eq, readPosition_eq, readBool_eq, readInt_eq,
    readSnapshotMember_eq, lift_bind, lift_pure, decide_eq_true_eq]

/-- **The decoder is total**: whatever the text, no access is out of range, and a message is
returned or an invalid argument is thrown, as by the decoder on parts. -/
theorem deserialize_total (json : Text) :
    (∃ message, deserialize json = .ok message ∧ Protocol.deserialize json = .ok message) ∨
      ∃ text, deserialize json = .error (.thrown text) ∧
        Protocol.deserialize json = .error text := by
  rw [deserialize_eq]
  obtain ⟨message, returned, same⟩ | ⟨text, thrown, same⟩ := lift_cases (Protocol.deserialize json)
  · exact .inl ⟨message, same, returned⟩
  · exact .inr ⟨text, same, thrown⟩

end Indexed

end Protocol

end KungFuChess

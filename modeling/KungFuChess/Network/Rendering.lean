import KungFuChess.Network.RoundTrip

/-!
# Reading other renderings

The codec writes without blanks and in a fixed order. The reader takes every other
rendering of what it writes as well: blanks between the tokens, other orders of the
members and further members make no difference (`deserialize_respelled`).

A text without blanks splits into its tokens in one way, since the scans are functions.
So the members of a rendering are those that were written, and every reader finds
under its key a rendering of the value that it finds in the text itself.
-/

set_option autoImplicit false

namespace KungFuChess

open JsonText

namespace Protocol

/-! ## Texts without blanks split in one way -/

def isBare (character : Char) : Bool := decide (Bare character)

/-- The value that a text starts with, and what is behind it. -/
def splitValue (text : Text) : Except String (Text × Text) :=
  match text with
  | '"' :: rest => Prod.map quoted id <$> findStringEnd false rest
  | '{' :: _ => findMatchingDelimiter '{' '}' text
  | '[' :: _ => findMatchingDelimiter '[' ']' text
  | _ => .ok (text.takeWhile isBare, text.dropWhile isBare)

/-- A scalar ends here. -/
def Stops (tail : Text) : Prop := ∃ character rest, tail = character :: rest ∧ ¬ Bare character

theorem splitValue_compact {text tail : Text} (compact : Compact text) (stops : Stops tail) :
    splitValue (text ++ tail) = .ok (text, tail) := by
  cases compact with
  | scalar written bare =>
      obtain ⟨stop, rest, rfl, notBare⟩ := stops
      obtain ⟨first, others, rfl⟩ := List.exists_cons_of_ne_nil written
      have start := bare first (List.mem_cons_self ..)
      have here : ∀ character ∈ first :: others, isBare character = true :=
        fun character member => decide_eq_true (bare character member)
      have ends : ¬ isBare stop = true := fun bare => notBare (of_decide_eq_true bare)
      unfold splitValue
      split
      · next same =>
          cases same
          exact absurd start (by decide)
      · next same =>
          cases same
          exact absurd start (by decide)
      · next same =>
          cases same
          exact absurd start (by decide)
      · rw [List.takeWhile_append_of_pos here, List.dropWhile_append_of_pos here,
          List.takeWhile_cons_of_neg ends, List.dropWhile_cons_of_neg ends, List.append_nil]
  | string closed =>
      rw [quoted, List.cons_append, List.append_assoc, List.singleton_append, splitValue,
        findStringEnd_closed closed]
      rfl
  | @array rows _ each spaced =>
      have balanced : Balanced (separated (rows.map Prod.fst)) := by
        refine .separated (List.forall_mem_map.mpr fun row member => ?_)
        exact (each row member).compact.value.balanced
      exact findMatchingDelimiter_delimited (.inr ⟨rfl, rfl⟩) balanced tail
  | @object entries _ _ _ keys each =>
      have proper : Proper (entries.map Rewritten.before) :=
        List.forall_mem_map.mpr fun entry member =>
          ⟨keys entry member, (each entry member).compact.value⟩
      exact findMatchingDelimiter_delimited (.inl ⟨rfl, rfl⟩) (members_balanced proper) tail

theorem compact_unique {text other tail behind : Text} (left : Compact text)
    (right : Compact other) (leftStops : Stops tail) (rightStops : Stops behind)
    (same : text ++ tail = other ++ behind) : text = other ∧ tail = behind := by
  have split := splitValue_compact left leftStops
  rw [same, splitValue_compact right rightStops] at split
  cases split
  exact ⟨rfl, rfl⟩

theorem member_unique {entry other : Member} {tail behind : Text}
    (left : Closed entry.1.toList ∧ Compact entry.2)
    (right : Closed other.1.toList ∧ Compact other.2)
    (leftStops : Stops tail) (rightStops : Stops behind)
    (same : member entry ++ tail = member other ++ behind) : entry = other ∧ tail = behind := by
  simp only [member, quoted, List.cons_append, List.append_assoc, List.nil_append,
    List.cons.injEq, true_and] at same
  have split := findStringEnd_closed left.1 (':' :: (entry.2 ++ tail))
  rw [same, findStringEnd_closed right.1, Except.ok.injEq, Prod.mk.injEq, List.cons.injEq] at split
  obtain ⟨keys, -, values⟩ := split
  obtain ⟨value, rest⟩ := compact_unique left.2 right.2 leftStops rightStops values.symm
  exact ⟨Prod.ext (String.toList_inj.mp keys.symm) value, rest⟩

section Separated

variable {Item : Type} {write : Item → Text} {good : Item → Prop} {closing : Char}

/-- Items whose texts split in one way, up to a comma or the closing delimiter. -/
theorem others_unique (closes : ¬ Bare closing ∧ closing ≠ ',')
    (unique : ∀ {item other : Item} {tail behind : Text}, good item → good other → Stops tail →
      Stops behind → write item ++ tail = write other ++ behind → item = other ∧ tail = behind) :
    ∀ {items others : List Item}, (∀ item ∈ items, good item) → (∀ other ∈ others, good other) →
      (items.map write).flatMap (',' :: ·) ++ [closing] =
        (others.map write).flatMap (',' :: ·) ++ [closing] → items = others := by
  have stops : ∀ items : List Item, Stops ((items.map write).flatMap (',' :: ·) ++ [closing]) := by
    intro items
    cases items with
    | nil => exact ⟨closing, [], rfl, closes.1⟩
    | cons item items => exact ⟨',', _, rfl, by decide⟩
  intro items
  induction items with
  | nil =>
      intro others _ _ same
      cases others with
      | nil => rfl
      | cons other others => exact absurd (List.cons.inj same).1 closes.2
  | cons item items ih =>
      intro others left right same
      cases others with
      | nil => exact absurd (List.cons.inj same).1.symm closes.2
      | cons other others =>
          simp only [List.map_cons, List.flatMap_cons, List.cons_append, List.append_assoc,
            List.cons.injEq, true_and] at same
          obtain ⟨rfl, rest⟩ := unique (left item (List.mem_cons_self ..))
            (right other (List.mem_cons_self ..)) (stops items) (stops others) same
          rw [ih (fun item member => left item (List.mem_cons_of_mem _ member))
            (fun other member => right other (List.mem_cons_of_mem _ member)) rest]

theorem separated_unique (closes : ¬ Bare closing ∧ closing ≠ ',')
    (unique : ∀ {item other : Item} {tail behind : Text}, good item → good other → Stops tail →
      Stops behind → write item ++ tail = write other ++ behind → item = other ∧ tail = behind)
    (written : ∀ {item : Item}, good item → write item ≠ []) {items others : List Item}
    (left : ∀ item ∈ items, good item) (right : ∀ other ∈ others, good other)
    (same : separated (items.map write) ++ [closing] = separated (others.map write) ++ [closing]) :
    items = others := by
  have apart : ∀ {item : Item} {rest : Text}, good item →
      [closing] ≠ write item ++ (rest ++ [closing]) := by
    intro item rest isGood same
    have lengths := congrArg List.length same
    simp only [List.length_append, List.length_cons, List.length_nil] at lengths
    have some := List.length_pos_of_ne_nil (written isGood)
    omega
  cases items with
  | nil =>
      cases others with
      | nil => rfl
      | cons other others =>
          rw [List.map_cons, separated, List.append_assoc] at same
          exact absurd same (apart (right other (List.mem_cons_self ..)))
  | cons item items =>
      cases others with
      | nil =>
          rw [List.map_cons, separated, List.append_assoc] at same
          exact absurd same.symm (apart (left item (List.mem_cons_self ..)))
      | cons other others =>
          exact others_unique closes unique left right (congrArg (',' :: ·) same)

end Separated

/-- **An object without blanks has one list of members.** -/
theorem object_unique {members others : List Member} (left : CompactMembers members)
    (right : CompactMembers others) (same : object members = object others) : members = others :=
  separated_unique ⟨by decide, by decide⟩ member_unique (fun _ => List.cons_ne_nil _ _) left right
    (List.cons.inj same).2

theorem array_unique {items others : List Text} (left : ∀ item ∈ items, Compact item)
    (right : ∀ other ∈ others, Compact other) (same : array items = array others) :
    items = others := by
  have written : ∀ {item : Text}, Compact item → item ≠ [] := by
    rintro _ compact rfl
    obtain ⟨character, rest, impossible, -⟩ := compact.value.start
    cases impossible
  have inside : separated (items.map id) ++ [']'] = separated (others.map id) ++ [']'] := by
    rw [List.map_id, List.map_id]
    exact (List.cons.inj same).2
  exact separated_unique ⟨by decide, by decide⟩ compact_unique written left right inside

/-! ## What a rendering renders -/

/-- The renderings of an array render its items. -/
theorem respells_array {items : List Text} {text : Text} (compact : ∀ item ∈ items, Compact item)
    (respells : Respells (array items) text) :
    ∃ others, List.Forall₂ Respells items others ∧ SpacedArray others text := by
  generalize same : array items = source at respells
  cases respells with
  | scalar _ bare =>
      subst same
      exact absurd (bare _ (List.mem_cons_self ..)) (by decide)
  | string => exact absurd (List.cons.inj same).1 (by decide)
  | @array rows _ each spaced =>
      obtain rfl := array_unique compact
        (List.forall_mem_map.mpr fun row member => (each row member).compact) same
      refine ⟨_, ?_, spaced⟩
      rw [List.forall₂_map_left_iff, List.forall₂_map_right_iff, List.forall₂_same]
      exact each
  | object => exact absurd (List.cons.inj same).1 (by decide)

/-- In a list of members with one value for the key, the value is found. -/
theorem lookup_of_unique {members : List Member} {key : String} {value : Text}
    (here : (key, value) ∈ members) (unique : ∀ other, (key, other) ∈ members → other = value) :
    members.lookup key = some value := by
  induction members with
  | nil => cases here
  | cons entry members ih =>
      obtain ⟨name, first⟩ := entry
      rw [List.lookup_cons]
      split
      · next same =>
          obtain rfl : key = name := beq_iff_eq.mp same
          rw [unique first (List.mem_cons_self ..)]
      · next distinct =>
          rcases List.mem_cons.mp here with same | later
          · cases same
            rw [beq_self_eq_true] at distinct
            cases distinct
          · exact ih later fun other member => unique other (List.mem_cons_of_mem _ member)

theorem mem_of_lookup {members : List Member} {key : String} {value : Text}
    (found : members.lookup key = some value) : (key, value) ∈ members := by
  obtain ⟨before, after, rfl, -⟩ := List.lookup_eq_some_iff.mp found
  exact List.mem_append_right _ (List.mem_cons_self ..)

/-- A text renders an object with these members: under each key the scan finds a rendering of its
value. -/
structure Rendered (members : List Member) (text : Text) : Prop where
  isObject : IsObject text
  reads : ∀ {key : String} {value : Text}, members.lookup key = some value →
    ∃ other, Respells value other ∧ Reads text key other

/-- **The renderings of an object render its members**, in any order, with blanks and with other
members. -/
theorem rendered_of_respells {members : List Member} {text : Text}
    (compact : CompactMembers members) (distinct : (members.map Prod.fst).Nodup)
    (respells : Respells (object members) text) : Rendered members text := by
  generalize same : object members = source at respells
  cases respells with
  | scalar _ bare =>
      subst same
      exact absurd (bare _ (List.mem_cons_self ..)) (by decide)
  | string | array => exact absurd (List.cons.inj same).1 (by decide)
  | @object entries extras others text keys each names values order spaced =>
      obtain rfl := object_unique compact (List.forall_mem_map.mpr fun entry member =>
        ⟨keys entry member, (each entry member).compact⟩) same
      have proper : Proper others := proper_rendering keys
        (fun entry member => (each entry member).value) names values order
      refine ⟨?_, fun {key value} found => ?_⟩
      · obtain ⟨padded, body, pairs, isBody, rfl⟩ := spaced
        exact ⟨body, isBody.balanced (forall_of_forall₂ pairs fun entry member _ padded =>
          padded.balanced (proper entry member).1 (proper entry member).2), rfl⟩
      · obtain ⟨entry, isEntry, own⟩ := List.mem_map.mp (mem_of_lookup found)
        cases own
        refine ⟨entry.now, each entry isEntry, reads_spaced proper spaced (lookup_of_unique ?_ ?_)⟩
        · exact order.mem_iff.mpr (List.mem_append_left _ (List.mem_map.mpr ⟨entry, isEntry, rfl⟩))
        · intro now member
          rcases List.mem_append.mp (order.mem_iff.mp member) with known | extra
          · obtain ⟨other, isOther, named⟩ := List.mem_map.mp known
            rw [List.map_map] at distinct
            have sameKey : other.key = entry.key := congrArg Prod.fst named
            rw [← List.inj_on_of_nodup_map distinct isOther isEntry sameKey]
            exact (congrArg Prod.snd named).symm
          · exact absurd rfl ((names _ extra).2 entry isEntry)

/-! ## Readers that do not tell renderings apart -/

theorem boolean_bare (value : Bool) : ∀ character ∈ boolean value, Bare character := by
  cases value <;> decide

theorem compact_number (value : Int) : Compact (number value) :=
  .scalar (number_written value) (number_bare value)

theorem compact_boolean (value : Bool) : Compact (boolean value) :=
  .scalar (by cases value <;> decide) (boolean_bare value)

/-- The text is that of a string, and is read as the value. -/
theorem Spells.compact {value : String} {text : Text} (spells : Spells value text) :
    Compact text := by
  obtain ⟨raw, rfl, closed, -⟩ := spells
  exact .string closed

theorem spells_string {value : String} {text : Text} (written : string value = .ok text) :
    Spells value text := by
  obtain ⟨raw, escaped, rfl⟩ := Except.map_eq_ok.mp written
  obtain ⟨closed, -, reads⟩ := escapeJson_reads escaped
  exact ⟨raw, rfl, closed, reads⟩

/-- All renderings of a text are objects that a reader does not tell apart. -/
structure ReadAlike {Item : Type} (read : Text → Except String Item) (text : Text) : Prop where
  compact : Compact text
  isObject : ∀ other, Respells text other → IsObject other
  alike : ∀ other, Respells text other → read other = read text

section Alike

variable {members : List Member} {first second : Text} (one : Rendered members first)
  (two : Rendered members second) {key : String}

include one

theorem Rendered.number {value : Int} (found : members.lookup key = some (number value)) :
    Reads first key (number value) := by
  obtain ⟨other, respells, reads⟩ := one.reads found
  rwa [respells.eq_of_bare (number_bare value)] at reads

theorem Rendered.readBool {value : Bool} (found : members.lookup key = some (boolean value)) :
    readBool first key = .ok value := by
  obtain ⟨other, respells, reads⟩ := one.reads found
  rw [respells.eq_of_bare (boolean_bare value)] at reads
  exact readBool_reads reads

theorem Rendered.readString {value : String} {text : Text} (spells : Spells value text)
    (found : members.lookup key = some text) : readString first key = .ok value := by
  obtain ⟨other, respells, reads⟩ := one.reads found
  obtain ⟨raw, rfl, closed, spelled⟩ := spells
  rw [respells.eq_of_quoted] at reads
  exact readString_reads ⟨raw, rfl, closed, spelled⟩ reads

include two

theorem readSigned_alike {value : Int} (found : members.lookup key = some (number value)) :
    readSigned first key = readSigned second key := by
  rw [readSigned_reads (one.number found), readSigned_reads (two.number found)]

theorem readInt_alike {value : Int} (found : members.lookup key = some (number value)) :
    readInt first key = readInt second key := by
  rw [readInt, readInt, readSigned_alike one two found]

theorem readUnsigned_alike {value : Int} (found : members.lookup key = some (number value)) :
    readUnsigned first key = readUnsigned second key := by
  rw [readUnsigned, readUnsigned, readSigned_alike one two found]

/-- A member that holds an object is read alike when the object is. -/
theorem readObject_alike {Item : Type} {read : Text → Except String Item} {text : Text}
    (found : members.lookup key = some text) (item : ReadAlike read text) :
    (readObject first key >>= read) = (readObject second key >>= read) := by
  obtain ⟨left, leftRespells, leftReads⟩ := one.reads found
  obtain ⟨right, rightRespells, rightReads⟩ := two.reads found
  rw [readObject_reads (item.isObject left leftRespells) leftReads,
    readObject_reads (item.isObject right rightRespells) rightReads, Except.ok_bind,
    Except.ok_bind, item.alike left leftRespells, item.alike right rightRespells]

/-- Also a member that holds an array of objects. -/
theorem readAll_alike {Item : Type} {read : Text → Except String Item} {items : List Text}
    (found : members.lookup key = some (array items)) (each : ∀ item ∈ items, ReadAlike read item) :
    readAll read first key = readAll read second key := by
  have loop : ∀ {text : Text}, Rendered members text →
      readAll read text key = items.mapM read := by
    intro text rendered
    obtain ⟨other, respells, reads⟩ := rendered.reads found
    obtain ⟨others, pairs, spaced⟩ :=
      respells_array (fun item member => (each item member).compact) respells
    rw [readAll, readObjectArray_reads reads spaced (forall_of_forall₂ pairs
      fun item member other respells => (each item member).isObject other respells), Except.ok_bind]
    clear found reads spaced respells
    induction pairs with
    | nil => rfl
    | cons first _ ih =>
        rw [List.mapM_cons, List.mapM_cons, ih fun item member =>
          each item (List.mem_cons_of_mem _ member),
          (each _ (List.mem_cons_self ..)).alike _ first]
  rw [loop one, loop two]

end Alike

/-- An object is read alike when it is read off its members. -/
theorem ReadAlike.object {Item : Type} {read : Text → Except String Item} {members : List Member}
    (compact : CompactMembers members) (distinct : (members.map Prod.fst).Nodup)
    (alike : ∀ first second, Rendered members first → Rendered members second →
      read first = read second) : ReadAlike read (object members) where
  compact := compact.object
  isObject := fun _ respells => (rendered_of_respells compact distinct respells).isObject
  alike := fun _ respells => alike _ _ (rendered_of_respells compact distinct respells)
    (rendered_of_respells compact distinct compact.object)

/-! ## Records -/

/-- What is read of a position. -/
theorem readAlike_position (position : Position) {Item : Type} {read : Text → Except String Item}
    (cell : ∀ first second, readInt first "row" = readInt second "row" →
      readInt first "col" = readInt second "col" → read first = read second) :
    ReadAlike read (writePosition position) :=
  .object (.cons (by decide) (compact_number _) (.cons (by decide) (compact_number _) .nil))
    (by simp) fun first second one two =>
      cell first second (readInt_alike one two rfl) (readInt_alike one two rfl)

theorem compact_position (position : Position) : Compact (writePosition position) :=
  CompactMembers.object
    (.cons (by decide) (compact_number _) (.cons (by decide) (compact_number _) .nil))

theorem readPosition_alike {members : List Member} {first second : Text}
    (one : Rendered members first) (two : Rendered members second) {key : String}
    {position : Position} (found : members.lookup key = some (writePosition position))
    (allowUnused : Bool) :
    readPosition allowUnused first key = readPosition allowUnused second key := by
  refine readObject_alike one two found (readAlike_position position fun first second row col => ?_)
  rw [row, col]

theorem readAlike_piece {piece : PieceSnapshot} {text : Text}
    (written : writePiece piece = .ok text) : ReadAlike readPiece text := by
  obtain ⟨token, tokenWritten, written⟩ := Except.bind_eq_ok.mp written
  obtain ⟨state, stateWritten, written⟩ := Except.bind_eq_ok.mp written
  cases written
  have tokenSpells := spells_string tokenWritten
  have stateSpells := spells_string stateWritten
  refine .object (.cons (by decide) (compact_number _) <| .cons (by decide) tokenSpells.compact <|
    .cons (by decide) (compact_position _) <| .cons (by decide) stateSpells.compact <|
    .cons (by decide) (compact_boolean _) <| .cons (by decide) (compact_number _) <|
    .cons (by decide) (compact_number _) .nil) (by simp) fun first second one two => ?_
  rw [readPiece, readPiece, readInt_alike one two rfl, one.readString tokenSpells rfl,
    two.readString tokenSpells rfl, readPosition_alike one two rfl,
    one.readString stateSpells rfl, two.readString stateSpells rfl, one.readBool rfl,
    two.readBool rfl, readSigned_alike one two rfl, readSigned_alike one two rfl]

theorem readAlike_motion (motion : MotionSnapshot) : ReadAlike readMotion (writeMotion motion) := by
  refine .object (.cons (by decide) (compact_number _) <| .cons (by decide) (compact_position _) <|
    .cons (by decide) (compact_position _) <| .cons (by decide) (compact_position _) <|
    .cons (by decide) (compact_number _) <| .cons (by decide) (compact_number _) <|
    .cons (by decide) (compact_boolean _) <| .cons (by decide) (compact_number _) <|
    .cons (by decide) (compact_number _) <| .cons (by decide) (compact_number _) .nil) (by simp)
    fun first second one two => ?_
  rw [readMotion, readMotion, readInt_alike one two rfl, readPosition_alike one two rfl,
    readPosition_alike one two rfl, readPosition_alike one two rfl, readInt_alike one two rfl,
    readInt_alike one two rfl, one.readBool rfl, two.readBool rfl, readSigned_alike one two rfl,
    readSigned_alike one two rfl, readInt_alike one two rfl]

theorem readAlike_jump (jump : JumpSnapshot) : ReadAlike readJump (writeJump jump) := by
  refine .object (.cons (by decide) (compact_number _) <| .cons (by decide) (compact_position _) <|
    .cons (by decide) (compact_number _) .nil) (by simp) fun first second one two => ?_
  rw [readJump, readJump, readInt_alike one two rfl, readPosition_alike one two rfl,
    readSigned_alike one two rfl]

theorem readAlike_history {history : MoveHistorySnapshot} {text : Text}
    (written : writeHistory history = .ok text) : ReadAlike readHistory text := by
  obtain ⟨color, colorWritten, written⟩ := Except.bind_eq_ok.mp written
  obtain ⟨kind, kindWritten, written⟩ := Except.bind_eq_ok.mp written
  obtain ⟨shown, shownWritten, written⟩ := Except.bind_eq_ok.mp written
  cases written
  have colorSpells := spells_string colorWritten
  have kindSpells := spells_string kindWritten
  have shownSpells := spells_string shownWritten
  refine .object (.cons (by decide) (compact_number _) <| .cons (by decide) colorSpells.compact <|
    .cons (by decide) kindSpells.compact <| .cons (by decide) (compact_position _) <|
    .cons (by decide) (compact_position _) <| .cons (by decide) (compact_boolean _) <|
    .cons (by decide) (compact_boolean _) <| .cons (by decide) (compact_boolean _) <|
    .cons (by decide) shownSpells.compact .nil) (by simp) fun first second one two => ?_
  rw [readHistory, readHistory, readSigned_alike one two rfl, one.readString colorSpells rfl,
    two.readString colorSpells rfl, one.readString kindSpells rfl, two.readString kindSpells rfl,
    readPosition_alike one two rfl, readPosition_alike one two rfl, one.readBool rfl,
    two.readBool rfl, one.readBool rfl, two.readBool rfl, one.readBool rfl, two.readBool rfl,
    one.readString shownSpells rfl, two.readString shownSpells rfl]

/-- Every item of an array that was written is read alike. -/
theorem readAlike_mapM {Record : Type} {write : Record → Except String Text}
    {read : Text → Except String Record} {records : List Record} {texts : List Text}
    (written : records.mapM write = .ok texts)
    (each : ∀ record text, write record = .ok text → ReadAlike read text) :
    ∀ text ∈ texts, ReadAlike read text :=
  forall_of_forall₂ (Except.mapM_eq_ok.mp written) fun record _ => each record

theorem compact_records {Record : Type} {read : Text → Except String Record} {texts : List Text}
    (each : ∀ text ∈ texts, ReadAlike read text) : Compact (array texts) :=
  .array fun text member => (each text member).compact

theorem readAlike_snapshot {snapshot : GameStateSnapshot} {text : Text}
    (written : writeSnapshot snapshot = .ok text) : ReadAlike readSnapshot text := by
  obtain ⟨white, whiteWritten, written⟩ := Except.bind_eq_ok.mp written
  obtain ⟨black, blackWritten, written⟩ := Except.bind_eq_ok.mp written
  obtain ⟨pieces, piecesWritten, written⟩ := Except.bind_eq_ok.mp written
  obtain ⟨whiteMoves, whiteMovesWritten, written⟩ := Except.bind_eq_ok.mp written
  obtain ⟨blackMoves, blackMovesWritten, written⟩ := Except.bind_eq_ok.mp written
  cases written
  have whiteSpells := spells_string whiteWritten
  have blackSpells := spells_string blackWritten
  have piecesAlike := readAlike_mapM piecesWritten fun _ _ => readAlike_piece
  have motionsAlike : ∀ text ∈ snapshot.motions.map writeMotion, ReadAlike readMotion text :=
    List.forall_mem_map.mpr fun motion _ => readAlike_motion motion
  have jumpsAlike : ∀ text ∈ snapshot.jumps.map writeJump, ReadAlike readJump text :=
    List.forall_mem_map.mpr fun jump _ => readAlike_jump jump
  have whiteAlike := readAlike_mapM whiteMovesWritten fun _ _ => readAlike_history
  have blackAlike := readAlike_mapM blackMovesWritten fun _ _ => readAlike_history
  refine .object (.cons (by decide) (compact_number _) <| .cons (by decide) (compact_boolean _) <|
    .cons (by decide) (compact_number _) <| .cons (by decide) (compact_number _) <|
    .cons (by decide) whiteSpells.compact <| .cons (by decide) blackSpells.compact <|
    .cons (by decide) (compact_boolean _) <| .cons (by decide) (compact_number _) <|
    .cons (by decide) (compact_records piecesAlike) <|
    .cons (by decide) (compact_records motionsAlike) <|
    .cons (by decide) (compact_records jumpsAlike) <|
    .cons (by decide) (compact_records whiteAlike) <|
    .cons (by decide) (compact_records blackAlike) .nil) (by simp) fun first second one two => ?_
  rw [readSnapshot, readSnapshot, readSigned_alike one two rfl, one.readBool rfl, two.readBool rfl,
    readInt_alike one two rfl, readInt_alike one two rfl, one.readString whiteSpells rfl,
    two.readString whiteSpells rfl, one.readString blackSpells rfl,
    two.readString blackSpells rfl, one.readBool rfl, two.readBool rfl,
    readSigned_alike one two rfl, readAll_alike one two rfl piecesAlike,
    readAll_alike one two rfl motionsAlike, readAll_alike one two rfl jumpsAlike,
    readAll_alike one two rfl whiteAlike, readAll_alike one two rfl blackAlike]

/-! ## Messages -/

/-- The snapshot of a message is the last member, if there is one. -/
theorem readAlike_snapshotMember {message : Message} {sent : List Member}
    (written : writeSnapshotMember message = .ok sent) :
    (message.hasSnapshot = true ∧ ∃ text, sent = [("snapshot", text)] ∧
      ReadAlike readSnapshot text) ∨
      message.hasSnapshot = false ∧ sent = [] := by
  rw [writeSnapshotMember] at written
  split at written
  · next shown =>
      obtain ⟨text, snapshotWritten, rfl⟩ := Except.map_eq_ok.mp written
      exact .inl ⟨shown, text, rfl, readAlike_snapshot snapshotWritten⟩
  · next absent =>
      cases written
      exact .inr ⟨Bool.eq_false_iff.mpr absent, rfl⟩

theorem IsObject.delimited {text : Text} (isObject : IsObject text) :
    text.head? = some '{' ∧ text.getLast? = some '}' := by
  obtain ⟨inner, -, rfl⟩ := isObject
  exact Protocol.delimited inner

theorem readAlike_message {message : Message} {text : Text}
    (written : serialize message = .ok text) : ReadAlike deserialize text := by
  obtain ⟨reason, reasonWritten, written⟩ := Except.bind_eq_ok.mp written
  obtain ⟨color, colorWritten, written⟩ := Except.bind_eq_ok.mp written
  obtain ⟨token, tokenWritten, written⟩ := Except.bind_eq_ok.mp written
  obtain ⟨name, nameWritten, written⟩ := Except.bind_eq_ok.mp written
  obtain ⟨white, whiteWritten, written⟩ := Except.bind_eq_ok.mp written
  obtain ⟨black, blackWritten, written⟩ := Except.bind_eq_ok.mp written
  obtain ⟨sent, sentWritten, written⟩ := Except.bind_eq_ok.mp written
  cases written
  have type := (spells_type message.type).2
  have reason := spells_string reasonWritten
  have color := spells_string colorWritten
  have token := spells_string tokenWritten
  have name := spells_string nameWritten
  have white := spells_string whiteWritten
  have black := spells_string blackWritten
  have snapshot := readAlike_snapshotMember sentWritten
  have sentCompact : CompactMembers sent := by
    rcases snapshot with ⟨-, text, rfl, item⟩ | ⟨-, rfl⟩
    · exact .cons (by decide) item.compact .nil
    · exact .nil
  refine .object (.append (.cons (by decide) (compact_number _) <|
    .cons (by decide) type.compact <| .cons (by decide) (compact_number _) <|
    .cons (by decide) (compact_position _) <| .cons (by decide) (compact_position _) <|
    .cons (by decide) (compact_boolean _) <| .cons (by decide) reason.compact <|
    .cons (by decide) color.compact <| .cons (by decide) token.compact <|
    .cons (by decide) name.compact <| .cons (by decide) white.compact <|
    .cons (by decide) black.compact <| .cons (by decide) (compact_number _) <|
    .cons (by decide) (compact_number _) <| .cons (by decide) (compact_boolean _) .nil)
    sentCompact) ?_ fun first second one two => ?_
  · rcases snapshot with ⟨-, text, rfl, -⟩ | ⟨-, rfl⟩ <;> simp
  · have sentAlike : readSnapshotMember message.hasSnapshot first =
        readSnapshotMember message.hasSnapshot second := by
      rcases snapshot with ⟨shown, text, rfl, item⟩ | ⟨absent, rfl⟩
      · rw [shown]
        exact readObject_alike one two rfl item
      · rw [absent]
        rfl
    rw [deserialize, deserialize, require_ok one.isObject.delimited,
      require_ok two.isObject.delimited, readSigned_alike one two rfl, one.readString type rfl,
      two.readString type rfl, readUnsigned_alike one two rfl, readPosition_alike one two rfl,
      readPosition_alike one two rfl, one.readBool rfl, two.readBool rfl,
      one.readString reason rfl, two.readString reason rfl, one.readString color rfl,
      two.readString color rfl, one.readString token rfl, two.readString token rfl,
      one.readString name rfl, two.readString name rfl, one.readString white rfl,
      two.readString white rfl, one.readString black rfl, two.readString black rfl,
      readInt_alike one two rfl, readSigned_alike one two rfl, one.readBool rfl, two.readBool rfl]
    simp only [Except.ok_bind, sentAlike]

/-- **Every rendering of a text that was written is read as the text itself**, and so as the
message when this is well-formed. -/
theorem deserialize_respelled {message : Message} {text other : Text}
    (written : serialize message = .ok text) (respells : Respells text other) :
    deserialize other = deserialize text ∧
      (message.WellFormed → deserialize other = .ok message) := by
  have alike := (readAlike_message written).alike other respells
  refine ⟨alike, fun wellFormed => ?_⟩
  obtain ⟨members, itself, -, reads⟩ := carries_message wellFormed
  rw [written, Except.ok.injEq] at itself
  rw [alike, itself, reads]

/-- A string that looks like a member and opens a brace. -/
def note : Member := ("note", quoted "\\\"type\\\":\x7b".toList)

/-- The members in reverse order, behind the note with blanks. -/
def annotated (members : List Member) : Text :=
  '{' :: (separated (([' '] ++ quoted note.1.toList ++ [' ', ':', '\t'] ++ note.2 ++ ['\n']) ::
    members.reverse.map member) ++ ['}'])

theorem respells_annotated {members : List Member} (compact : CompactMembers members)
    (new : ∀ entry ∈ members, "note" ≠ entry.1) :
      Respells (object members) (annotated members) := by
  have each : ∀ entry ∈ members.map Rewritten.same, (Closed entry.key.toList ∧
      Respells entry.was entry.now) ∧ note.1 ≠ entry.key :=
    List.forall_mem_map.mpr fun entry member => ⟨compact entry member, new entry member⟩
  have noteClosed : Closed "\\\"type\\\":\x7b".toList :=
    .escape '"' (.plain (by decide) (by decide) (.plain (by decide) (by decide)
      (.plain (by decide) (by decide) (.plain (by decide) (by decide) (.escape '"'
        (.plain (by decide) (by decide) (.plain (by decide) (by decide) .nil)))))))
  have order : (note :: members.reverse).Perm
      ((members.map Rewritten.same).map Rewritten.after ++ [note]) := by
    rw [Rewritten.map_after_same]
    exact ((List.reverse_perm members).cons note).trans (List.perm_append_singleton note
      members).symm
  have spaced : SpacedObject (note :: members.reverse) (annotated members) := by
    refine ⟨_, _, .cons ⟨[' '] ++ quoted note.1.toList ++ [' '], ['\t'] ++ note.2 ++ ['\n'],
      ⟨[' '], [' '], by decide, by decide, rfl⟩,
      ⟨['\t'], ['\n'], by decide, by decide, rfl⟩, rfl⟩ ?_, .inl rfl, rfl⟩
    rw [List.forall₂_map_right_iff, List.forall₂_same]
    exact fun entry _ => .self entry
  have respells := Respells.object (fun entry member => (each entry member).1.1)
    (fun entry member => (each entry member).1.2)
    (List.forall_mem_singleton.mpr ⟨.of_plain (by decide), fun entry member =>
      (each entry member).2⟩)
    (List.forall_mem_singleton.mpr (.string noteClosed)) order spaced
  rwa [Rewritten.map_before_same] at respells

def fullNotice : Message where
  type := .gameFull

/-- The members of the notice. -/
def fullMembers : List Member :=
  [("version", number version), ("type", quoted "game_full".toList), ("sequence", number 0),
    ("source", writePosition {}), ("destination", writePosition {}), ("accepted", boolean false),
    ("reason", quoted []), ("playerColor", quoted []), ("reconnectToken", quoted []),
    ("username", quoted []), ("whiteUsername", quoted []), ("blackUsername", quoted []),
    ("secondsRemaining", number 0), ("createdAtMs", number 0), ("hasSnapshot", boolean false)]

theorem deserialize_respelled_annotated :
    (serialize fullNotice = .ok (object fullMembers) ∧
        Respells (object fullMembers) (annotated fullMembers)) ∧
      deserialize (annotated fullMembers) = deserialize (object fullMembers) ∧
      (fullNotice.WellFormed → deserialize (annotated fullMembers) = .ok fullNotice) := by
  have written : serialize fullNotice = .ok (object fullMembers) := by decide +kernel
  have empty : Compact (quoted []) := .string .nil
  have compact : CompactMembers fullMembers :=
    .cons (by decide) (compact_number _) <|
    .cons (by decide) (spells_type .gameFull).2.compact <|
    .cons (by decide) (compact_number _) <| .cons (by decide) (compact_position _) <|
    .cons (by decide) (compact_position _) <| .cons (by decide) (compact_boolean _) <|
    .cons (by decide) empty <| .cons (by decide) empty <| .cons (by decide) empty <|
    .cons (by decide) empty <| .cons (by decide) empty <| .cons (by decide) empty <|
    .cons (by decide) (compact_number _) <| .cons (by decide) (compact_number _) <|
    .cons (by decide) (compact_boolean _) .nil
  have respells := respells_annotated compact (by decide)
  exact ⟨⟨written, respells⟩, deserialize_respelled written respells⟩

/-- A message whose time is negative is written, but what is written is refused as it stands. -/
theorem negativeTime_refused :
    ¬ ∀ (message : Message) (text other : Text), serialize message = .ok text →
      Respells text other → deserialize other = .ok message := by
  intro reads
  obtain ⟨text, written⟩ : ∃ text, serialize { fullNotice with createdAtMs := -1 } = .ok text :=
    ⟨_, rfl⟩
  have accepted := reads _ text text written (readAlike_message written).compact
  have refused : (serialize { fullNotice with createdAtMs := -1 } >>= deserialize) =
    .error "Protocol: field 'createdAtMs' cannot be negative" := by decide +kernel
  rw [written, Except.ok_bind, accepted] at refused
  cases refused

end Protocol

end KungFuChess

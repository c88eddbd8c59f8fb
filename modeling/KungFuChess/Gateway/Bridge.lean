import KungFuChess.Network.TcpConnection

/-!
# The bridge

The gateway talks to a game server in the same protocol, but writes its messages with
`json.dumps`: the values a web client sent are rendered as they are, and every
character outside of printable ASCII is escaped. A `str` is a list of code points,
a lone surrogate included.
-/

set_option autoImplicit false

namespace KungFuChess

open JsonText Protocol

/-! ## Python values -/

abbrev CodePoint := Fin 0x110000

abbrev PythonString := List CodePoint

/-- The code point of a character. -/
def codePoint (character : Char) : CodePoint :=
  ⟨character.toNat, character.valid.elim (fun low => low.trans (by decide)) And.right⟩

/-- The code points of a literal. -/
def codePoints (value : String) : PythonString := value.toList.map codePoint

/-- A `float`, by the text that `float.__repr__` gives it. -/
structure PythonFloat where
  text : Text
  written : text ≠ []
  plain : ∀ character ∈ text, character.isAlphanum = true ∨ character ∈ ['+', '-', '.']

/-- What `json.loads` returns. -/
inductive PythonValue where
  | none
  | bool (value : Bool)
  | int (value : Int)
  | float (value : PythonFloat)
  | str (value : PythonString)
  | list (items : List PythonValue)
  | dict (entries : List (PythonString × PythonValue))

namespace PythonValue

/-- A dictionary that is written out. -/
def record (members : List (String × PythonValue)) : PythonValue :=
  .dict (members.map (Prod.map codePoints id))

/-- `dict.get`; a key that is missing is `None`. -/
def get (value : PythonValue) (key : String) : PythonValue :=
  match value with
  | .dict entries => (entries.lookup (codePoints key)).getD .none
  | _ => .none

def isDict : PythonValue → Bool
  | .dict _ => true
  | _ => false

/-- The number of a value that `isinstance(_, int)` accepts; a `bool` is an `int`. -/
def asInt : PythonValue → Option Int
  | .int value => some value
  | .bool value => some (if value then 1 else 0)
  | _ => Option.none

def isBool : PythonValue → Bool
  | .bool _ => true
  | _ => false

/-- The value `or` another one, for values that are `None` or a dictionary. -/
def orElse (value default : PythonValue) : PythonValue :=
  match value with
  | .none => default
  | .dict [] => default
  | _ => value

end PythonValue

/-! ## json.dumps -/

def hexDigit (code place : Nat) : Char := Nat.digitChar (code / place % 16)

def unicodeEscape (code : Nat) : Text :=
  ['\\', 'u', hexDigit code 0x1000, hexDigit code 0x100, hexDigit code 0x10, hexDigit code 1]

/-- The characters with an escape of their own. -/
def shortEscape : Nat → Option Char
  | 0x5C => some '\\'
  | 0x22 => some '"'
  | 0x0A => some 'n'
  | 0x0D => some 'r'
  | 0x09 => some 't'
  | 0x0C => some 'f'
  | 0x08 => some 'b'
  | _ => none

/-- One character of a string, in ASCII. -/
def escapePoint (point : CodePoint) : Text :=
  match shortEscape point.val with
  | some letter => ['\\', letter]
  | none =>
      if 0x20 ≤ point.val ∧ point.val ≤ 0x7E then [Char.ofNat point.val]
      else if point.val < 0x10000 then unicodeEscape point.val
      else unicodeEscape (0xD800 + (point.val - 0x10000) / 0x400) ++
        unicodeEscape (0xDC00 + (point.val - 0x10000) % 0x400)

def escapeString (value : PythonString) : Text := value.flatMap escapePoint

mutual

/-- `json.dumps` with `separators=(",", ":")`. -/
def dumps : PythonValue → Text
  | .none => "null".toList
  | .bool value => boolean value
  | .int value => number value
  | .float value => value.text
  | .str value => quoted (escapeString value)
  | .list items => array (dumpItems items)
  | .dict entries => object (dumpEntries entries)

def dumpItems : List PythonValue → List Text
  | [] => []
  | item :: items => dumps item :: dumpItems items

def dumpEntries : List (PythonString × PythonValue) → List Member
  | [] => []
  | (key, value) :: entries =>
      (String.ofList (escapeString key), dumps value) :: dumpEntries entries

end

/-! ## What is written -/

theorem hexDigit_plain (code place : Nat) :
    (hexDigit code place ≠ '"' ∧ hexDigit code place ≠ '\\') ∧
      0x20 ≤ (hexDigit code place).toNat := by
  have digits : ∀ digit < 16, (Nat.digitChar digit ≠ '"' ∧ Nat.digitChar digit ≠ '\\') ∧
      0x20 ≤ (Nat.digitChar digit).toNat := by decide
  exact digits _ (Nat.mod_lt _ (by decide))

/-- Four hexadecimal digits are closed and visible. -/
theorem unicodeEscape_behind (code : Nat) :
    ∃ rest, unicodeEscape code = '\\' :: 'u' :: rest ∧ Closed rest ∧ Visible rest := by
  refine ⟨_, rfl, .of_plain fun character member => ?_, fun character member => ?_⟩
  all_goals
    simp only [List.mem_cons, List.not_mem_nil, or_false] at member
    obtain rfl | rfl | rfl | rfl := member
  all_goals
    first
      | exact (hexDigit_plain code _).1
      | exact (hexDigit_plain code _).2

theorem shortEscape_cases {code : Nat} {letter : Char} (short : shortEscape code = some letter) :
    code ≤ 0x7E ∧ 0x20 ≤ letter.toNat := by
  unfold shortEscape at short
  split at short <;> cases short <;> decide

/-- A character is written as itself or as an escape. -/
theorem escapePoint_cases (point : CodePoint) :
    (escapePoint point = [Char.ofNat point.val] ∧ 0x20 ≤ point.val ∧ point.val ≤ 0x7E ∧
      point.val ≠ 0x22 ∧ point.val ≠ 0x5C) ∨
    ∃ letter rest, escapePoint point = '\\' :: letter :: rest ∧ 0x20 ≤ letter.toNat ∧
      Closed rest ∧ Visible rest ∧ (letter = 'u' ∨ rest = [] ∧ point.val ≤ 0x7E) := by
  rw [escapePoint]
  cases short : shortEscape point.val with
  | some letter =>
      obtain ⟨low, shown⟩ := shortEscape_cases short
      exact .inr ⟨letter, [], rfl, shown, .nil, .nil, .inr ⟨rfl, low⟩⟩
  | none =>
      by_cases printable : 0x20 ≤ point.val ∧ point.val ≤ 0x7E
      · refine .inl ⟨if_pos printable, printable.1, printable.2, fun quote => ?_, fun escape => ?_⟩
        · rw [quote] at short
          cases short
        · rw [escape] at short
          cases short
      · by_cases small : point.val < 0x10000
        · obtain ⟨rest, escape, closed, visible⟩ := unicodeEscape_behind point.val
          refine .inr ⟨'u', rest, ?_, by decide, closed, visible, .inl rfl⟩
          exact (if_neg printable).trans ((if_pos small).trans escape)
        · obtain ⟨high, highEscape, highClosed, highVisible⟩ :=
            unicodeEscape_behind (0xD800 + (point.val - 0x10000) / 0x400)
          obtain ⟨low, lowEscape, lowClosed, lowVisible⟩ :=
            unicodeEscape_behind (0xDC00 + (point.val - 0x10000) % 0x400)
          refine .inr ⟨'u', high ++ '\\' :: 'u' :: low, ?_, by decide,
            highClosed.append (.escape 'u' lowClosed),
            highVisible.append ((lowVisible.cons (by decide)).cons (by decide)), .inl rfl⟩
          refine (if_neg printable).trans ((if_neg small).trans ?_)
          rw [highEscape, lowEscape]
          rfl

theorem toNat_ofNat_ascii {code : Nat} (ascii : code ≤ 0x7E) : (Char.ofNat code).toNat = code := by
  have table : ∀ code ≤ 0x7E, (Char.ofNat code).toNat = code := by decide
  exact table code ascii

theorem escapeString_written (value : PythonString) :
    Closed (escapeString value) ∧ Visible (escapeString value) := by
  induction value with
  | nil => exact ⟨.nil, .nil⟩
  | cons point value ih =>
      rw [escapeString, List.flatMap_cons]
      obtain ⟨written, low, high, notQuote, notEscape⟩ | ⟨letter, rest, written, shown, closed,
        visible, -⟩ := escapePoint_cases point
      · have code : (Char.ofNat point.val).toNat = point.val :=
          toNat_ofNat_ascii high
        rw [written]
        refine ⟨.plain (fun quote => ?_) (fun escape => ?_) ih.1, ih.2.cons (by omega)⟩
        · rw [quote] at code
          exact notQuote code.symm
        · rw [escape] at code
          exact notEscape code.symm
      · rw [written]
        exact ⟨.escape letter (closed.append ih.1),
          ((visible.append ih.2).cons shown).cons (by decide)⟩

theorem clean_float (value : PythonFloat) : Clean value.text := by
  have plain : ∀ character ∈ value.text, Plain character ∧ ' ' < character := by
    intro character member
    rcases value.plain character member with letter | sign
    · have shown : 32 < character.toNat := by
        have control : ∀ code < 33, (Char.ofNat code).isAlphanum = false := by decide
        by_contra low
        have silent := control character.toNat (by omega)
        rw [Char.ofNat_toNat, letter] at silent
        exact absurd silent (by decide)
      refine ⟨⟨?_, ?_, ?_, ?_, ?_⟩, shown⟩ <;> rintro rfl <;> exact absurd letter (by decide)
    · simp only [List.mem_cons, List.not_mem_nil, or_false] at sign
      obtain rfl | rfl | rfl := sign <;> decide
  refine ⟨.scalar value.written plain, fun character member => ?_⟩
  have shown : 32 < character.toNat := (plain character member).2
  omega

mutual

/-- Whatever is written is one line that can be scanned. -/
theorem clean_dumps : ∀ value : PythonValue, Clean (dumps value)
  | .none => ⟨.scalar (by decide) (by decide), by decide⟩
  | .bool value => clean_boolean value
  | .int value => clean_number value
  | .float value => clean_float value
  | .str value => ⟨.string (escapeString_written value).1, (escapeString_written value).2.quoted⟩
  | .list items => .array (clean_dumpItems items)
  | .dict entries => (clean_dumpEntries entries).object

theorem clean_dumpItems : ∀ items : List PythonValue, ∀ text ∈ dumpItems items, Clean text
  | [], _, member => absurd member List.not_mem_nil
  | item :: items, text, member => by
      rcases List.mem_cons.mp member with rfl | later
      · exact clean_dumps item
      · exact clean_dumpItems items text later

theorem clean_dumpEntries : ∀ entries : List (PythonString × PythonValue),
    CleanMembers (dumpEntries entries)
  | [] => .nil
  | (key, value) :: entries => by
      rw [dumpEntries]
      refine List.forall_mem_cons.mpr ⟨⟨?_, clean_dumps value⟩, clean_dumpEntries entries⟩
      rw [String.toList_ofList]
      exact escapeString_written key

end

/-! ## Members of a dictionary -/

/-- Characters of printable ASCII that are written as they are. -/
def PlainAscii (character : Char) : Prop :=
  0x20 ≤ character.toNat ∧ character.toNat ≤ 0x7E ∧ character ≠ '"' ∧ character ≠ '\\'

instance : DecidablePred PlainAscii := fun _ => inferInstanceAs (Decidable (_ ∧ _))

theorem escapePoint_codePoint {character : Char} (plain : PlainAscii character) :
    escapePoint (codePoint character) = [character] := by
  have table : ∀ code < 0x7F, 0x20 ≤ code → code ≠ 0x22 → code ≠ 0x5C →
      shortEscape code = none := by
    decide
  obtain ⟨low, high, notQuote, notEscape⟩ := plain
  have none : shortEscape character.toNat = none :=
    table _ (by omega) low (fun same => notQuote (Char.toNat_inj.mp same))
      fun same => notEscape (Char.toNat_inj.mp same)
  rw [escapePoint, codePoint, none]
  exact (if_pos ⟨low, high⟩).trans (congrArg (fun character => [character]) (Char.ofNat_toNat _))

/-- A plain text is written by nothing but itself. -/
theorem escapeString_eq_iff {target : Text} (plain : ∀ character ∈ target, PlainAscii character)
    {value : PythonString} : escapeString value = target ↔ value = target.map codePoint := by
  constructor
  · intro written
    induction value generalizing target with
    | nil =>
        cases written
        rfl
    | cons point value ih =>
        rw [escapeString, List.flatMap_cons] at written
        obtain ⟨itself, low, high, -⟩ | ⟨letter, rest, escape, -⟩ := escapePoint_cases point
        · rw [itself, List.singleton_append] at written
          subst written
          have code := toNat_ofNat_ascii high
          rw [List.map_cons, ← ih (fun other member => plain other (List.mem_cons_of_mem _ member))
            rfl]
          refine congrArg (· :: value) (Fin.ext ?_)
          exact code.symm
        · rw [escape, List.cons_append] at written
          subst written
          exact absurd rfl (plain _ (List.mem_cons_self ..)).2.2.2
  · rintro rfl
    induction target with
    | nil => rfl
    | cons character target ih =>
        rw [List.map_cons, escapeString, List.flatMap_cons,
          escapePoint_codePoint (plain _ (List.mem_cons_self ..)), List.singleton_append]
        exact congrArg _ (ih fun other member => plain other (List.mem_cons_of_mem _ member))

theorem lookup_dumpEntries {key : String} (plain : ∀ character ∈ key.toList, PlainAscii character)
    (entries : List (PythonString × PythonValue)) :
    (dumpEntries entries).lookup key = (entries.lookup (codePoints key)).map dumps := by
  induction entries with
  | nil => rfl
  | cons entry entries ih =>
      obtain ⟨name, value⟩ := entry
      have same : key = String.ofList (escapeString name) ↔ codePoints key = name := by
        rw [eq_comm, ← String.toList_inj, String.toList_ofList, escapeString_eq_iff plain, eq_comm]
        rfl
      rw [dumpEntries, List.lookup_cons, List.lookup_cons, ih]
      by_cases isKey : codePoints key = name
      · rw [beq_iff_eq.mpr (same.mpr isKey), beq_iff_eq.mpr isKey]
        rfl
      · rw [beq_eq_false_iff_ne.mpr fun equal => isKey (same.mp equal),
          beq_eq_false_iff_ne.mpr isKey]

/-- A member of the message is where its key leads. -/
theorem lookup_entries {entries : List (PythonString × PythonValue)} (key : String)
    (value : PythonValue) (plain : ∀ character ∈ key.toList, PlainAscii character)
    (found : entries.lookup (codePoints key) = some value) :
    (dumpEntries entries).lookup key = some (dumps value) := by
  rw [lookup_dumpEntries plain, found]
  rfl

theorem codePoints_injective : Function.Injective codePoints := by
  intro first second same
  refine String.toList_inj.mp (List.map_injective_iff.mpr (fun left right equal => ?_) same)
  exact Char.toNat_inj.mp (Fin.mk.inj equal)

/-- A member of a dictionary that is written out. -/
theorem lookup_record (members : List (String × PythonValue)) (key : String) :
    (members.map (Prod.map codePoints id)).lookup (codePoints key) = members.lookup key := by
  induction members with
  | nil => rfl
  | cons member members ih =>
      rw [List.map_cons, List.lookup_cons, List.lookup_cons, ih]
      by_cases same : key = member.1
      · rw [beq_iff_eq.mpr same, Prod.map_fst, beq_iff_eq.mpr (congrArg codePoints same)]
        rfl
      · rw [beq_eq_false_iff_ne.mpr same, Prod.map_fst,
          beq_eq_false_iff_ne.mpr fun equal => same (codePoints_injective equal)]

theorem lookup_dumped {members : List (String × PythonValue)} (key : String) (value : PythonValue)
    (found : members.lookup key = some value) :
    (members.map (Prod.map id dumps)).lookup key = some (dumps value) := by
  induction members with
  | nil => cases found
  | cons member members ih =>
      rw [List.lookup_cons] at found
      rw [List.map_cons, List.lookup_cons, Prod.map_fst, id]
      split at found
      · cases found
        rfl
      · exact ih found

/-- How such a dictionary is written. -/
theorem dumps_record {members : List (String × PythonValue)}
    (plain : ∀ member ∈ members, ∀ character ∈ member.1.toList, PlainAscii character) :
    dumps (.record members) = object (members.map (Prod.map id dumps)) ∧
      Proper (members.map (Prod.map id dumps)) := by
  have written : dumpEntries (members.map (Prod.map codePoints id)) =
      members.map (Prod.map id dumps) := by
    induction members with
    | nil => rfl
    | cons member members ih =>
        rw [List.map_cons, List.map_cons, ← ih fun other isMember => plain other
          (List.mem_cons_of_mem _ isMember), Prod.map, dumpEntries, codePoints,
          (escapeString_eq_iff (plain member (List.mem_cons_self ..))).mpr rfl,
            String.ofList_toList]
        rfl
  rw [PythonValue.record, dumps, written]
  exact ⟨rfl, written ▸ (clean_dumpEntries _).proper⟩

/-! ## Positions in a dictionary -/

section Positions

variable {members : List Member} {key : String} {entries : List (PythonString × PythonValue)}

/-- A cell with plain integers is read. -/
theorem readPosition_dict {allowUnused : Bool} {row col : Int} (proper : Proper members)
    (found : members.lookup key = some (dumps (.dict entries)))
    (hasRow : entries.lookup (codePoints "row") = some (.int row))
    (hasCol : entries.lookup (codePoints "col") = some (.int col))
    (allowed : allowUnused = true ∧ row = -1 ∧ col = -1 ∨ isBoardPosition ⟨row, col⟩) :
    readPosition allowUnused (object members) key = .ok ⟨row, col⟩ := by
  have small : IsInt row ∧ IsInt col := by
    simp only [isBoardPosition] at allowed
    rw [IsInt, IsInt]
    omega
  have inner := (clean_dumpEntries entries).proper
  rw [dumps] at found
  rw [readPosition, readObject_object proper inner found, Except.ok_bind,
    readInt_object inner small.1 (lookup_entries "row" (.int row) (by decide) hasRow),
    Except.ok_bind,
    readInt_object inner small.2 (lookup_entries "col" (.int col) (by decide) hasCol),
    Except.ok_bind, require_ok allowed]
  rfl

/-- A `bool` is no number of the protocol. -/
theorem readInt_boolean (proper : Proper members) {value : Bool}
    (found : members.lookup key = some (boolean value)) (number : Int) :
    readInt (object members) key ≠ .ok number := by
  obtain ⟨tail, -, start⟩ := reads_object proper found
  have noNumber : stoll (boolean value ++ tail) = none := by cases value <;> rfl
  rw [readInt, readSigned, start, Except.ok_bind, noNumber]
  intro result
  cases result

end Positions

/-! ## The messages of the bridge -/

namespace GameServerBridge

/-- `_position`. -/
def position (row col : Int) : PythonValue := .record [("row", .int row), ("col", .int col)]

/-- The members of `_protocol_message`. -/
def protocolMembers (type : String) (sequence : PythonValue) (username : PythonString)
    (source destination : PythonValue) : List (String × PythonValue) :=
  [("version", .int 5), ("type", .str (codePoints type)),
    ("sequence", sequence), ("source", source.orElse (position (-1) (-1))),
    ("destination", destination.orElse (position (-1) (-1))),
    ("accepted", .bool false), ("reason", .str []),
    ("playerColor", .str []), ("reconnectToken", .str []),
    ("username", .str username), ("whiteUsername", .str []),
    ("blackUsername", .str []), ("secondsRemaining", .int 0),
    ("createdAtMs", .int 0), ("hasSnapshot", .bool false)]

/-- `_protocol_message`, written with `json.dumps`. -/
def protocolMessage (type : String) (sequence : PythonValue) (username : PythonString)
    (source destination : PythonValue) : Text :=
  dumps (.record (protocolMembers type sequence username source destination))

/-- The bytes written for a message. -/
def line (message : Text) : Text := message ++ ['\n']

/-- The request `_connect_player` opens a connection with. -/
def handshake (username : PythonString) : Text :=
  protocolMessage "reconnect_request" (.int 0) username .none .none

variable (type : MessageType) (sequence : PythonValue) (username : PythonString)
  (source destination : PythonValue)

theorem plain_protocolMembers (name : String) :
    ∀ member ∈ protocolMembers name sequence username source destination,
      ∀ character ∈ member.1.toList, PlainAscii character := by
  simp only [protocolMembers, List.forall_mem_cons]
  decide

/-- What the game server makes of a message of the bridge: only the values that were
passed can fail. -/
theorem deserialize_protocolMessage :
    deserialize (protocolMessage (messageTypeToString type) sequence username source destination) =
      (do
        let json := protocolMessage (messageTypeToString type) sequence username source destination
        let sequence ← readUnsigned json "sequence"
        let source ← readPosition true json "source"
        let destination ← readPosition true json "destination"
        let username ← readString json "username"
        return { type := type, sequence := sequence, source := source, destination := destination,
                 username := username }) := by
  obtain ⟨json, proper⟩ := dumps_record (plain_protocolMembers sequence username source
    destination (messageTypeToString type))
  have plainType : ∀ character ∈ (messageTypeToString type).toList, PlainAscii character := by
    cases type <;> decide
  have typeText : dumps (.str (codePoints (messageTypeToString type))) =
      quoted (messageTypeToString type).toList := by
    rw [dumps, codePoints, (escapeString_eq_iff plainType).mpr rfl]
  have typeSpells : Spells (messageTypeToString type)
      (dumps (.str (codePoints (messageTypeToString type)))) := typeText ▸ (spells_type type).2
  have empty : Spells "" (dumps (.str [])) := ⟨[], rfl, .nil, fun _ => rfl⟩
  rw [protocolMessage, json, deserialize, require_ok (object_delimited _),
    readSigned_object proper (by decide) (lookup_dumped "version" (.int 5) rfl),
    readString_object proper typeSpells (lookup_dumped "type" _ rfl),
    readBool_object proper (lookup_dumped "accepted" (.bool false) rfl),
    readString_object proper empty (lookup_dumped "reason" _ rfl),
    readString_object proper empty (lookup_dumped "playerColor" _ rfl),
    readString_object proper empty (lookup_dumped "reconnectToken" _ rfl),
    readString_object proper empty (lookup_dumped "whiteUsername" _ rfl),
    readString_object proper empty (lookup_dumped "blackUsername" _ rfl),
    readInt_object proper (by decide) (lookup_dumped "secondsRemaining" (.int 0) rfl),
    readSigned_object proper (by decide) (lookup_dumped "createdAtMs" (.int 0) rfl),
    readBool_object proper (lookup_dumped "hasSnapshot" (.bool false) rfl)]
  have current : require (5 = version) "Protocol: unsupported protocol version" = .ok () := rfl
  have noSnapshot : ∀ json, readSnapshotMember false json = .ok {} := fun _ => rfl
  simp only [Except.ok_bind, messageTypeFromString_toString, requireNonNegative,
    require_ok (Int.le_refl 0), current, noSnapshot]

end GameServerBridge

end KungFuChess

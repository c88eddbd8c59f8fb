import KungFuChess.Gateway.Bridge
import KungFuChess.Network.Reencoding

/-!
# User names across the bridge

A name is checked three times: by the gateway when the user registers, by the reader
of the handshake, and by the game server. The first check is in code points of any
script, the second knows no `\u` escapes, the third counts bytes.
-/

set_option autoImplicit false

namespace KungFuChess

open JsonText Protocol

/-! ## Registration -/

/-- What the gateway takes from the Unicode database of the language. -/
structure UnicodeData where
  isSpace : CodePoint → Bool
  normalizeNFKC : PythonString → PythonString
  category : CodePoint → String
  isAlnum : CodePoint → Bool

namespace UnicodeData

/-- `str.strip`. -/
def strip (unicode : UnicodeData) (value : PythonString) : PythonString :=
  (value.dropWhile unicode.isSpace).rdropWhile unicode.isSpace

/-- `validate_username`: the name that is stored. -/
def validateUsername (unicode : UnicodeData) (username : PythonString) :
    Except String PythonString := do
  let displayName := unicode.normalizeNFKC (unicode.strip username)
  require (3 ≤ displayName.length ∧ displayName.length ≤ 32)
    "Username must be between 3 and 32 characters"
  require (¬ displayName.any fun char => (unicode.category char).startsWith "C")
    "Username contains control characters"
  require (displayName.all fun char =>
      unicode.isAlnum char || [codePoint '_', codePoint '-', codePoint '.'].contains char)
    "Username may contain letters, numbers, underscore, hyphen, and dot"
  return displayName

/-- In ASCII, `str.isalnum` accepts the letters and the digits. -/
def AsciiAlnum (unicode : UnicodeData) : Prop :=
  ∀ character : Char, character.toNat < 0x80 →
    unicode.isAlnum (codePoint character) = character.isAlphanum

end UnicodeData

/-! ## The game server -/

/-- The bytes of one code point in UTF-8. -/
def utf8Point (point : CodePoint) : Text :=
  let code := point.val
  let continuation (place : Nat) : Char := Char.ofNat (0x80 + code / place % 0x40)
  if code < 0x80 then [Char.ofNat code]
  else if code < 0x800 then [Char.ofNat (0xC0 + code / 0x40), continuation 1]
  else if code < 0x10000 then
    [Char.ofNat (0xE0 + code / 0x1000), continuation 0x40, continuation 1]
  else
    [Char.ofNat (0xF0 + code / 0x40000), continuation 0x1000, continuation 0x40, continuation 1]

def utf8 (value : PythonString) : String := String.ofList (value.flatMap utf8Point)

/-- The game server reads the handshake as a request of the user, and does not refuse the
name. -/
def Playable (stored : PythonString) : Prop :=
  ∃ message, deserialize (GameServerBridge.handshake stored) = .ok message ∧
    message.username = utf8 stored ∧ Username.isValid message.username = true

/-- Every character is an ASCII character. -/
def IsAscii (value : PythonString) : Prop := ∀ point ∈ value, point.val < 0x80

/-- The handshake is read as far as the user name. -/
theorem deserialize_handshake (stored : PythonString) :
    deserialize (GameServerBridge.handshake stored) =
      (do
        let username ← readString (GameServerBridge.handshake stored) "username"
        return { type := .reconnectRequest, username := username }) := by
  obtain ⟨json, proper⟩ := dumps_record
    (GameServerBridge.plain_protocolMembers (.int 0) stored .none .none "reconnect_request")
  have unused : ∀ key, (GameServerBridge.protocolMembers "reconnect_request" (.int 0) stored .none
      .none).lookup key = some (GameServerBridge.position (-1) (-1)) →
      readPosition true (GameServerBridge.handshake stored) key = .ok ⟨-1, -1⟩ := by
    intro key found
    rw [GameServerBridge.handshake, GameServerBridge.protocolMessage, json]
    exact readPosition_dict proper (lookup_dumped key _ found) (lookup_record _ "row")
      (lookup_record _ "col") (.inl ⟨rfl, rfl, rfl⟩)
  have zero : IsLong ((0 : Nat) : Int) := by decide
  have sequence : readUnsigned (GameServerBridge.handshake stored) "sequence" = .ok 0 := by
    rw [GameServerBridge.handshake, GameServerBridge.protocolMessage, json]
    exact readUnsigned_object proper zero (lookup_dumped "sequence" (.int 0) rfl)
  have message : GameServerBridge.protocolMessage (messageTypeToString .reconnectRequest) (.int 0)
      stored .none .none = GameServerBridge.handshake stored := rfl
  have read := GameServerBridge.deserialize_protocolMessage .reconnectRequest (.int 0) stored .none
    .none
  rw [message] at read
  simp only [sequence, unused "source" rfl, unused "destination" rfl, Except.ok_bind] at read
  exact read

/-! ## Names outside of ASCII -/

/-- A `\u` escape stops the reader. -/
theorem readStringFrom_unicode {value : PythonString} (outside : ¬ IsAscii value)
    (rest text : Text) :
    readStringFrom false (escapeString value ++ rest) ≠ .ok text := by
  induction value generalizing text with
  | nil => exact absurd (fun _ member => absurd member List.not_mem_nil) outside
  | cons point value ih =>
      have later : point.val ≤ 0x7E →
          ∀ text, readStringFrom false (escapeString value ++ rest) ≠ .ok text :=
        fun low => ih fun ascii => outside (List.forall_mem_cons.mpr ⟨by omega, ascii⟩)
      rw [escapeString, List.flatMap_cons]
      intro read
      obtain ⟨itself, low, high, notQuote, notEscape⟩ | ⟨letter, tail, escape, -, -, -, unicode⟩ :=
        escapePoint_cases point
      · have code := toNat_ofNat_ascii high
        have plain : Char.ofNat point.val ≠ '"' ∧ Char.ofNat point.val ≠ '\\' := by
          refine ⟨fun quote => notQuote ?_, fun backslash => notEscape ?_⟩
          · rw [quote] at code
            exact code.symm
          · rw [backslash] at code
            exact code.symm
        rw [itself, List.singleton_append, List.cons_append, readStringFrom,
          if_neg Bool.false_ne_true, if_neg plain.2, if_neg plain.1] at read
        obtain ⟨_, behind, -⟩ := Except.map_eq_ok.mp read
        exact later high _ behind
      · rw [escape, List.cons_append, List.cons_append, List.cons_append, List.cons_append,
          readStringFrom, if_neg Bool.false_ne_true, if_pos rfl, readStringFrom, if_pos rfl] at read
        obtain rfl | ⟨rfl, low⟩ := unicode
        · cases read
        · split at read
          · cases read
          · obtain ⟨_, behind, -⟩ := Except.map_eq_ok.mp read
            exact later low _ behind

/-- A registered name in ASCII has only letters, digits, underscores, hyphens and dots. -/
theorem registered_ascii {unicode : UnicodeData} (documented : unicode.AsciiAlnum)
    {username stored : PythonString} (accepted : unicode.validateUsername username = .ok stored)
    (ascii : IsAscii stored) :
    ∃ name : Text, stored = name.map codePoint ∧ (∀ character ∈ name, PlainAscii character ∧
      ¬ Username.isSpace character = true) ∧ 3 ≤ name.length ∧ name.length ≤ 32 := by
  simp only [UnicodeData.validateUsername, Except.bind_eq_ok, require_eq_ok] at accepted
  obtain ⟨_, length, _, -, _, letters, same⟩ := accepted
  cases same
  have table : ∀ code < 0x80, (Char.ofNat code).toNat = code ∧
      ((Char.ofNat code).isAlphanum = true → PlainAscii (Char.ofNat code) ∧
        ¬ Username.isSpace (Char.ofNat code) = true) := by decide
  have point : ∀ point ∈ unicode.normalizeNFKC (unicode.strip username),
      codePoint (Char.ofNat point.val) = point :=
    fun point member => Fin.ext (table point.val (ascii point member)).1
  refine ⟨(unicode.normalizeNFKC (unicode.strip username)).map fun point => Char.ofNat point.val,
    ?_, ?_, ?_⟩
  · rw [List.map_map]
    exact ((List.map_congr_left fun other member => point other member).trans (List.map_id _)).symm
  · intro character member
    obtain ⟨letter, isLetter, rfl⟩ := List.mem_map.mp member
    obtain ⟨code, plain⟩ := table letter.val (ascii letter isLetter)
    rcases Bool.or_eq_true_iff.mp (List.all_eq_true.mp letters letter isLetter) with alnum | sign
    · have documentedLetter := documented (Char.ofNat letter.val)
        (code.trans_lt (ascii letter isLetter))
      rw [point letter isLetter, alnum] at documentedLetter
      exact plain documentedLetter.symm
    · rw [List.contains_iff_mem, List.mem_cons, List.mem_cons, List.mem_singleton] at sign
      obtain rfl | rfl | rfl := sign <;> decide
  · rw [List.length_map]
    exact length

theorem utf8Point_codePoint {character : Char} (plain : PlainAscii character) :
    utf8Point (codePoint character) = [character] := by
  have ascii : character.toNat < 0x80 := plain.2.1.trans_lt (by decide)
  exact (if_pos ascii).trans (congrArg (fun letter => [letter]) (Char.ofNat_toNat character))

/-- A text without white space has nothing to trim. -/
theorem trim_of_visible {name : Text} (visible : ∀ character ∈ name,
    ¬ Username.isSpace character = true) :
    Username.trim (String.ofList name) = String.ofList name := by
  rw [Username.trim, String.toList_ofList]
  have left : name.dropWhile Username.isSpace = name := by
    cases name with
    | nil => rfl
    | cons first name => exact List.dropWhile_cons_of_neg (visible first (List.mem_cons_self ..))
  have right : name.rdropWhile Username.isSpace = name :=
    List.rdropWhile_eq_self_iff.mpr fun written => visible _ (List.getLast_mem written)
  rw [left, right]

/-- **A registered user can play just in case the stored name is ASCII.** -/
theorem UnicodeData.validateUsername_playable (unicode : UnicodeData)
    (documented : unicode.AsciiAlnum) {username stored : PythonString}
    (accepted : unicode.validateUsername username = .ok stored) :
    Playable stored ↔ IsAscii stored := by
  obtain ⟨json, proper⟩ := dumps_record
    (GameServerBridge.plain_protocolMembers (.int 0) stored .none .none "reconnect_request")
  have found := lookup_dumped "username" (.str stored)
    (rfl : (GameServerBridge.protocolMembers "reconnect_request" (.int 0) stored .none .none).lookup
      "username" = _)
  have handshake : GameServerBridge.handshake stored = object _ := json
  constructor
  · rintro ⟨message, read, -, -⟩
    by_contra outside
    rw [deserialize_handshake, handshake] at read
    obtain ⟨name, nameRead, -⟩ := Except.bind_eq_ok.mp read
    obtain ⟨tail, -, start⟩ := reads_object proper found
    rw [readString, start, Except.ok_bind, dumps, quoted, List.cons_append, List.append_assoc]
      at nameRead
    obtain ⟨text, textRead, -⟩ := Except.map_eq_ok.mp nameRead
    exact readStringFrom_unicode outside _ _ textRead
  · intro ascii
    obtain ⟨name, rfl, letters, long, short⟩ := registered_ascii documented accepted ascii
    have plain : ∀ character ∈ name, PlainAscii character := fun _ member => (letters _ member).1
    have spells : Spells (String.ofList name) (dumps (.str (name.map codePoint))) := by
      rw [dumps, (escapeString_eq_iff plain).mpr rfl]
      have unescaped : ∀ character ∈ (String.ofList name).toList,
          character ≠ '"' ∧ character ≠ '\\' := by
        rw [String.toList_ofList]
        exact fun character member => (plain character member).2.2
      have spelled := spells_plain unescaped
      rw [String.toList_ofList] at spelled
      exact spelled
    refine ⟨{ type := .reconnectRequest, username := String.ofList name }, ?_, ?_, ?_⟩
    · rw [deserialize_handshake, handshake, readString_object proper spells found]
      rfl
    · rw [utf8, List.flatMap_map]
      refine congrArg String.ofList ?_
      clear found spells handshake json proper accepted ascii long short
      induction name with
      | nil => rfl
      | cons character name ih =>
          rw [List.flatMap_cons, utf8Point_codePoint (plain _ (List.mem_cons_self ..)), ← ih
            (fun other member => letters other (List.mem_cons_of_mem _ member))
            fun other member => plain other (List.mem_cons_of_mem _ member)]
          rfl
    · rw [Username.isValid, trim_of_visible fun _ member => (letters _ member).2, Bool.and_eq_true,
        decide_eq_true_eq, String.length_ofList]
      refine ⟨?_, short.trans (by decide)⟩
      cases name with
      | nil => exact absurd long (by decide)
      | cons character name => simp

/-- As much of the database as names in Latin letters need. -/
def latinData : UnicodeData where
  isSpace point := point.val = 0x20
  normalizeNFKC value := value
  category point := if point.val < 0x20 then "Cc" else "Ll"
  isAlnum point :=
    if point.val < 0x80 then (Char.ofNat point.val).isAlphanum
    else 0xC0 ≤ point.val && point.val ≤ 0xFF && point.val != 0xD7 && point.val != 0xF7

theorem latinData_documented : latinData.AsciiAlnum := fun character ascii =>
  (if_pos ascii).trans (congrArg Char.isAlphanum (Char.ofNat_toNat character))

theorem UnicodeData.validateUsername_playable_bob :
    Playable (codePoints "Bob-7") ↔ IsAscii (codePoints "Bob-7") :=
  latinData.validateUsername_playable latinData_documented
    (by decide +kernel : latinData.validateUsername (codePoints " Bob-7") =
      .ok (codePoints "Bob-7"))

/-- A name with an accent can be registered, but its handshake is refused. -/
theorem accentedName_refused :
    latinData.validateUsername (codePoints "Zoë") = .ok (codePoints "Zoë") ∧
      deserialize (GameServerBridge.handshake (codePoints "Zoë")) =
        .error "Protocol: invalid string escape" ∧
      ¬ Playable (codePoints "Zoë") := by
  have refused : deserialize (GameServerBridge.handshake (codePoints "Zoë")) =
      .error "Protocol: invalid string escape" := by decide +kernel
  refine ⟨by decide +kernel, refused, ?_⟩
  rintro ⟨message, read, -⟩
  cases refused.symm.trans read

end KungFuChess

import KungFuChess.Network.RoundTrip

/-!
# Re-encoding what was accepted

The reader checks more than the writer needs, except in one place: it takes the
bytes of a string as they stand, and the writer refuses control characters that have no
escape. `deserialize_reencodes` states that this is the only gap.
-/

set_option autoImplicit false

namespace KungFuChess

open JsonText

namespace Protocol

/-! ## What the readers return -/

theorem require_eq_ok {condition : Prop} [Decidable condition] {message : String} {done : Unit} :
    require condition message = .ok done ↔ condition := by
  rw [require]
  split
  · next holds => exact ⟨fun _ => holds, fun _ => rfl⟩
  · next fails => exact ⟨nofun, fun holds => absurd holds fails⟩

section Readers

variable {json : Text} {key : String}

theorem isLong_of_stoll {text after : Text} {value : Int}
    (read : stoll text = some (value, after)) :
    IsLong value := by
  rw [stoll, Option.ite_none_left_eq_some] at read
  obtain ⟨accepted, same⟩ := read
  obtain ⟨rfl, -⟩ := Prod.mk.inj (Option.some.inj same)
  rw [IsLong]
  omega

theorem isLong_of_readSigned {value : Int} (read : readSigned json key = .ok value) :
    IsLong value := by
  obtain ⟨start, -, read⟩ := Except.bind_eq_ok.mp read
  split at read
  · next number after parsed =>
      split at read
      · cases read
        exact isLong_of_stoll parsed
      · cases read
  · cases read

theorem isInt_of_readInt {value : Int} (read : readInt json key = .ok value) : IsInt value := by
  simp only [readInt, Except.bind_eq_ok, require_eq_ok] at read
  obtain ⟨number, -, _, range, same⟩ := read
  cases same
  exact range

theorem readUnsigned_range {value : Nat} (read : readUnsigned json key = .ok value) :
    value < 2 ^ 63 := by
  simp only [readUnsigned, requireNonNegative, Except.bind_eq_ok, require_eq_ok] at read
  obtain ⟨number, signed, _, nonneg, same⟩ := read
  have long := isLong_of_readSigned signed
  cases same
  rw [IsLong] at long
  omega

theorem readPosition_range {allowUnused : Bool} {position : Position}
    (read : readPosition allowUnused json key = .ok position) :
    allowUnused = true ∧ position.row = -1 ∧ position.col = -1 ∨ isBoardPosition position := by
  simp only [readPosition, Except.bind_eq_ok, require_eq_ok] at read
  obtain ⟨object, -, row, -, col, -, _, allowed, same⟩ := read
  cases same
  exact allowed

theorem isBoardPosition_of_readPosition {position : Position}
    (read : readPosition false json key = .ok position) : isBoardPosition position := by
  obtain ⟨allowed, -⟩ | onBoard := readPosition_range read
  · cases allowed
  · exact onBoard

theorem isMessagePosition_of_readPosition {position : Position}
    (read : readPosition true json key = .ok position) : IsMessagePosition position := by
  obtain ⟨-, row, col⟩ | onBoard := readPosition_range read
  · cases position
    cases row
    cases col
    exact .inl rfl
  · exact .inr onBoard

end Readers

theorem readPiece_wellFormed {json : Text} {piece : PieceSnapshot}
    (read : readPiece json = .ok piece) : piece.WellFormed := by
  simp only [readPiece, requireNonNegative, Except.bind_eq_ok, require_eq_ok] at read
  obtain ⟨id, idRead, token, -, position, positionRead, state, -, hasMoved, -, remaining, -, total,
    totalRead, _, idCheck, _, tokenCheck, _, stateCheck, _, remainingCheck, _, -, _, within,
    same⟩ := read
  have idRange := isInt_of_readInt idRead
  have totalRange := isLong_of_readSigned totalRead
  rw [IsInt] at idRange
  rw [IsLong] at totalRange
  cases same
  exact ⟨by show id.toNat < _; omega, tokenCheck, isBoardPosition_of_readPosition positionRead,
    stateCheck,
    remainingCheck, within, totalRange.2⟩

theorem readMotion_wellFormed {json : Text} {motion : MotionSnapshot}
    (read : readMotion json = .ok motion) : motion.WellFormed := by
  simp only [readMotion, requireNonNegative, Except.bind_eq_ok, require_eq_ok] at read
  obtain ⟨pieceId, idRead, source, sourceRead, destination, destinationRead, cell, cellRead,
    rowStep,
    -, colStep, -, direct, -, duration, durationRead, next, nextRead, order, orderRead, _, idCheck,
      _,
    steps, _, durationCheck, _, nextCheck, _, orderCheck, same⟩ := read
  have idRange := isInt_of_readInt idRead
  have orderRange := isInt_of_readInt orderRead
  rw [IsInt] at idRange orderRange
  cases same
  exact ⟨by show pieceId.toNat < _; omega, isBoardPosition_of_readPosition sourceRead,
    isBoardPosition_of_readPosition destinationRead, isBoardPosition_of_readPosition cellRead,
      steps,
    ⟨durationCheck, (isLong_of_readSigned durationRead).2⟩,
    ⟨nextCheck, (isLong_of_readSigned nextRead).2⟩, by show order.toNat < _; omega⟩

theorem readJump_wellFormed {json : Text} {jump : JumpSnapshot} (read : readJump json = .ok jump) :
    jump.WellFormed := by
  simp only [readJump, requireNonNegative, Except.bind_eq_ok, require_eq_ok] at read
  obtain ⟨pieceId, idRead, cell, cellRead, finish, finishRead, _, idCheck, _, finishCheck, same⟩ :=
    read
  have idRange := isInt_of_readInt idRead
  rw [IsInt] at idRange
  cases same
  exact ⟨by show pieceId.toNat < _; omega, isBoardPosition_of_readPosition cellRead,
    finishCheck, (isLong_of_readSigned finishRead).2⟩

/-! ## Strings that can be written again -/

/-- The string under the key shows no control character without an escape. -/
def PlainMember (json : Text) (key : String) : Prop :=
  ∀ rest content after, findValue json key = .ok ('"' :: rest) →
    findStringEnd false rest = .ok (content, after) → ∀ character ∈ content, Printable character

theorem unescape_printable {letter meant : Char} (unescaped : unescape letter = some meant) :
    Printable letter ∧ Printable meant := by
  unfold unescape at unescaped
  split at unescaped <;> cases unescaped <;> decide

/-- What is read off a string is printable just in case its text is. -/
theorem readStringFrom_printable {escaped : Bool} {text value : Text}
    (read : readStringFrom escaped text = .ok value) :
    ∃ content after, findStringEnd escaped text = .ok (content, after) ∧
      ((∀ character ∈ content, Printable character) ↔
        ∀ character ∈ value, Printable character) := by
  induction text generalizing escaped value with
  | nil => cases read
  | cons character text ih =>
      rw [readStringFrom] at read
      rw [findStringEnd]
      split at read
      · next inEscape =>
          rw [if_pos inEscape]
          split at read
          · cases read
          · next meant unescaped =>
              obtain ⟨rest, restRead, rfl⟩ := Except.map_eq_ok.mp read
              obtain ⟨content, after, ended, same⟩ := ih restRead
              obtain ⟨letter, shown⟩ := unescape_printable unescaped
              refine ⟨character :: content, after, by rw [ended]; rfl, ?_⟩
              rw [List.forall_mem_cons, List.forall_mem_cons, same]
              exact and_congr_left fun _ => iff_of_true letter shown
      · next outside =>
          rw [if_neg outside]
          split at read
          · next backslash =>
              obtain ⟨content, after, ended, same⟩ := ih read
              refine ⟨character :: content, after, by rw [if_pos backslash, ended]; rfl, ?_⟩
              rw [List.forall_mem_cons, same, backslash]
              exact and_iff_right (by decide)
          · next notBackslash =>
              rw [if_neg notBackslash]
              split at read
              · next quote =>
                  cases read
                  exact ⟨[], text, if_pos quote, Iff.rfl⟩
              · next notQuote =>
                  obtain ⟨rest, restRead, rfl⟩ := Except.map_eq_ok.mp read
                  obtain ⟨content, after, ended, same⟩ := ih restRead
                  refine ⟨character :: content, after, by rw [if_neg notQuote, ended]; rfl, ?_⟩
                  rw [List.forall_mem_cons, List.forall_mem_cons, same]

theorem plainMember_iff {json : Text} {key value : String}
    (read : readString json key = .ok value) :
    PlainMember json key ↔ IsText value := by
  obtain ⟨start, found, read⟩ := Except.bind_eq_ok.mp read
  split at read
  · next rest =>
      obtain ⟨letters, lettersRead, rfl⟩ := Except.map_eq_ok.mp read
      obtain ⟨content, after, ended, same⟩ := readStringFrom_printable lettersRead
      rw [IsText, String.toList_ofList, ← same]
      constructor
      · exact fun plain => plain rest content after found ended
      · intro printable _ _ _ otherFound otherEnded
        cases found.symm.trans otherFound
        cases ended.symm.trans otherEnded
        exact printable
  · cases read

theorem readHistory_wellFormed {json : Text} {history : MoveHistorySnapshot}
    (read : readHistory json = .ok history) :
    (PlainMember json "notation" ↔ IsText history.notationText) ∧
      (IsText history.notationText → history.WellFormed) := by
  simp only [readHistory, requireNonNegative, Except.bind_eq_ok, require_eq_ok] at read
  obtain ⟨completedAt, completedRead, color, -, pieceKind, -, source, sourceRead, destination,
    destinationRead, wasCapture, -, wasPromotion, -, wasJump, -, text, textRead, _, completedCheck,
      _,
    colorCheck, _, kindCheck, same⟩ := read
  cases same
  exact ⟨plainMember_iff textRead, fun isText =>
    ⟨⟨completedCheck, (isLong_of_readSigned completedRead).2⟩, colorCheck, kindCheck,
      isBoardPosition_of_readPosition sourceRead, isBoardPosition_of_readPosition destinationRead,
      isText⟩⟩

/-! ## Snapshots that can be written again -/

/-- The notations of a history show no control character without an escape. -/
def PlainHistory (json : Text) (key : String) : Prop :=
  ∀ entries, readObjectArray json key = .ok entries → ∀ entry ∈ entries,
    PlainMember entry "notation"

def PlainSnapshot (json : Text) : Prop :=
  PlainMember json "whiteUsername" ∧ PlainMember json "blackUsername" ∧
    PlainHistory json "whiteMoveHistory" ∧ PlainHistory json "blackMoveHistory"

/-- The free texts of a snapshot are printable. -/
def TextualSnapshot (snapshot : GameStateSnapshot) : Prop :=
  IsText snapshot.whiteUsername ∧ IsText snapshot.blackUsername ∧
    (∀ history ∈ snapshot.whiteMoveHistory, IsText history.notationText) ∧
    ∀ history ∈ snapshot.blackMoveHistory, IsText history.notationText

theorem readAll_forall {Item : Type} {read : Text → Except String Item} {json : Text} {key : String}
    {items : List Item} (readItems : readAll read json key = .ok items) {P : Item → Prop}
    (each : ∀ text item, read text = .ok item → P item) : ∀ item ∈ items, P item := by
  obtain ⟨texts, -, loop⟩ := Except.bind_eq_ok.mp readItems
  have pairs : List.Forall₂ (fun item text => P item ∧ read text = .ok item) items texts :=
    ((Except.mapM_eq_ok.mp loop).imp fun text item reads => ⟨each text item reads, reads⟩).flip
  exact ((List.forall₂_and_left _ _).mp pairs).1

theorem plainHistory_iff {json : Text} {key : String} {histories : List MoveHistorySnapshot}
    (read : readAll readHistory json key = .ok histories) :
    PlainHistory json key ↔ ∀ history ∈ histories, IsText history.notationText := by
  obtain ⟨entries, found, loop⟩ := Except.bind_eq_ok.mp read
  have single : PlainHistory json key ↔ ∀ entry ∈ entries, PlainMember entry "notation" :=
    ⟨fun plain => plain entries found, fun plain _ other => by
      cases found.symm.trans other
      exact plain⟩
  rw [single]
  clear single found read
  induction Except.mapM_eq_ok.mp loop with
  | nil => exact ⟨fun _ _ member => absurd member List.not_mem_nil,
      fun _ _ member => absurd member List.not_mem_nil⟩
  | cons reads others ih =>
      rw [List.forall_mem_cons, List.forall_mem_cons]
      exact and_congr (readHistory_wellFormed reads).1 (ih (Except.mapM_eq_ok.mpr others))

theorem readSnapshot_wellFormed {json : Text} {snapshot : GameStateSnapshot}
    (read : readSnapshot json = .ok snapshot) :
    (PlainSnapshot json ↔ TextualSnapshot snapshot) ∧
      (TextualSnapshot snapshot → snapshot.WellFormed) := by
  simp only [readSnapshot, requireNonNegative, Except.bind_eq_ok, require_eq_ok] at read
  obtain ⟨serverTime, timeRead, gameOver, -, whiteScore, whiteRead, blackScore, blackRead, white,
    whiteName, black, blackName, ready, -, start, startRead, _, timeCheck, _, startCheck, _, scores,
    pieces, piecesRead, motions, motionsRead, jumps, jumpsRead, whiteMoves, whiteMovesRead,
    blackMoves, blackMovesRead, same⟩ := read
  cases same
  constructor
  · exact and_congr (plainMember_iff whiteName) (and_congr (plainMember_iff blackName)
      (and_congr (plainHistory_iff whiteMovesRead) (plainHistory_iff blackMovesRead)))
  · rintro ⟨whiteText, blackText, whiteTexts, blackTexts⟩
    have wellFormed : ∀ text history, readHistory text = .ok history →
        IsText history.notationText → history.WellFormed :=
      fun _ _ reads => (readHistory_wellFormed reads).2
    exact ⟨⟨timeCheck, (isLong_of_readSigned timeRead).2⟩,
      ⟨scores.1, (isInt_of_readInt whiteRead).2⟩, ⟨scores.2, (isInt_of_readInt blackRead).2⟩,
      whiteText, blackText, ⟨startCheck, (isLong_of_readSigned startRead).2⟩,
      readAll_forall piecesRead fun _ _ => readPiece_wellFormed,
      readAll_forall motionsRead fun _ _ => readMotion_wellFormed,
      readAll_forall jumpsRead fun _ _ => readJump_wellFormed,
      fun history member => readAll_forall whiteMovesRead wellFormed history member
        (whiteTexts history member),
      fun history member => readAll_forall blackMovesRead wellFormed history member
        (blackTexts history member)⟩

/-! ## Messages that can be written again -/

/-- The free texts of a message. -/
def textKeys : List String :=
  ["reason", "playerColor", "reconnectToken", "username", "whiteUsername", "blackUsername"]

/-- The strings of a text that a message keeps show no control character without an
escape. -/
def PlainText (json : Text) : Prop :=
  (∀ key ∈ textKeys, PlainMember json key) ∧
    (readBool json "hasSnapshot" = .ok true →
      ∀ snapshot, readObject json "snapshot" = .ok snapshot → PlainSnapshot snapshot)

def TextualMessage (message : Message) : Prop :=
  (IsText message.reason ∧ IsText message.playerColor ∧ IsText message.reconnectToken ∧
    IsText message.username ∧ IsText message.whiteUsername ∧ IsText message.blackUsername) ∧
    (message.hasSnapshot = true → TextualSnapshot message.snapshot)

theorem readSnapshotMember_wellFormed {hasSnapshot : Bool} {json : Text}
    {snapshot : GameStateSnapshot} (read : readSnapshotMember hasSnapshot json = .ok snapshot) :
    ((hasSnapshot = true → ∀ object, readObject json "snapshot" = .ok object →
      PlainSnapshot object) ↔
      (hasSnapshot = true → TextualSnapshot snapshot)) ∧
    (hasSnapshot = true → TextualSnapshot snapshot → snapshot.WellFormed) ∧
    (hasSnapshot = false → snapshot = {}) := by
  cases hasSnapshot with
  | false =>
      cases read
      exact ⟨⟨fun _ => nofun, fun _ => nofun⟩, nofun, fun _ => rfl⟩
  | true =>
      obtain ⟨object, found, objectRead⟩ := Except.bind_eq_ok.mp read
      obtain ⟨plain, wellFormed⟩ := readSnapshot_wellFormed objectRead
      refine ⟨?_, fun _ => wellFormed, nofun⟩
      rw [← plain]
      exact ⟨fun each shown => each shown object found, fun only shown other otherFound => by
        cases found.symm.trans otherFound
        exact only shown⟩

theorem deserialize_wellFormed {json : Text} {message : Message}
    (read : deserialize json = .ok message) :
    (PlainText json ↔ TextualMessage message) ∧ (TextualMessage message → message.WellFormed) := by
  simp only [deserialize, requireNonNegative, Except.bind_eq_ok, require_eq_ok] at read
  obtain ⟨_, -, version, -, _, -, name, -, type, -, sequence, sequenceRead, source, sourceRead,
    destination, destinationRead, accepted, -, reason, reasonRead, color, colorRead, token,
      tokenRead,
    username, nameRead, white, whiteRead, black, blackRead, seconds, secondsRead, createdAt,
      createdRead,
    hasSnapshot, shownRead, _, createdCheck, _, secondsCheck, snapshot, snapshotRead, same⟩ := read
  obtain ⟨snapshotPlain, sent, notSent⟩ := readSnapshotMember_wellFormed snapshotRead
  cases same
  constructor
  · refine and_congr ?_ ?_
    · simp only [textKeys, List.forall_mem_cons, List.not_mem_nil, false_implies, implies_true,
        and_true]
      exact and_congr (plainMember_iff reasonRead) (and_congr (plainMember_iff colorRead)
        (and_congr (plainMember_iff tokenRead) (and_congr (plainMember_iff nameRead)
          (and_congr (plainMember_iff whiteRead) (plainMember_iff blackRead)))))
    · rw [shownRead, Except.ok.injEq]
      exact snapshotPlain
  · rintro ⟨⟨reasonText, colorText, tokenText, nameText, whiteText, blackText⟩, snapshotText⟩
    exact ⟨readUnsigned_range sequenceRead, isMessagePosition_of_readPosition sourceRead,
      isMessagePosition_of_readPosition destinationRead, reasonText, colorText, tokenText, nameText,
      whiteText, blackText, ⟨secondsCheck, (isInt_of_readInt secondsRead).2⟩,
      ⟨createdCheck, (isLong_of_readSigned createdRead).2⟩,
      fun shown => sent shown (snapshotText shown), notSent⟩

/-! ## What could be written -/

theorem isText_of_string {value : String} {text : Text} (written : string value = .ok text) :
    IsText value := by
  obtain ⟨raw, escaped, -⟩ := Except.map_eq_ok.mp written
  exact escapeJson_isOk.mp ⟨raw, escaped⟩

theorem isText_of_writeHistories {histories : List MoveHistorySnapshot} {texts : List Text}
    (written : histories.mapM writeHistory = .ok texts) :
    ∀ history ∈ histories, IsText history.notationText := by
  have pairs : List.Forall₂ (fun history text =>
      IsText history.notationText ∧ writeHistory history = .ok text) histories texts := by
    refine (Except.mapM_eq_ok.mp written).imp fun history text wrote => ⟨?_, wrote⟩
    simp only [writeHistory, Except.bind_eq_ok] at wrote
    obtain ⟨_, -, _, -, _, notationWritten, -⟩ := wrote
    exact isText_of_string notationWritten
  exact ((List.forall₂_and_left _ _).mp pairs).1

theorem writeSnapshot_textual {snapshot : GameStateSnapshot} {text : Text}
    (written : writeSnapshot snapshot = .ok text) : TextualSnapshot snapshot := by
  simp only [writeSnapshot, Except.bind_eq_ok] at written
  obtain ⟨_, white, _, black, _, -, _, whiteMoves, _, blackMoves, -⟩ := written
  exact ⟨isText_of_string white, isText_of_string black, isText_of_writeHistories whiteMoves,
    isText_of_writeHistories blackMoves⟩

/-- What is written has only printable texts. -/
theorem serialize_textual {message : Message} {json : Text}
    (written : serialize message = .ok json) : TextualMessage message := by
  simp only [serialize, Except.bind_eq_ok] at written
  obtain ⟨_, reason, _, color, _, token, _, name, _, white, _, black, _, sent, -⟩ := written
  refine ⟨⟨isText_of_string reason, isText_of_string color, isText_of_string token,
    isText_of_string name, isText_of_string white, isText_of_string black⟩, fun shown => ?_⟩
  rw [writeSnapshotMember, if_pos shown] at sent
  obtain ⟨text, snapshotWritten, -⟩ := Except.map_eq_ok.mp sent
  exact writeSnapshot_textual snapshotWritten

/-- **Whatever was accepted without such characters can be written again**, and nothing
else can. -/
theorem deserialize_reencodes {json : Text} {message : Message}
    (accepted : deserialize json = .ok message) :
    (∃ again, serialize message = .ok again ∧ deserialize again = .ok message) ↔
      PlainText json := by
  obtain ⟨plain, wellFormed⟩ := deserialize_wellFormed accepted
  rw [plain]
  constructor
  · rintro ⟨again, written, -⟩
    exact serialize_textual written
  · intro textual
    obtain ⟨members, written, -, reads⟩ := carries_message (wellFormed textual)
    exact ⟨object members, written, reads⟩

/-- A reconnect request as text, with the given text between the quotes of its user
name. -/
def requestText (rawName : Text) : Text :=
  object [("version", number version), ("type", quoted "reconnect_request".toList),
    ("sequence", number 0), ("source", writePosition {}), ("destination", writePosition {}),
    ("accepted", boolean false), ("reason", quoted []), ("playerColor", quoted []),
    ("reconnectToken", quoted []), ("username", quoted rawName), ("whiteUsername", quoted []),
    ("blackUsername", quoted []), ("secondsRemaining", number 0), ("createdAtMs", number 0),
    ("hasSnapshot", boolean false)]

/-- A name with the control character one in it. -/
def controlName : String := String.ofList ['b', 'o', Char.ofNat 1, 'b']

def controlRequest : Message where
  type := .reconnectRequest
  username := controlName

theorem deserialize_reencodes_quoted :
    (∃ again, serialize { controlRequest with username := "\"Bob\"" } = .ok again ∧
      deserialize again = .ok { controlRequest with username := "\"Bob\"" }) ↔
    PlainText (requestText "\\\"Bob\\\"".toList) :=
  deserialize_reencodes (by decide +kernel)

/-- The request is accepted and its name is valid, but neither the request nor a state
update that shows the name can be written. -/
theorem controlName_refused :
    deserialize (requestText controlName.toList) = .ok controlRequest ∧
      Username.isValid controlName = true ∧
      (¬ ∃ again, serialize controlRequest = .ok again) ∧
      ¬ ∃ update, serialize
        { type := .gameStateUpdated, hasSnapshot := true,
          snapshot := { whiteUsername := controlName } } = .ok update := by
  have control : ¬ IsText controlName := by decide
  refine ⟨by decide +kernel, by decide +kernel, ?_, ?_⟩
  · rintro ⟨_, written⟩
    exact control (serialize_textual written).1.2.2.2.1
  · rintro ⟨_, written⟩
    exact control ((serialize_textual written).2 rfl).1

end Protocol

end KungFuChess

import KungFuChess.Gateway.Bridge
import KungFuChess.Gateway.Matches

/-!
# Moves and jumps of the web clients

`MatchManager` checks what a client sent and forwards it through the bridge. Its
checks are those of Python: a `bool` is an `int`, an `int` has no bound, and a
dictionary may have more members than the two it is asked for.
-/

set_option autoImplicit false

namespace KungFuChess

open JsonText Protocol

/-- A line written to the connection of one colour. -/
structure SentLine where
  color : String
  line : Text

namespace MatchManager

/-- Whether a value is a cell of the board, as the gateway checks it. -/
def isCell (value : PythonValue) : Bool :=
  value.isDict &&
    (value.get "row").asInt.any (fun row => 0 ≤ row && row ≤ 7) &&
    (value.get "col").asInt.any (fun col => 0 ≤ col && col ≤ 7)

/-- A positive integer that is not a `bool`. -/
def positiveSequence : PythonValue → Option Int
  | .int value => if 1 ≤ value then some value else none
  | _ => none

/-- `GameServerBridge._send_action`. -/
def sendAction (color messageType : String) (sequence source destination : PythonValue) :
    SentLine where
  color := color
  line := GameServerBridge.line
    (GameServerBridge.protocolMessage messageType sequence [] source destination)

def move (manager : MatchManager) (now : Int) (roomId : RoomId) (userId : UserId)
    (websocket : ConnectionId) (sequence source destination : PythonValue) :
    Except MatchOperationError (SentLine × MatchManager) :=
  match positiveSequence sequence with
  | none => .error ⟨"invalid_move", "Sequence must be a positive integer."⟩
  | some number =>
      if ¬ (isCell source && isCell destination) then
        .error ⟨"invalid_move", "Move positions must be valid board cells."⟩
      else do
        let (color, claimed) ← manager.claimSequence now roomId userId websocket number
          "Only room players may submit moves." "Move sequence was already submitted."
        return (sendAction color "move_request" sequence source destination, claimed)

def jump (manager : MatchManager) (now : Int) (roomId : RoomId) (userId : UserId)
    (websocket : ConnectionId) (sequence cell : PythonValue) :
    Except MatchOperationError (SentLine × MatchManager) :=
  match positiveSequence sequence with
  | none => .error ⟨"invalid_jump", "Jump requires a sequence and a valid board cell."⟩
  | some number =>
      if ¬ isCell cell then
        .error ⟨"invalid_jump", "Jump requires a sequence and a valid board cell."⟩
      else do
        let (color, claimed) ← manager.claimSequence now roomId userId websocket number
          "Only room players may submit jumps." "Action sequence was already submitted."
        return (sendAction color "jump_request" sequence cell cell, claimed)

end MatchManager

/-! ## What the game server understands -/

/-- The position a value stands for. -/
def NamesCell (value : PythonValue) (position : Position) : Prop :=
  (value.get "row").asInt = some position.row ∧ (value.get "col").asInt = some position.col

/-- The thread of the client on the game server receives a line and decodes it. -/
def gameServerReads (line : Text) : Except String Message := do
  let (json, _) ← TcpConnection.receiveMessage true [line]
  deserialize json

/-- The line is read as the action it was written for. -/
def Understood (type : MessageType) (sequence source destination : PythonValue) (line : Text) :
    Prop :=
  ∃ message, gameServerReads line = .ok message ∧ message.type = type ∧
    sequence = .int message.sequence ∧ NamesCell source message.source ∧
    NamesCell destination message.destination

/-- The coordinates of the value are no `bool`s. -/
def PlainCell (value : PythonValue) : Prop :=
  (value.get "row").isBool = false ∧ (value.get "col").isBool = false

/-- What the protocol can carry of an action: the sequence number is a `long long`, the
coordinates are no `bool`s, and with the rest of the message the values are no longer than
a line may be. -/
def FitsProtocol (sequence source destination : PythonValue) : Prop :=
  (∀ number, sequence = .int number → number < 2 ^ 63) ∧
    PlainCell source ∧ PlainCell destination ∧
    (dumps sequence).length + (dumps source).length + (dumps destination).length + 247 ≤
      TcpConnection.maxMessageBytes

/-- The value of a cell is a dictionary with two numbers of the board. -/
theorem isCell_cases {value : PythonValue} (cell : MatchManager.isCell value = true) :
    ∃ entries row col rowNumber colNumber, value = .dict entries ∧
      entries.lookup (codePoints "row") = some row ∧ row.asInt = some rowNumber ∧
      entries.lookup (codePoints "col") = some col ∧ col.asInt = some colNumber ∧
      isBoardPosition ⟨rowNumber, colNumber⟩ := by
  simp only [MatchManager.isCell, Bool.and_eq_true, Option.any_eq_true, decide_eq_true_eq] at cell
  obtain ⟨⟨isDict, rowNumber, row, rowRange⟩, colNumber, col, colRange⟩ := cell
  cases value with
  | dict entries =>
      have found : ∀ key number, ((PythonValue.dict entries).get key).asInt = some number →
          ∃ coordinate, entries.lookup (codePoints key) = some coordinate ∧
            coordinate.asInt = some number := by
        intro key number asInt
        rw [PythonValue.get] at asInt
        cases stored : entries.lookup (codePoints key) with
        | none =>
            rw [stored] at asInt
            cases asInt
        | some coordinate =>
            rw [stored] at asInt
            exact ⟨coordinate, rfl, asInt⟩
      obtain ⟨rowValue, rowFound, rowInt⟩ := found "row" rowNumber row
      obtain ⟨colValue, colFound, colInt⟩ := found "col" colNumber col
      exact ⟨entries, rowValue, colValue, rowNumber, colNumber, rfl, rowFound, rowInt, colFound,
        colInt, rowRange.1, rowRange.2, colRange.1, colRange.2⟩
  | _ => cases isDict

/-- A number that is no `bool` is an `int`. -/
theorem eq_int_of_asInt {value : PythonValue} {number : Int} (asInt : value.asInt = some number)
    (plain : value.isBool = false) : value = .int number := by
  cases value with
  | int value => exact congrArg PythonValue.int (Option.some.inj asInt)
  | bool value => cases plain
  | _ => cases asInt

theorem isBool_of_readInt {members : List Member} {key : String} {value : PythonValue}
    {number : Int}
    (proper : Proper members) (found : members.lookup key = some (dumps value))
    (read : readInt (object members) key = .ok number) : value.isBool = false := by
  cases value with
  | bool value => exact absurd read (readInt_boolean proper found number)
  | _ => rfl

section Reading

variable {members : List Member} {key : String} {value : PythonValue} (proper : Proper members)
  (found : members.lookup key = some (dumps value)) (cell : MatchManager.isCell value = true)

include proper found cell

/-- A cell without `bool`s is read. -/
theorem readPosition_cell (plain : PlainCell value) :
    ∃ position, readPosition true (object members) key = .ok position ∧
      NamesCell value position := by
  obtain ⟨entries, row, col, rowNumber, colNumber, rfl, rowFound, rowInt, colFound, colInt,
    onBoard⟩ :=
    isCell_cases cell
  have rowGet : (PythonValue.dict entries).get "row" = row := by rw [PythonValue.get, rowFound]; rfl
  have colGet : (PythonValue.dict entries).get "col" = col := by rw [PythonValue.get, colFound]; rfl
  rw [PlainCell, rowGet, colGet] at plain
  rw [eq_int_of_asInt rowInt plain.1] at rowFound
  rw [eq_int_of_asInt colInt plain.2] at colFound
  refine ⟨_, readPosition_dict proper found rowFound colFound (.inr onBoard), ?_⟩
  rw [NamesCell, rowGet, colGet]
  exact ⟨rowInt, colInt⟩

/-- A cell with a `bool` is refused. -/
theorem plainCell_of_readPosition {position : Position}
    (read : readPosition true (object members) key = .ok position) : PlainCell value := by
  obtain ⟨entries, row, col, rowNumber, colNumber, rfl, rowFound, -, colFound, -, -⟩ :=
    isCell_cases cell
  have inner := (clean_dumpEntries entries).proper
  rw [dumps] at found
  rw [readPosition, readObject_object proper inner found, Except.ok_bind] at read
  obtain ⟨_, rowRead, read⟩ := Except.bind_eq_ok.mp read
  obtain ⟨_, colRead, -⟩ := Except.bind_eq_ok.mp read
  rw [PlainCell, PythonValue.get, PythonValue.get, rowFound, colFound]
  exact ⟨isBool_of_readInt inner (lookup_entries "row" row (by decide) rowFound) rowRead,
    isBool_of_readInt inner (lookup_entries "col" col (by decide) colFound) colRead⟩

end Reading

/-- A cell is sent as it is. -/
theorem orElse_cell {value default : PythonValue} (cell : MatchManager.isCell value = true) :
    value.orElse default = value := by
  obtain ⟨entries, row, _, _, _, rfl, found, -⟩ := isCell_cases cell
  cases entries with
  | nil => cases found
  | cons entry entries => rfl

/-- How long an action is, apart from the values in it. -/
theorem length_action {name : String} {sequence source destination : PythonValue}
    (short : name.toList.length = 12) (plain : ∀ character ∈ name.toList, PlainAscii character)
    (sourceCell : MatchManager.isCell source = true)
    (destinationCell : MatchManager.isCell destination = true) :
    (GameServerBridge.protocolMessage name sequence [] source destination).length =
      (dumps sequence).length + (dumps source).length + (dumps destination).length + 247 := by
  rw [GameServerBridge.protocolMessage,
    (dumps_record (GameServerBridge.plain_protocolMembers sequence
    [] source destination name)).1, length_object (by simp [GameServerBridge.protocolMembers])]
  have nameLength : (dumps (.str (codePoints name))).length = 14 := by
    rw [dumps, codePoints, (escapeString_eq_iff plain).mpr rfl, quoted, List.length_cons,
      List.length_append, short]
    rfl
  simp only [GameServerBridge.protocolMembers, List.map_cons, List.map_nil, List.sum_cons,
    List.sum_nil, Prod.map, id, orElse_cell sourceCell, orElse_cell destinationCell, nameLength]
  have fixed : (dumps (.int 5)).length = 1 ∧ (dumps (.int 0)).length = 1 ∧
      (dumps (.bool false)).length = 5 ∧ (dumps (.str [])).length = 2 := by decide
  have keys : "version".toList.length = 7 ∧ "type".toList.length = 4 ∧
      "sequence".toList.length = 8 ∧ "source".toList.length = 6 ∧
      "destination".toList.length = 11 ∧ "accepted".toList.length = 8 ∧
      "reason".toList.length = 6 ∧ "playerColor".toList.length = 11 ∧
      "reconnectToken".toList.length = 14 ∧ "username".toList.length = 8 ∧
      "whiteUsername".toList.length = 13 ∧ "blackUsername".toList.length = 13 ∧
      "secondsRemaining".toList.length = 16 ∧ "createdAtMs".toList.length = 11 ∧
      "hasSnapshot".toList.length = 11 := by decide
  simp only [fixed, keys]
  omega

/-- A line is decoded unless it is too long. -/
theorem gameServerReads_line {json : Text} (oneLine : '\n' ∉ json) :
    gameServerReads (GameServerBridge.line json) =
      if json.length ≤ TcpConnection.maxMessageBytes then deserialize json
      else .error "TcpConnection: message is too large" := by
  have arrives : [GameServerBridge.line json].flatten = json ++ '\n' :: [] := List.append_nil _
  rw [gameServerReads, TcpConnection.receiveMessage, require_ok rfl, Except.ok_bind]
  by_cases fits : json.length ≤ TcpConnection.maxMessageBytes
  · have fitsAlone : ([] : Text).length + json.length ≤ TcpConnection.maxMessageBytes := by
      rw [List.length_nil, Nat.zero_add]
      exact fits
    obtain ⟨rest, received, -⟩ := TcpConnection.receiveFrom_line oneLine fitsAlone arrives
    rw [received, if_pos fits]
    rfl
  · have tooLong : TcpConnection.maxMessageBytes < ([] : Text).length + json.length := by
      rw [List.length_nil, Nat.zero_add]
      exact not_le.mp fits
    rw [TcpConnection.receiveFrom_tooLong oneLine (Nat.zero_le _) tooLong arrives, if_neg fits]
    rfl

section Actions

variable {type : MessageType} {number : Int} {source destination : PythonValue}
  (sourceCell : MatchManager.isCell source = true)
  (destinationCell : MatchManager.isCell destination = true)

include sourceCell destinationCell

/-- An action without `bool`s is decoded. -/
theorem deserialize_action (positive : 1 ≤ number) (long : number < 2 ^ 63)
    (sourcePlain : PlainCell source) (destinationPlain : PlainCell destination) :
    ∃ message, deserialize (GameServerBridge.protocolMessage (messageTypeToString type)
        (.int number) [] source destination) = .ok message ∧ message.type = type ∧
      PythonValue.int number = .int message.sequence ∧ NamesCell source message.source ∧
      NamesCell destination message.destination := by
  obtain ⟨json, proper⟩ := dumps_record (GameServerBridge.plain_protocolMembers (.int number) []
    source destination (messageTypeToString type))
  obtain ⟨origin, sourceRead, namesSource⟩ := readPosition_cell proper
    (lookup_dumped "source" source (congrArg some (orElse_cell sourceCell))) sourceCell sourcePlain
  obtain ⟨target, destinationRead, namesDestination⟩ := readPosition_cell proper
    (lookup_dumped "destination" destination (congrArg some (orElse_cell destinationCell)))
    destinationCell destinationPlain
  have natural : (number.toNat : Int) = number := Int.toNat_of_nonneg (by omega)
  have isLong : IsLong (number.toNat : Int) := by
    rw [IsLong]
    omega
  have sequenceRead := readUnsigned_object proper isLong
    (lookup_dumped "sequence" (.int number.toNat) (by rw [natural]; rfl))
  have empty : Spells "" (dumps (.str [])) := ⟨[], rfl, .nil, fun _ => rfl⟩
  have nameRead := readString_object proper empty (lookup_dumped "username" (.str []) rfl)
  have read := GameServerBridge.deserialize_protocolMessage type (.int number) [] source destination
  have message : GameServerBridge.protocolMessage (messageTypeToString type) (.int number) [] source
      destination = object _ := json
  rw [message] at read ⊢
  simp only [sequenceRead, sourceRead, destinationRead, nameRead, Except.ok_bind] at read
  exact ⟨_, read, rfl, congrArg PythonValue.int natural.symm, namesSource, namesDestination⟩

/-- What is decoded had no `bool`s and no larger number. -/
theorem of_deserialize_action {message : Message}
    (read : deserialize (GameServerBridge.protocolMessage (messageTypeToString type) (.int number)
      []
      source destination) = .ok message) :
    number < 2 ^ 63 ∧ PlainCell source ∧ PlainCell destination := by
  obtain ⟨json, proper⟩ := dumps_record (GameServerBridge.plain_protocolMembers (.int number) []
    source destination (messageTypeToString type))
  have sent : GameServerBridge.protocolMessage (messageTypeToString type) (.int number) [] source
      destination = object _ := json
  rw [GameServerBridge.deserialize_protocolMessage, sent] at read
  obtain ⟨_, sequenceRead, read⟩ := Except.bind_eq_ok.mp read
  obtain ⟨_, sourceRead, read⟩ := Except.bind_eq_ok.mp read
  obtain ⟨_, destinationRead, -⟩ := Except.bind_eq_ok.mp read
  obtain ⟨_, signed, -⟩ := Except.bind_eq_ok.mp sequenceRead
  exact ⟨(isLong_of_readSigned_object proper (lookup_dumped "sequence" (.int number) rfl) signed).2,
    plainCell_of_readPosition proper
      (lookup_dumped "source" source (congrArg some (orElse_cell sourceCell)))
      sourceCell sourceRead,
    plainCell_of_readPosition proper
      (lookup_dumped "destination" destination (congrArg some (orElse_cell destinationCell)))
      destinationCell destinationRead⟩

/-- **An action that is sent is understood just in case it fits the protocol.** -/
theorem understood_iff (short : (messageTypeToString type).toList.length = 12)
    (positive : 1 ≤ number) (color : String) :
    Understood type (.int number) source destination
        (MatchManager.sendAction color (messageTypeToString type) (.int number) source
          destination).line ↔
      FitsProtocol (.int number) source destination := by
  have plainType : ∀ character ∈ (messageTypeToString type).toList, PlainAscii character := by
    cases type <;> decide
  have length : _ = (dumps (.int number)).length + (dumps source).length +
      (dumps destination).length + 247 := length_action short plainType sourceCell destinationCell
  have oneLine : '\n' ∉ GameServerBridge.protocolMessage (messageTypeToString type) (.int number) []
      source destination := (clean_dumps _).visible.not_newline
  rw [Understood, MatchManager.sendAction]
  dsimp only
  rw [gameServerReads_line oneLine, FitsProtocol, ← length]
  constructor
  · rintro ⟨message, read, -⟩
    split at read
    · next fits =>
        obtain ⟨long, sourcePlain, destinationPlain⟩ :=
          of_deserialize_action sourceCell destinationCell read
        exact ⟨fun _ same => PythonValue.int.inj same ▸ long, sourcePlain, destinationPlain, fits⟩
    · cases read
  · rintro ⟨long, sourcePlain, destinationPlain, fits⟩
    rw [if_pos fits]
    exact deserialize_action sourceCell destinationCell positive (long number rfl) sourcePlain
      destinationPlain

end Actions

namespace MatchManager

theorem of_positiveSequence {sequence : PythonValue} {number : Int}
    (positive : positiveSequence sequence = some number) : sequence = .int number ∧ 1 ≤ number := by
  cases sequence with
  | int value =>
      obtain ⟨large, same⟩ := Option.ite_none_right_eq_some.mp positive
      cases same
      exact ⟨rfl, large⟩
  | _ => cases positive

/-- **Whatever is forwarded is understood just in case it fits the protocol.** -/
theorem forwarded_understood (manager : MatchManager) (now : Int) (roomId : RoomId)
    (userId : UserId)
    (websocket : ConnectionId) (sequence : PythonValue) :
    (∀ source destination sent claimed,
      manager.move now roomId userId websocket sequence source destination = .ok (sent, claimed) →
        (Understood .moveRequest sequence source destination sent.line ↔
          FitsProtocol sequence source destination)) ∧
    ∀ cell sent claimed,
      manager.jump now roomId userId websocket sequence cell = .ok (sent, claimed) →
        (Understood .jumpRequest sequence cell cell sent.line ↔
          FitsProtocol sequence cell cell) := by
  constructor
  · intro source destination sent claimed forwarded
    rw [move] at forwarded
    split at forwarded
    · cases forwarded
    · next number isSequence =>
        obtain ⟨rfl, positive⟩ := of_positiveSequence isSequence
        split at forwarded
        · cases forwarded
        · next cells =>
            obtain ⟨sourceCell, destinationCell⟩ := Bool.and_eq_true_iff.mp (not_not.mp cells)
            obtain ⟨⟨color, _⟩, -, returned⟩ := Except.bind_eq_ok.mp forwarded
            cases returned
            exact understood_iff sourceCell destinationCell (by decide) positive color
  · intro cell sent claimed forwarded
    rw [jump] at forwarded
    split at forwarded
    · cases forwarded
    · next number isSequence =>
        obtain ⟨rfl, positive⟩ := of_positiveSequence isSequence
        split at forwarded
        · cases forwarded
        · next isCell =>
            obtain ⟨⟨color, _⟩, -, returned⟩ := Except.bind_eq_ok.mp forwarded
            cases returned
            exact understood_iff (not_not.mp isCell) (not_not.mp isCell) (by decide) positive color

/-- A match of two users that starts at time zero. -/
def oneMatch : MatchManager where
  matches_ := (∅ : AList fun _ : RoomId => ActiveMatch).insert 7
    { room := { roomId := 7, name := "Quick Match", visibility := .visible,
                host := { userId := 1, websocket := 11 },
                white := some { userId := 1, websocket := 11 },
                black := some { userId := 2, websocket := 12 } },
      gameStartsAt := 0, shard := ⟨"localhost", 9000⟩ }

/-- A cell with a third member. -/
def taggedCell : PythonValue := .record [("tag", .str (codePoints "\"row\":9")), ("row", .int 6),
    ("col", .int 4)]

theorem forwarded_understood_taggedCell :
    (Understood .moveRequest (.int 1) taggedCell (GameServerBridge.position 4 4)
        (sendAction "white" "move_request" (.int 1) taggedCell
          (GameServerBridge.position 4 4)).line ↔
      FitsProtocol (.int 1) taggedCell (GameServerBridge.position 4 4)) ∧
    (Understood .jumpRequest (.int 1) taggedCell taggedCell
        (sendAction "white" "jump_request" (.int 1) taggedCell taggedCell).line ↔
      FitsProtocol (.int 1) taggedCell taggedCell) :=
  ⟨(oneMatch.forwarded_understood 1 7 1 11 (.int 1)).1 taggedCell (GameServerBridge.position 4 4) _
    _ rfl,
    (oneMatch.forwarded_understood 1 7 1 11 (.int 1)).2 taggedCell _ _ rfl⟩

/-- A move whose row is `true`, and a jump with a number of twenty digits, are forwarded, but
the game server refuses both. -/
theorem trueRow_refused :
    (∃ sent claimed, oneMatch.move 1 7 1 11 (.int 1) (.record [("row", .bool true),
      ("col", .int 0)])
        (GameServerBridge.position 2 0) = .ok (sent, claimed) ∧
      ¬ Understood .moveRequest (.int 1) (.record [("row", .bool true), ("col", .int 0)])
        (GameServerBridge.position 2 0) sent.line) ∧
    ∃ sent claimed, oneMatch.jump 1 7 1 11 (.int (2 ^ 63)) (GameServerBridge.position 6 0) =
        .ok (sent, claimed) ∧
      ¬ Understood .jumpRequest (.int (2 ^ 63)) (GameServerBridge.position 6 0)
        (GameServerBridge.position 6 0) sent.line := by
  have moved : Understood .moveRequest (.int 1) (.record [("row", .bool true), ("col", .int 0)])
      (GameServerBridge.position 2 0) _ ↔ _ :=
    understood_iff (by decide +kernel) (by decide +kernel) (by decide) (by decide) "white"
  have jumped : Understood .jumpRequest (.int (2 ^ 63)) (GameServerBridge.position 6 0)
      (GameServerBridge.position 6 0) _ ↔ _ :=
    understood_iff (by decide +kernel) (by decide +kernel) (by decide) (by decide) "white"
  refine ⟨⟨_, _, rfl, fun understood => ?_⟩, _, _, rfl, fun understood => ?_⟩
  · have row := (moved.mp understood).2.1.1
    exact absurd row (by decide +kernel)
  · exact absurd ((jumped.mp understood).1 _ rfl) (by decide)

end MatchManager

end KungFuChess

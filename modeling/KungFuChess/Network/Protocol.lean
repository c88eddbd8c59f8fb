import KungFuChess.Library.Exceptions
import KungFuChess.Library.JsonText
import KungFuChess.Messaging.Message

/-!
# The protocol

The codec of the messages. The reader parses no tree: it finds the text of a member
by scanning an object for its key, and the end of an object or an array by counting
delimiters, both outside of strings. A position in a text is the part of the text
that starts there; an exception is its message.
-/

set_option autoImplicit false

namespace KungFuChess

namespace Protocol

open JsonText

/-- The version both sides write and require. -/
def version : Int := 5

/-! ## Scanning -/

def skipWhitespace (text : Text) : Text := text.dropWhile Username.isSpace

/-- One turn of the loop of `escapeJson`. Control characters other than the three with
an escape of their own are refused. -/
def escapeCharacter (character : Char) : Except String Text :=
  match character with
  | '\\' => .ok ['\\', '\\']
  | '"' => .ok ['\\', '"']
  | '\n' => .ok ['\\', 'n']
  | '\r' => .ok ['\\', 'r']
  | '\t' => .ok ['\\', 't']
  | _ =>
      if character.toNat < 0x20 then .error "Protocol: unsupported control character"
      else .ok [character]

def escapeJson : Text → Except String Text
  | [] => .ok []
  | character :: value => do
      let first ← escapeCharacter character
      let rest ← escapeJson value
      return first ++ rest

/-- From behind an opening quote: the text up to the quote that closes the string,
and the text behind that quote. -/
def findStringEnd (escaped : Bool) : Text → Except String (Text × Text)
  | [] => .error "Protocol: unterminated string"
  | character :: rest =>
      if escaped then (Prod.map (character :: ·) id) <$> findStringEnd false rest
      else if character = '\\' then (Prod.map (character :: ·) id) <$> findStringEnd true rest
      else if character = '"' then .ok ([], rest)
      else (Prod.map (character :: ·) id) <$> findStringEnd false rest

/-- The text behind the end of a string is a part of the text. -/
theorem findStringEnd_length {escaped : Bool} {text content after : Text}
    (found : findStringEnd escaped text = .ok (content, after)) : after.length < text.length := by
  induction text generalizing escaped content with
  | nil => cases found
  | cons character rest ih =>
      have behind : ∀ {skipped : Bool},
          Prod.map (character :: ·) id <$> findStringEnd skipped rest =
          .ok (content, after) → after.length < (character :: rest).length := by
        intro skipped mapped
        obtain ⟨_, ended, same⟩ := Except.map_eq_ok.mp mapped
        cases same
        exact (ih ended).trans (Nat.lt_succ_self _)
      rw [findStringEnd] at found
      split at found
      · exact behind found
      · split at found
        · exact behind found
        · split at found
          · cases found
            exact Nat.lt_succ_self _
          · exact behind found

/-- The loop of `findValue`. It stops at the last character of the object. -/
def findValueFrom (key : String) (objectDepth arrayDepth : Int) (rest : Text) :
    Except String Text :=
  match rest with
  | [] | [_] => .error ("Protocol: missing field '" ++ key ++ "'")
  | character :: next =>
      if character = '"' then
        match _found : findStringEnd false next with
        | .error text => .error text
        | .ok (content, after) =>
            match skipWhitespace after with
            | ':' :: value =>
                if objectDepth = 1 ∧ arrayDepth = 0 ∧ content = key.toList then
                  .ok (skipWhitespace value)
                else findValueFrom key objectDepth arrayDepth after
            | _ => findValueFrom key objectDepth arrayDepth after
      else if character = '{' then findValueFrom key (objectDepth + 1) arrayDepth next
      else if character = '}' then findValueFrom key (objectDepth - 1) arrayDepth next
      else if character = '[' then findValueFrom key objectDepth (arrayDepth + 1) next
      else if character = ']' then findValueFrom key objectDepth (arrayDepth - 1) next
      else findValueFrom key objectDepth arrayDepth next
termination_by rest.length
decreasing_by
  all_goals first
    | exact (findStringEnd_length _found).trans (Nat.lt_succ_self _)
    | exact Nat.lt_succ_self _

def findValue (json : Text) (key : String) : Except String Text :=
  if json.length < 2 ∨ json.head? ≠ some '{' ∨ json.getLast? ≠ some '}' then
    .error "Protocol: expected a JSON object"
  else findValueFrom key 1 0 json.tail

/-- The loop of `findMatchingDelimiter`: the text up to the closing delimiter, and
the text behind it. -/
def findMatchingDelimiterFrom (opening closing : Char) (depth : Int) (text : Text) :
    Except String (Text × Text) :=
  match text with
  | [] => .error "Protocol: unmatched JSON delimiter"
  | character :: rest =>
      if character = '"' then
        match _found : findStringEnd false rest with
        | .error text => .error text
        | .ok (content, after) =>
            Prod.map (quoted content ++ ·) id <$>
              findMatchingDelimiterFrom opening closing depth after
      else if character = opening then
        Prod.map (character :: ·) id <$>
          findMatchingDelimiterFrom opening closing (depth + 1) rest
      else if character = closing then
        if depth - 1 = 0 then .ok ([character], rest)
        else
          Prod.map (character :: ·) id <$>
            findMatchingDelimiterFrom opening closing (depth - 1) rest
      else Prod.map (character :: ·) id <$> findMatchingDelimiterFrom opening closing depth rest
termination_by text.length
decreasing_by
  all_goals first
    | exact (findStringEnd_length _found).trans (Nat.lt_succ_self _)
    | exact Nat.lt_succ_self _

def findMatchingDelimiter (opening closing : Char) (text : Text) : Except String (Text × Text) :=
  if text.head? ≠ some opening then .error "Protocol: invalid JSON delimiter"
  else findMatchingDelimiterFrom opening closing 0 text

/-- The text behind a matching delimiter is a part of the text. -/
theorem findMatchingDelimiterFrom_length {opening closing : Char} {depth : Int}
    {text consumed after : Text}
    (found : findMatchingDelimiterFrom opening closing depth text = .ok (consumed, after)) :
    after.length < text.length := by
  fun_induction findMatchingDelimiterFrom opening closing depth text generalizing consumed with
  | case1 => cases found
  | case2 => cases found
  | case3 depth rest content behind ended ih =>
      obtain ⟨_, matched, same⟩ := Except.map_eq_ok.mp found
      cases same
      exact (ih matched).trans ((findStringEnd_length ended).trans (Nat.lt_succ_self _))
  | case5 =>
      cases found
      exact Nat.lt_succ_self _
  | case4 | case6 | case7 =>
      rename_i ih
      obtain ⟨_, matched, same⟩ := Except.map_eq_ok.mp found
      cases same
      exact (ih matched).trans (Nat.lt_succ_self _)

theorem findMatchingDelimiter_length {opening closing : Char} {text consumed after : Text}
    (found : findMatchingDelimiter opening closing text = .ok (consumed, after)) :
    after.length < text.length := by
  rw [findMatchingDelimiter] at found
  split at found
  · cases found
  · exact findMatchingDelimiterFrom_length found

/-! ## Reading members -/

/-- A check that throws the message when it fails. -/
def require (condition : Prop) [Decidable condition] (message : String) : Except String Unit :=
  if condition then .ok () else .error message

/-- `readObject` and `readArray`: the text of a member that has to start with a
delimiter, up to the end of that delimiter. -/
def readDelimited (opening closing : Char) (kind : String) (json : Text) (key : String) :
    Except String Text := do
  let start ← findValue json key
  require (start.head? = some opening) ("Protocol: field '" ++ key ++ "' must be an " ++ kind)
  let (text, _) ← findMatchingDelimiter opening closing start
  return text

def readObject : Text → String → Except String Text := readDelimited '{' '}' "object"

def readArray : Text → String → Except String Text := readDelimited '[' ']' "array"

/-- The loop of `readObjectArray`, at the start of an object. It stops at the last
character of the array. -/
def readObjectsFrom (key : String) (array : Text) : Except String (List Text) :=
  if array.length ≤ 1 then .ok []
  else if array.head? ≠ some '{' then
    .error ("Protocol: array '" ++ key ++ "' must contain objects")
  else
    match _found : findMatchingDelimiter '{' '}' array with
    | .error text => .error text
    | .ok (object, behind) =>
        match _skipped : skipWhitespace behind with
        | [_] => .ok [object]
        | ',' :: next =>
            if (skipWhitespace next).length = 1 then
              .error ("Protocol: trailing comma in array '" ++ key ++ "'")
            else (object :: ·) <$> readObjectsFrom key (skipWhitespace next)
        | _ => .error ("Protocol: invalid array '" ++ key ++ "'")
termination_by array.length
decreasing_by
  have behindArray := findMatchingDelimiter_length _found
  have skipped := (List.dropWhile_suffix Username.isSpace (l := behind)).length_le
  have spaces := (List.dropWhile_suffix Username.isSpace (l := next)).length_le
  rw [skipWhitespace] at _skipped ⊢
  rw [_skipped, List.length_cons] at skipped
  omega

def readObjectArray (json : Text) (key : String) : Except String (List Text) := do
  let array ← readArray json key
  readObjectsFrom key (skipWhitespace array.tail)

/-! ## Reading values -/

/-- The character that an escape stands for. -/
def unescape : Char → Option Char
  | '\\' => some '\\'
  | '"' => some '"'
  | 'n' => some '\n'
  | 'r' => some '\r'
  | 't' => some '\t'
  | _ => none

/-- The loop of `readString`, from behind the opening quote. -/
def readStringFrom (escaped : Bool) : Text → Except String Text
  | [] => .error "Protocol: unterminated string"
  | character :: rest =>
      if escaped then
        match unescape character with
        | none => .error "Protocol: invalid string escape"
        | some meant => (meant :: ·) <$> readStringFrom false rest
      else if character = '\\' then readStringFrom true rest
      else if character = '"' then .ok []
      else (character :: ·) <$> readStringFrom false rest

def readString (json : Text) (key : String) : Except String String := do
  match ← findValue json key with
  | '"' :: rest => String.ofList <$> readStringFrom false rest
  | _ => throw ("Protocol: field '" ++ key ++ "' must be a string")

/-- `std::stoll`: the number a text starts with, and the text behind it. -/
def stoll (text : Text) : Option (Int × Text) :=
  let body := skipWhitespace text
  let unsigned := if body.head? = some '-' ∨ body.head? = some '+' then body.tail else body
  let digits := unsigned.takeWhile Char.isDigit
  let magnitude : Int := Nat.ofDigitChars 10 digits 0
  let value := if body.head? = some '-' then -magnitude else magnitude
  if digits = [] ∨ value < -2 ^ 63 ∨ 2 ^ 63 ≤ value then none
  else some (value, unsigned.dropWhile Char.isDigit)

/-- What may follow a number, past white space. -/
def endsNumber (text : Text) : Bool :=
  match skipWhitespace text with
  | character :: _ => character = ',' || character = '}' || character = ']'
  | [] => false

def readSigned (json : Text) (key : String) : Except String Int := do
  let start ← findValue json key
  match stoll start with
  | some (value, after) =>
      if endsNumber after then return value
      else throw ("Protocol: field '" ++ key ++ "' must be an integer")
  | none => throw ("Protocol: field '" ++ key ++ "' must be an integer")

def readInt (json : Text) (key : String) : Except String Int := do
  let value ← readSigned json key
  require (-2 ^ 31 ≤ value ∧ value < 2 ^ 31)
    ("Protocol: field '" ++ key ++ "' is outside the integer range")
  return value

def requireNonNegative (value : Int) (field : String) : Except String Unit :=
  require (0 ≤ value) ("Protocol: field '" ++ field ++ "' cannot be negative")

def readUnsigned (json : Text) (key : String) : Except String Nat := do
  let value ← readSigned json key
  requireNonNegative value key
  return value.toNat

def readBool (json : Text) (key : String) : Except String Bool := do
  let start ← findValue json key
  if "true".toList.isPrefixOf start then return true
  else if "false".toList.isPrefixOf start then return false
  else throw ("Protocol: field '" ++ key ++ "' must be boolean")

def isBoardPosition (position : Position) : Prop :=
  0 ≤ position.row ∧ position.row ≤ 7 ∧ 0 ≤ position.col ∧ position.col ≤ 7

instance : DecidablePred isBoardPosition := fun _ => inferInstanceAs (Decidable (_ ∧ _))

/-- Only the positions of a message may be unused. -/
def readPosition (allowUnused : Bool) (json : Text) (key : String) : Except String Position := do
  let object ← readObject json key
  let row ← readInt object "row"
  let col ← readInt object "col"
  require ((allowUnused = true ∧ row = -1 ∧ col = -1) ∨ isBoardPosition ⟨row, col⟩)
    ("Protocol: position '" ++ key ++ "' is outside the board")
  return ⟨row, col⟩

/-! ## Writing values -/

def number (value : Int) : Text :=
  if value < 0 then '-' :: Nat.toDigits 10 value.natAbs else Nat.toDigits 10 value.natAbs

def boolean (value : Bool) : Text := if value then "true".toList else "false".toList

def string (value : String) : Except String Text := quoted <$> escapeJson value.toList

def writePosition (position : Position) : Text :=
  object [("row", number position.row), ("col", number position.col)]

def writePiece (piece : PieceSnapshot) : Except String Text := do
  let token ← string piece.token
  let state ← string piece.state
  return object [("id", number piece.id), ("token", token),
    ("position", writePosition piece.position), ("state", state),
    ("hasMoved", boolean piece.hasMoved),
    ("remainingCooldownMs", number piece.remainingCooldownMs),
    ("totalCooldownMs", number piece.totalCooldownMs)]

def writeMotion (motion : MotionSnapshot) : Text :=
  object [("pieceId", number motion.pieceId), ("source", writePosition motion.source),
    ("destination", writePosition motion.destination),
    ("currentCell", writePosition motion.currentCell), ("rowStep", number motion.rowStep),
    ("colStep", number motion.colStep), ("directMove", boolean motion.directMove),
    ("stepDurationMs", number motion.stepDurationMs),
    ("nextStepTimeMs", number motion.nextStepTimeMs), ("order", number motion.order)]

def writeJump (jump : JumpSnapshot) : Text :=
  object [("pieceId", number jump.pieceId), ("cell", writePosition jump.cell),
    ("finishTimeMs", number jump.finishTimeMs)]

def writeHistory (history : MoveHistorySnapshot) : Except String Text := do
  let color ← string history.color
  let pieceKind ← string history.pieceKind
  let notationText ← string history.notationText
  return object [("completedAtMs", number history.completedAtMs), ("color", color),
    ("pieceKind", pieceKind), ("source", writePosition history.source),
    ("destination", writePosition history.destination),
    ("wasCapture", boolean history.wasCapture), ("wasPromotion", boolean history.wasPromotion),
    ("wasJump", boolean history.wasJump), ("notation", notationText)]

def writeSnapshot (snapshot : GameStateSnapshot) : Except String Text := do
  let whiteUsername ← string snapshot.whiteUsername
  let blackUsername ← string snapshot.blackUsername
  let pieces ← snapshot.pieces.mapM writePiece
  let whiteMoveHistory ← snapshot.whiteMoveHistory.mapM writeHistory
  let blackMoveHistory ← snapshot.blackMoveHistory.mapM writeHistory
  return object [("serverTimeMs", number snapshot.serverTimeMs),
    ("gameOver", boolean snapshot.gameOver), ("whiteScore", number snapshot.whiteScore),
    ("blackScore", number snapshot.blackScore), ("whiteUsername", whiteUsername),
    ("blackUsername", blackUsername), ("playersReady", boolean snapshot.playersReady),
    ("gameplayStartsAtEpochMs", number snapshot.gameplayStartsAtEpochMs),
    ("pieces", array pieces), ("motions", array (snapshot.motions.map writeMotion)),
    ("jumps", array (snapshot.jumps.map writeJump)),
    ("whiteMoveHistory", array whiteMoveHistory), ("blackMoveHistory", array blackMoveHistory)]

/-! ## Reading records -/

def isValidToken (token : String) : Bool :=
  match token.toList with
  | [color, kind] => (color = 'w' || color = 'b') && "KQRBNP".toList.contains kind
  | _ => false

def isValidState (state : String) : Bool :=
  state = "idle" || state = "moving" || state = "airborne" || state = "captured"

def isValidColor (color : String) : Bool := color = "w" || color = "b"

def isValidKind (kind : String) : Bool :=
  match kind.toList with
  | [letter] => "KQRBNP".toList.contains letter
  | _ => false

def readPiece (object : Text) : Except String PieceSnapshot := do
  let id ← readInt object "id"
  let token ← readString object "token"
  let position ← readPosition false object "position"
  let state ← readString object "state"
  let hasMoved ← readBool object "hasMoved"
  let remainingCooldownMs ← readSigned object "remainingCooldownMs"
  let totalCooldownMs ← readSigned object "totalCooldownMs"
  require (0 ≤ id) "Protocol: piece id cannot be negative"
  require (isValidToken token) "Protocol: invalid piece token"
  require (isValidState state) "Protocol: invalid piece state"
  requireNonNegative remainingCooldownMs "remainingCooldownMs"
  requireNonNegative totalCooldownMs "totalCooldownMs"
  require (remainingCooldownMs ≤ totalCooldownMs)
    "Protocol: remaining cooldown exceeds total cooldown"
  return {
    id := id.toNat
    token := token
    position := position
    state := state
    hasMoved := hasMoved
    remainingCooldownMs := remainingCooldownMs
    totalCooldownMs := totalCooldownMs }

def readMotion (object : Text) : Except String MotionSnapshot := do
  let pieceId ← readInt object "pieceId"
  let source ← readPosition false object "source"
  let destination ← readPosition false object "destination"
  let currentCell ← readPosition false object "currentCell"
  let rowStep ← readInt object "rowStep"
  let colStep ← readInt object "colStep"
  let directMove ← readBool object "directMove"
  let stepDurationMs ← readSigned object "stepDurationMs"
  let nextStepTimeMs ← readSigned object "nextStepTimeMs"
  let order ← readInt object "order"
  require (0 ≤ pieceId) "Protocol: motion pieceId cannot be negative"
  require (-1 ≤ rowStep ∧ rowStep ≤ 1 ∧ -1 ≤ colStep ∧ colStep ≤ 1)
    "Protocol: motion step must be between -1 and 1"
  requireNonNegative stepDurationMs "stepDurationMs"
  requireNonNegative nextStepTimeMs "nextStepTimeMs"
  require (0 ≤ order) "Protocol: motion order cannot be negative"
  return {
    pieceId := pieceId.toNat
    source := source
    destination := destination
    currentCell := currentCell
    rowStep := rowStep
    colStep := colStep
    directMove := directMove
    stepDurationMs := stepDurationMs
    nextStepTimeMs := nextStepTimeMs
    order := order.toNat }

def readJump (object : Text) : Except String JumpSnapshot := do
  let pieceId ← readInt object "pieceId"
  let cell ← readPosition false object "cell"
  let finishTimeMs ← readSigned object "finishTimeMs"
  require (0 ≤ pieceId) "Protocol: jump pieceId cannot be negative"
  requireNonNegative finishTimeMs "finishTimeMs"
  return { pieceId := pieceId.toNat, cell := cell, finishTimeMs := finishTimeMs }

def readHistory (object : Text) : Except String MoveHistorySnapshot := do
  let completedAtMs ← readSigned object "completedAtMs"
  let color ← readString object "color"
  let pieceKind ← readString object "pieceKind"
  let source ← readPosition false object "source"
  let destination ← readPosition false object "destination"
  let wasCapture ← readBool object "wasCapture"
  let wasPromotion ← readBool object "wasPromotion"
  let wasJump ← readBool object "wasJump"
  let notationText ← readString object "notation"
  requireNonNegative completedAtMs "completedAtMs"
  require (isValidColor color) "Protocol: invalid history color"
  require (isValidKind pieceKind) "Protocol: invalid history piece kind"
  return {
    completedAtMs := completedAtMs
    color := color
    pieceKind := pieceKind
    source := source
    destination := destination
    wasCapture := wasCapture
    wasPromotion := wasPromotion
    wasJump := wasJump
    notationText := notationText }

/-- One loop over the objects of an array member. -/
def readAll {Item : Type} (read : Text → Except String Item) (json : Text) (key : String) :
    Except String (List Item) := do
  (← readObjectArray json key).mapM read

def readSnapshot (object : Text) : Except String GameStateSnapshot := do
  let serverTimeMs ← readSigned object "serverTimeMs"
  let gameOver ← readBool object "gameOver"
  let whiteScore ← readInt object "whiteScore"
  let blackScore ← readInt object "blackScore"
  let whiteUsername ← readString object "whiteUsername"
  let blackUsername ← readString object "blackUsername"
  let playersReady ← readBool object "playersReady"
  let gameplayStartsAtEpochMs ← readSigned object "gameplayStartsAtEpochMs"
  requireNonNegative serverTimeMs "serverTimeMs"
  requireNonNegative gameplayStartsAtEpochMs "gameplayStartsAtEpochMs"
  require (0 ≤ whiteScore ∧ 0 ≤ blackScore) "Protocol: scores cannot be negative"
  let pieces ← readAll readPiece object "pieces"
  let motions ← readAll readMotion object "motions"
  let jumps ← readAll readJump object "jumps"
  let whiteMoveHistory ← readAll readHistory object "whiteMoveHistory"
  let blackMoveHistory ← readAll readHistory object "blackMoveHistory"
  return {
    serverTimeMs := serverTimeMs
    gameOver := gameOver
    whiteScore := whiteScore
    blackScore := blackScore
    whiteUsername := whiteUsername
    blackUsername := blackUsername
    playersReady := playersReady
    gameplayStartsAtEpochMs := gameplayStartsAtEpochMs
    pieces := pieces
    motions := motions
    jumps := jumps
    whiteMoveHistory := whiteMoveHistory
    blackMoveHistory := blackMoveHistory }

/-! ## Messages -/

def messageTypeToString : MessageType → String
  | .moveRequest => "move_request"
  | .jumpRequest => "jump_request"
  | .moveAccepted => "move_accepted"
  | .moveRejected => "move_rejected"
  | .playerAssigned => "player_assigned"
  | .waitingForOpponent => "waiting_for_opponent"
  | .gameStarted => "game_started"
  | .gameFull => "game_full"
  | .invalidUsername => "invalid_username"
  | .reconnectRequest => "reconnect_request"
  | .reconnecting => "reconnecting"
  | .gameClosed => "game_closed"
  | .gameStateUpdated => "game_state_updated"
  | .gameOver => "game_over"

def messageTypeFromString (value : String) : Except String MessageType :=
  match value with
  | "move_request" => .ok .moveRequest
  | "jump_request" => .ok .jumpRequest
  | "move_accepted" => .ok .moveAccepted
  | "move_rejected" => .ok .moveRejected
  | "player_assigned" => .ok .playerAssigned
  | "waiting_for_opponent" => .ok .waitingForOpponent
  | "game_started" => .ok .gameStarted
  | "game_full" => .ok .gameFull
  | "invalid_username" => .ok .invalidUsername
  | "reconnect_request" => .ok .reconnectRequest
  | "reconnecting" => .ok .reconnecting
  | "game_closed" => .ok .gameClosed
  | "game_state_updated" => .ok .gameStateUpdated
  | "game_over" => .ok .gameOver
  | _ => .error ("Protocol: unsupported message type '" ++ value ++ "'")

/-- The last member of a message, where it has a snapshot. -/
def writeSnapshotMember (message : Message) : Except String (List Member) :=
  if message.hasSnapshot then (fun text => [("snapshot", text)]) <$> writeSnapshot message.snapshot
  else pure []

/-- The text of a message. -/
def serialize (message : Message) : Except String Text := do
  let reason ← string message.reason
  let playerColor ← string message.playerColor
  let reconnectToken ← string message.reconnectToken
  let username ← string message.username
  let whiteUsername ← string message.whiteUsername
  let blackUsername ← string message.blackUsername
  let snapshot ← writeSnapshotMember message
  return object ([("version", number version),
    ("type", quoted (messageTypeToString message.type).toList),
    ("sequence", number message.sequence), ("source", writePosition message.source),
    ("destination", writePosition message.destination), ("accepted", boolean message.accepted),
    ("reason", reason), ("playerColor", playerColor), ("reconnectToken", reconnectToken),
    ("username", username), ("whiteUsername", whiteUsername), ("blackUsername", blackUsername),
    ("secondsRemaining", number message.secondsRemaining),
    ("createdAtMs", number message.createdAtMs), ("hasSnapshot", boolean message.hasSnapshot)] ++
    snapshot)

def readSnapshotMember (hasSnapshot : Bool) (json : Text) : Except String GameStateSnapshot :=
  if hasSnapshot then do readSnapshot (← readObject json "snapshot") else pure {}

def deserialize (json : Text) : Except String Message := do
  require (json.head? = some '{' ∧ json.getLast? = some '}')
    "Protocol: message must be a JSON object"
  let sent ← readSigned json "version"
  require (sent = version) "Protocol: unsupported protocol version"
  let type ← messageTypeFromString (← readString json "type")
  let sequence ← readUnsigned json "sequence"
  let source ← readPosition true json "source"
  let destination ← readPosition true json "destination"
  let accepted ← readBool json "accepted"
  let reason ← readString json "reason"
  let playerColor ← readString json "playerColor"
  let reconnectToken ← readString json "reconnectToken"
  let username ← readString json "username"
  let whiteUsername ← readString json "whiteUsername"
  let blackUsername ← readString json "blackUsername"
  let secondsRemaining ← readInt json "secondsRemaining"
  let createdAtMs ← readSigned json "createdAtMs"
  let hasSnapshot ← readBool json "hasSnapshot"
  requireNonNegative createdAtMs "createdAtMs"
  requireNonNegative secondsRemaining "secondsRemaining"
  let snapshot ← readSnapshotMember hasSnapshot json
  return {
    type := type
    sequence := sequence
    source := source
    destination := destination
    accepted := accepted
    reason := reason
    playerColor := playerColor
    reconnectToken := reconnectToken
    username := username
    whiteUsername := whiteUsername
    blackUsername := blackUsername
    secondsRemaining := secondsRemaining
    createdAtMs := createdAtMs
    hasSnapshot := hasSnapshot
    snapshot := snapshot }

end Protocol

end KungFuChess

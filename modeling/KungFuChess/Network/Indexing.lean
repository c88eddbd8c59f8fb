import KungFuChess.Library.Positions
import KungFuChess.Network.Protocol

/-!
# The decoder by positions

The reader of the protocol once more, with the positions that it computes in the text of
a message: every subscript, every `substr`, every `compare` and every difference of sizes
is checked. Each scan agrees with the one on parts of the text, so no access is out of
range, whatever the text.

A `catch (...)` catches what is thrown, but not an access that is out of range. The depths
are integers without a bound.
-/

set_option autoImplicit false

namespace KungFuChess

namespace Protocol

open JsonText Fault

namespace Indexed

/-- A computation that reads a text by positions. -/
abbrev Checked (Value : Type) := Except (Fault String) Value

def invalidArgument {Value : Type} (message : String) : Checked Value := .error (.thrown message)

/-! ## Scanning -/

def skipWhitespace (text : Text) (position : Nat) : Checked Nat :=
  if _inside : position < text.length then do
    let character ← itemAt text position
    if Username.isSpace character then skipWhitespace text (position + 1) else return position
  else return position
termination_by text.length - position

/-- The loop of `findStringEnd`. -/
def findStringEndFrom (text : Text) (escaped : Bool) (position : Nat) : Checked Nat :=
  if _inside : position < text.length then do
    let character ← itemAt text position
    if escaped then findStringEndFrom text false (position + 1)
    else if character = '\\' then findStringEndFrom text true (position + 1)
    else if character = '"' then return position
    else findStringEndFrom text false (position + 1)
  else invalidArgument "Protocol: unterminated string"
termination_by text.length - position

def findStringEnd (text : Text) (start : Nat) : Checked Nat :=
  findStringEndFrom text false (start + 1)

theorem skipWhitespace_le {text : Text} {position last : Nat}
    (found : skipWhitespace text position = .ok last) : position ≤ last := by
  induction position using skipWhitespace.induct text with
  | case1 position inside ih =>
      rw [skipWhitespace, dif_pos inside] at found
      obtain ⟨character, -, next⟩ := Except.bind_eq_ok.mp found
      split at next
      · exact (Nat.le_succ _).trans (ih next)
      · cases next
        exact le_rfl
  | case2 position outside =>
      rw [skipWhitespace, dif_neg outside] at found
      cases found
      exact le_rfl

theorem findStringEndFrom_le {text : Text} {escaped : Bool} {position last : Nat}
    (found : findStringEndFrom text escaped position = .ok last) : position ≤ last := by
  induction escaped, position using findStringEndFrom.induct text with
  | case1 escaped position inside plain skipped =>
      rw [findStringEndFrom, dif_pos inside] at found
      obtain ⟨character, -, next⟩ := Except.bind_eq_ok.mp found
      split at next
      · exact (Nat.le_succ _).trans (plain next)
      · split at next
        · exact (Nat.le_succ _).trans (skipped next)
        · split at next
          · cases next
            exact le_rfl
          · exact (Nat.le_succ _).trans (plain next)
  | case2 escaped position outside =>
      rw [findStringEndFrom, dif_neg outside] at found
      cases found

/-- The test of `findValue` at a string that closes at `last`: the value behind the key. -/
def keyValue (json : Text) (key : String) (position last : Nat) : Checked (Option Nat) := do
  let after ← skipWhitespace json (last + 1)
  if after < json.length then
    let separator ← itemAt json after
    if separator = ':' then
      let content ← substr json (position + 1) (← minus (← minus last position) 1)
      if content = key.toList then
        let start ← skipWhitespace json (after + 1)
        return some start
      else return none
    else return none
  else return none

/-- The loop of `findValue`. -/
def findValueFrom (json : Text) (key : String) (objectDepth arrayDepth : Int) (position : Nat) :
    Checked Nat :=
  if _inside : position + 1 < json.length then do
    let character ← itemAt json position
    if character = '"' then
      match _found : findStringEnd json position with
      | .error fault => .error fault
      | .ok last => do
          let value? ←
            if objectDepth = 1 ∧ arrayDepth = 0 then keyValue json key position last
            else pure none
          match value? with
          | some start => return start
          | none => findValueFrom json key objectDepth arrayDepth (last + 1)
    else if character = '{' then findValueFrom json key (objectDepth + 1) arrayDepth (position + 1)
    else if character = '}' then findValueFrom json key (objectDepth - 1) arrayDepth (position + 1)
    else if character = '[' then findValueFrom json key objectDepth (arrayDepth + 1) (position + 1)
    else if character = ']' then findValueFrom json key objectDepth (arrayDepth - 1) (position + 1)
    else findValueFrom json key objectDepth arrayDepth (position + 1)
  else invalidArgument ("Protocol: missing field '" ++ key ++ "'")
termination_by json.length - position
decreasing_by
  all_goals first
    | omega
    | (have later := findStringEndFrom_le _found; omega)

/-- The tests of the first and of the last character of an object. -/
def isEnclosed (json : Text) : Checked Bool := do
  let first ← itemAt json 0
  if first = '{' then
    let last ← itemAt json (← minus json.length 1)
    return last = '}'
  else return false

def findValue (json : Text) (key : String) : Checked Nat := do
  if json.length < 2 then invalidArgument "Protocol: expected a JSON object"
  else if ← isEnclosed json then findValueFrom json key 1 0 1
  else invalidArgument "Protocol: expected a JSON object"

/-- Whether a character stands at a position that may be the end of the text. -/
def startsWith (text : Text) (position : Nat) (character : Char) : Checked Bool :=
  if position < text.length then do return (← itemAt text position) = character
  else return false

/-- The loop of `findMatchingDelimiter`. -/
def findMatchingDelimiterFrom (text : Text) (opening closing : Char) (depth : Int)
    (position : Nat) : Checked Nat :=
  if _inside : position < text.length then do
    let character ← itemAt text position
    if character = '"' then
      match _found : findStringEnd text position with
      | .error fault => .error fault
      | .ok last => findMatchingDelimiterFrom text opening closing depth (last + 1)
    else if character = opening then
      findMatchingDelimiterFrom text opening closing (depth + 1) (position + 1)
    else if character = closing then
      if depth - 1 = 0 then return position
      else findMatchingDelimiterFrom text opening closing (depth - 1) (position + 1)
    else findMatchingDelimiterFrom text opening closing depth (position + 1)
  else invalidArgument "Protocol: unmatched JSON delimiter"
termination_by text.length - position
decreasing_by
  all_goals first
    | omega
    | (have later := findStringEndFrom_le _found; omega)

def findMatchingDelimiter (text : Text) (start : Nat) (opening closing : Char) : Checked Nat := do
  if ← startsWith text start opening then
    findMatchingDelimiterFrom text opening closing 0 start
  else invalidArgument "Protocol: invalid JSON delimiter"

/-! ## Reading members -/

def readDelimited (opening closing : Char) (kind : String) (json : Text) (key : String) :
    Checked Text := do
  let start ← findValue json key
  if ← startsWith json start opening then
    let last ← findMatchingDelimiter json start opening closing
    substr json start ((← minus last start) + 1)
  else invalidArgument ("Protocol: field '" ++ key ++ "' must be an " ++ kind)

def readObject : Text → String → Checked Text := readDelimited '{' '}' "object"

def readArray : Text → String → Checked Text := readDelimited '[' ']' "array"

theorem findMatchingDelimiterFrom_le {text : Text} {opening closing : Char} {depth : Int}
    {position last : Nat}
    (found : findMatchingDelimiterFrom text opening closing depth position = .ok last) :
    position ≤ last := by
  induction depth, position using findMatchingDelimiterFrom.induct text with
  | case1 depth position inside behind deeper higher beside =>
      rw [findMatchingDelimiterFrom, dif_pos inside] at found
      obtain ⟨character, -, next⟩ := Except.bind_eq_ok.mp found
      split at next
      · split at next
        · cases next
        · next last ended =>
            have later := findStringEndFrom_le ended
            have onward := behind last ended next
            omega
      · split at next
        · exact (Nat.le_succ _).trans (deeper next)
        · split at next
          · split at next
            · cases next
              exact le_rfl
            · exact (Nat.le_succ _).trans (higher next)
          · exact (Nat.le_succ _).trans (beside next)
  | case2 depth position outside =>
      rw [findMatchingDelimiterFrom, dif_neg outside] at found
      cases found

theorem findMatchingDelimiter_le {text : Text} {opening closing : Char} {start last : Nat}
    (found : findMatchingDelimiter text start opening closing = .ok last) : start ≤ last := by
  obtain ⟨stands, -, found⟩ := Except.bind_eq_ok.mp found
  split at found
  · exact findMatchingDelimiterFrom_le found
  · cases found

/-- The loop of `readObjectArray`; `back` is the position of the last character. -/
def readObjectsFrom (key : String) (array : Text) (back position : Nat) : Checked (List Text) :=
  if _inside : position < back then do
    let opening ← itemAt array position
    if opening ≠ '{' then
      invalidArgument ("Protocol: array '" ++ key ++ "' must contain objects")
    else
      match _found : findMatchingDelimiter array position '{' '}' with
      | .error fault => .error fault
      | .ok last => do
          let object ← substr array position ((← minus last position) + 1)
          match _skipped : skipWhitespace array (last + 1) with
          | .error fault => .error fault
          | .ok behind =>
              if behind = back then return [object]
              else do
                let separator ← itemAt array behind
                if separator ≠ ',' then
                  invalidArgument ("Protocol: invalid array '" ++ key ++ "'")
                else
                  match _spaces : skipWhitespace array (behind + 1) with
                  | .error fault => .error fault
                  | .ok next =>
                      if next = back then
                        invalidArgument ("Protocol: trailing comma in array '" ++ key ++ "'")
                      else (object :: ·) <$> readObjectsFrom key array back next
  else return []
termination_by back - position
decreasing_by
  have matched := findMatchingDelimiter_le _found
  have skipped := skipWhitespace_le _skipped
  have spaces := skipWhitespace_le _spaces
  omega

def readObjectArray (json : Text) (key : String) : Checked (List Text) := do
  let array ← readArray json key
  let position ← skipWhitespace array 1
  let back ← minus array.length 1
  if position = back then return []
  else readObjectsFrom key array back position

/-! ## Reading values -/

/-- The loop of `readString`. -/
def readStringFrom (json : Text) (escaped : Bool) (position : Nat) : Checked Text :=
  if _inside : position < json.length then do
    let character ← itemAt json position
    if escaped then
      match unescape character with
      | none => invalidArgument "Protocol: invalid string escape"
      | some meant => (meant :: ·) <$> readStringFrom json false (position + 1)
    else if character = '\\' then readStringFrom json true (position + 1)
    else if character = '"' then return []
    else (character :: ·) <$> readStringFrom json false (position + 1)
  else invalidArgument "Protocol: unterminated string"
termination_by json.length - position

def readString (json : Text) (key : String) : Checked String := do
  let position ← findValue json key
  if ← startsWith json position '"' then
    String.ofList <$> readStringFrom json false (position + 1)
  else invalidArgument ("Protocol: field '" ++ key ++ "' must be a string")

/-- `std::stoll` with the number of characters that it has used. -/
def stollUsed (text : Text) : Option (Int × Nat) :=
  (stoll text).map fun read => (read.1, text.length - read.2.length)

def readSigned (json : Text) (key : String) : Checked Int := do
  let position ← findValue json key
  let text ← substr json position json.length
  match stollUsed text with
  | none => invalidArgument ("Protocol: field '" ++ key ++ "' must be an integer")
  | some (value, charactersUsed) =>
      let after ← skipWhitespace json (position + charactersUsed)
      if charactersUsed ≠ 0 ∧ after < json.length then
        let character ← itemAt json after
        if character = ',' ∨ character = '}' ∨ character = ']' then return value
        else invalidArgument ("Protocol: field '" ++ key ++ "' must be an integer")
      else invalidArgument ("Protocol: field '" ++ key ++ "' must be an integer")

def readInt (json : Text) (key : String) : Checked Int := do
  let value ← readSigned json key
  lift (require (-2 ^ 31 ≤ value ∧ value < 2 ^ 31)
    ("Protocol: field '" ++ key ++ "' is outside the integer range"))
  return value

def readUnsigned (json : Text) (key : String) : Checked Nat := do
  let value ← readSigned json key
  lift (requireNonNegative value key)
  return value.toNat

def readBool (json : Text) (key : String) : Checked Bool := do
  let position ← findValue json key
  if (← substr json position 4) = "true".toList then return true
  else if (← substr json position 5) = "false".toList then return false
  else invalidArgument ("Protocol: field '" ++ key ++ "' must be boolean")

def readPosition (allowUnused : Bool) (json : Text) (key : String) : Checked Position := do
  let object ← readObject json key
  let row ← readInt object "row"
  let col ← readInt object "col"
  lift (require ((allowUnused = true ∧ row = -1 ∧ col = -1) ∨ isBoardPosition ⟨row, col⟩)
    ("Protocol: position '" ++ key ++ "' is outside the board"))
  return ⟨row, col⟩

/-! ## Reading records -/

def readPiece (object : Text) : Checked PieceSnapshot := do
  let id ← readInt object "id"
  let token ← readString object "token"
  let position ← readPosition false object "position"
  let state ← readString object "state"
  let hasMoved ← readBool object "hasMoved"
  let remainingCooldownMs ← readSigned object "remainingCooldownMs"
  let totalCooldownMs ← readSigned object "totalCooldownMs"
  lift (require (0 ≤ id) "Protocol: piece id cannot be negative")
  lift (require (isValidToken token) "Protocol: invalid piece token")
  lift (require (isValidState state) "Protocol: invalid piece state")
  lift (requireNonNegative remainingCooldownMs "remainingCooldownMs")
  lift (requireNonNegative totalCooldownMs "totalCooldownMs")
  lift (require (remainingCooldownMs ≤ totalCooldownMs)
    "Protocol: remaining cooldown exceeds total cooldown")
  return {
    id := id.toNat
    token := token
    position := position
    state := state
    hasMoved := hasMoved
    remainingCooldownMs := remainingCooldownMs
    totalCooldownMs := totalCooldownMs }

def readMotion (object : Text) : Checked MotionSnapshot := do
  let pieceId ← readInt object "pieceId"
  let source ← readPosition false object "source"
  let destination ← readPosition false object "destination"
  let currentCell ← readPosition false object "currentCell"
  let rowStep ← readInt object "rowStep"
  let colStep ← readInt object "colStep"
  let directMove ← readBool object "directMove"
  let stepDurationMs ← readSigned object "stepDurationMs"
  let nextStepTimeMs ← readSigned object "nextStepTimeMs"
  let order ← readInt object "order"
  lift (require (0 ≤ pieceId) "Protocol: motion pieceId cannot be negative")
  lift (require (-1 ≤ rowStep ∧ rowStep ≤ 1 ∧ -1 ≤ colStep ∧ colStep ≤ 1)
    "Protocol: motion step must be between -1 and 1")
  lift (requireNonNegative stepDurationMs "stepDurationMs")
  lift (requireNonNegative nextStepTimeMs "nextStepTimeMs")
  lift (require (0 ≤ order) "Protocol: motion order cannot be negative")
  return {
    pieceId := pieceId.toNat
    source := source
    destination := destination
    currentCell := currentCell
    rowStep := rowStep
    colStep := colStep
    directMove := directMove
    stepDurationMs := stepDurationMs
    nextStepTimeMs := nextStepTimeMs
    order := order.toNat }

def readJump (object : Text) : Checked JumpSnapshot := do
  let pieceId ← readInt object "pieceId"
  let cell ← readPosition false object "cell"
  let finishTimeMs ← readSigned object "finishTimeMs"
  lift (require (0 ≤ pieceId) "Protocol: jump pieceId cannot be negative")
  lift (requireNonNegative finishTimeMs "finishTimeMs")
  return { pieceId := pieceId.toNat, cell := cell, finishTimeMs := finishTimeMs }

def readHistory (object : Text) : Checked MoveHistorySnapshot := do
  let completedAtMs ← readSigned object "completedAtMs"
  let color ← readString object "color"
  let pieceKind ← readString object "pieceKind"
  let source ← readPosition false object "source"
  let destination ← readPosition false object "destination"
  let wasCapture ← readBool object "wasCapture"
  let wasPromotion ← readBool object "wasPromotion"
  let wasJump ← readBool object "wasJump"
  let notationText ← readString object "notation"
  lift (requireNonNegative completedAtMs "completedAtMs")
  lift (require (isValidColor color) "Protocol: invalid history color")
  lift (require (isValidKind pieceKind) "Protocol: invalid history piece kind")
  return {
    completedAtMs := completedAtMs
    color := color
    pieceKind := pieceKind
    source := source
    destination := destination
    wasCapture := wasCapture
    wasPromotion := wasPromotion
    wasJump := wasJump
    notationText := notationText }

def readAll {Item : Type} (read : Text → Checked Item) (json : Text) (key : String) :
    Checked (List Item) := do
  (← readObjectArray json key).mapM read

def readSnapshot (object : Text) : Checked GameStateSnapshot := do
  let serverTimeMs ← readSigned object "serverTimeMs"
  let gameOver ← readBool object "gameOver"
  let whiteScore ← readInt object "whiteScore"
  let blackScore ← readInt object "blackScore"
  let whiteUsername ← readString object "whiteUsername"
  let blackUsername ← readString object "blackUsername"
  let playersReady ← readBool object "playersReady"
  let gameplayStartsAtEpochMs ← readSigned object "gameplayStartsAtEpochMs"
  lift (requireNonNegative serverTimeMs "serverTimeMs")
  lift (requireNonNegative gameplayStartsAtEpochMs "gameplayStartsAtEpochMs")
  lift (require (0 ≤ whiteScore ∧ 0 ≤ blackScore) "Protocol: scores cannot be negative")
  let pieces ← readAll readPiece object "pieces"
  let motions ← readAll readMotion object "motions"
  let jumps ← readAll readJump object "jumps"
  let whiteMoveHistory ← readAll readHistory object "whiteMoveHistory"
  let blackMoveHistory ← readAll readHistory object "blackMoveHistory"
  return {
    serverTimeMs := serverTimeMs
    gameOver := gameOver
    whiteScore := whiteScore
    blackScore := blackScore
    whiteUsername := whiteUsername
    blackUsername := blackUsername
    playersReady := playersReady
    gameplayStartsAtEpochMs := gameplayStartsAtEpochMs
    pieces := pieces
    motions := motions
    jumps := jumps
    whiteMoveHistory := whiteMoveHistory
    blackMoveHistory := blackMoveHistory }

def readSnapshotMember (hasSnapshot : Bool) (json : Text) : Checked GameStateSnapshot :=
  if hasSnapshot then do readSnapshot (← readObject json "snapshot") else pure {}

def isObject (json : Text) : Checked Bool :=
  if json = [] then return false else isEnclosed json

def deserialize (json : Text) : Checked Message := do
  let enclosed ← isObject json
  lift (require (enclosed = true) "Protocol: message must be a JSON object")
  let sent ← readSigned json "version"
  lift (require (sent = version) "Protocol: unsupported protocol version")
  let type ← lift (messageTypeFromString (← readString json "type"))
  let sequence ← readUnsigned json "sequence"
  let source ← readPosition true json "source"
  let destination ← readPosition true json "destination"
  let accepted ← readBool json "accepted"
  let reason ← readString json "reason"
  let playerColor ← readString json "playerColor"
  let reconnectToken ← readString json "reconnectToken"
  let username ← readString json "username"
  let whiteUsername ← readString json "whiteUsername"
  let blackUsername ← readString json "blackUsername"
  let secondsRemaining ← readInt json "secondsRemaining"
  let createdAtMs ← readSigned json "createdAtMs"
  let hasSnapshot ← readBool json "hasSnapshot"
  lift (requireNonNegative createdAtMs "createdAtMs")
  lift (requireNonNegative secondsRemaining "secondsRemaining")
  let snapshot ← readSnapshotMember hasSnapshot json
  return {
    type := type
    sequence := sequence
    source := source
    destination := destination
    accepted := accepted
    reason := reason
    playerColor := playerColor
    reconnectToken := reconnectToken
    username := username
    whiteUsername := whiteUsername
    blackUsername := blackUsername
    secondsRemaining := secondsRemaining
    createdAtMs := createdAtMs
    hasSnapshot := hasSnapshot
    snapshot := snapshot }

end Indexed

end Protocol

end KungFuChess

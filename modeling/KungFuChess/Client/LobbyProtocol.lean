import KungFuChess.Client.Lobby
import KungFuChess.Library.JsonValue
import KungFuChess.Network.Protocol

/-!
# The lobby client's protocol

`LobbyProtocol` writes the requests of the lobby client and reads what the gateway sends.
A text is parsed into a tree by the JSON library, which is a parameter here; its objects
have each key once. What of the tree is missing or has the wrong kind is an exception,
whose message `parse` returns.
The state of a match is written out again and read by the codec of the game server.
-/

set_option autoImplicit false

namespace KungFuChess

namespace Lobby

open JsonText

namespace LobbyProtocol

/-- The members of a JSON object. -/
abbrev Members := List (String × JsonValue)

/-! ## Reading members -/

def requiredObject (object : Members) (key : String) : Except String Members :=
  match object.lookup key with
  | some (.object members) => .ok members
  | _ => .error ("Missing object: " ++ key)

def requiredArray (object : Members) (key : String) : Except String (List JsonValue) :=
  match object.lookup key with
  | some (.array items) => .ok items
  | _ => .error ("Missing array: " ++ key)

def requiredString (object : Members) (key : String) : Except String String :=
  match object.lookup key with
  | some (.string value) => .ok value
  | _ => .error ("Missing string: " ++ key)

/-- `is_int64`. -/
def IsInt64 (value : Int) : Prop := -2 ^ 63 ≤ value ∧ value < 2 ^ 63

instance : DecidablePred IsInt64 := fun _ => inferInstanceAs (Decidable (_ ∧ _))

/-- `static_cast<int>`. -/
def toInt (value : Int) : Int := value.bmod (2 ^ 32)

/-- `\d{count}` at the start of a text, and what comes behind. -/
def digits? : Nat → Text → Option Text
  | 0, text => some text
  | count + 1, character :: text => if character.isDigit then digits? count text else none
  | _ + 1, [] => none

/-- A character at the start of a text, and what comes behind. -/
def literal? (character : Char) : Text → Option Text
  | first :: text => if first = character then some text else none
  | [] => none

/-- `(?:\.\d+)?Z`. -/
def endsTimestamp : Text → Bool
  | '.' :: text => text.dropLast ≠ [] ∧ text.dropLast.all Char.isDigit ∧ text.getLast? = some 'Z'
  | text => text = ['Z']

/-- The pattern of a UTC timestamp. -/
def isUtcTimestamp (text : Text) : Bool :=
  let rest := do
    let text ← literal? '-' (← digits? 4 text)
    let text ← literal? 'T' (← digits? 2 (← literal? '-' (← digits? 2 text)))
    digits? 2 (← literal? ':' (← digits? 2 (← literal? ':' (← digits? 2 text))))
  rest.any endsTimestamp

def requiredUtcTimestamp (object : Members) (key : String) : Except String String := do
  let value ← requiredString object key
  if isUtcTimestamp value.toList then return value else .error "Invalid UTC timestamp"

def optionalInteger (object : Members) (key : String) (fallback : Int) : Except String Int :=
  match object.lookup key with
  | none => .ok fallback
  | some (.int value) =>
      if IsInt64 value ∧ 0 ≤ value then .ok (toInt value)
      else .error ("Invalid integer: " ++ key)
  | some _ => .error ("Invalid integer: " ++ key)

def requiredUnsigned (object : Members) (key : String) : Except String Nat :=
  match object.lookup key with
  | some (.int value) =>
      if IsInt64 value ∧ 0 ≤ value then .ok value.toNat
      else .error ("Invalid integer: " ++ key)
  | _ => .error ("Invalid integer: " ++ key)

/-! ## Reading records -/

/-- The message that a state is wrapped in. -/
def envelope (state : Members) : JsonValue :=
  .object [("version", .int Protocol.version), ("type", .string "game_state_updated"),
    ("sequence", .int 0), ("source", .object [("row", .int (-1)), ("col", .int (-1))]),
    ("destination", .object [("row", .int (-1)), ("col", .int (-1))]), ("accepted", .bool true),
    ("reason", .string "gateway_snapshot"), ("playerColor", .string ""),
    ("reconnectToken", .string ""), ("username", .string ""), ("whiteUsername", .string ""),
    ("blackUsername", .string ""), ("secondsRemaining", .int 0), ("createdAtMs", .int 0),
    ("hasSnapshot", .bool true), ("snapshot", .object state)]

def parseSnapshot (state : Members) : Except String GameStateSnapshot :=
  Message.snapshot <$> Protocol.deserialize (envelope state).serialize

def optionalRating (object : Members) : Except String Int :=
  match object.lookup "rating" with
  | none => .ok 1200
  | some (.int value) =>
      if IsInt64 value then .ok (toInt value) else .error "Invalid integer: rating"
  | some _ => .error "Invalid integer: rating"

def parseUser (object : Members) : Except String LobbyUser := do
  let id ← requiredString object "id"
  let username ← requiredString object "username"
  let rating ← optionalRating object
  return ⟨id, username, rating⟩

def optionalUser (object : Members) (key : String) : Except String (Option LobbyUser) :=
  match object.lookup key with
  | none | some .null => .ok none
  | some (.object user) => some <$> parseUser user
  | some _ => .error ("Invalid user: " ++ key)

/-- A string that may be missing, or of another kind. -/
def string? (object : Members) (key : String) : Option String :=
  match object.lookup key with
  | some (.string value) => some value
  | _ => none

def parseRoom (object : Members) : Except String LobbyRoom := do
  let roomId ← requiredString object "room_id"
  let name ← requiredString object "name"
  let status ← requiredString object "status"
  let host ← optionalUser object "host"
  let white ← optionalUser object "white"
  let black ← optionalUser object "black"
  let spectatorCount ← optionalInteger object "spectator_count" 0
  return {
    roomId := roomId
    name := name
    visibility := (string? object "visibility").getD ""
    status := status
    host := host
    white := white
    black := black
    roomCode := string? object "room_code"
    createdAt := (string? object "created_at").getD ""
    spectatorCount := spectatorCount }

def parseRooms (values : List JsonValue) : Except String (List LobbyRoom) :=
  values.mapM fun value =>
    match value with
    | .object room => parseRoom room
    | _ => .error "Room must be an object"

/-! ## Reading messages -/

structure ProtocolParseResult where
  event : Option LobbyEvent
  error : String

/-- The value of a countdown: a number from 1 to 3, or the start. -/
def countdownValue (object : Members) : Except String String :=
  match object.lookup "value" with
  | some (.int value) =>
      if 1 ≤ value ∧ value ≤ 3 then .ok (toString value) else .error "Invalid countdown value"
  | some (.string "GO") => .ok "GO"
  | _ => .error "Invalid countdown value"

def requiredBool (object : Members) (key : String) : Except String Bool :=
  match object.lookup key with
  | some (.bool value) => .ok value
  | _ => .error ("Missing bool: " ++ key)

def readConnected (object : Members) : Except String LobbyEvent := do
  let user ← parseUser (← requiredObject object "user")
  return .connected user

def readLobbySnapshot (object : Members) : Except String LobbyEvent := do
  let waitingRooms ← parseRooms (← requiredArray object "waiting_rooms")
  let activeGames ← parseRooms (← requiredArray object "active_games")
  return .lobbySnapshot waitingRooms activeGames

def readRoomCreated (object : Members) : Except String LobbyEvent := do
  let room ← parseRoom (← requiredObject object "room")
  return .roomCreated room

/-- The events that are two texts. -/
def readTexts (event : String → String → LobbyEvent) (first second : String) (object : Members) :
    Except String LobbyEvent := do
  let one ← requiredString object first
  let two ← requiredString object second
  return event one two

def readGameStarted (object : Members) : Except String LobbyEvent := do
  let roomId ← requiredString object "room_id"
  let name ← requiredString object "name"
  let color ← requiredString object "color"
  let opponent ← parseUser (← requiredObject object "opponent")
  return .gameStarted roomId name color opponent

def readWatchingGame (object : Members) : Except String LobbyEvent := do
  let white ← optionalUser object "white"
  let black ← optionalUser object "black"
  match white, black with
  | some white, some black =>
      let roomId ← requiredString object "room_id"
      let name ← requiredString object "name"
      let spectatorCount ← optionalInteger object "spectator_count" 0
      return .watchingGame roomId name white black spectatorCount
  | _, _ => .error "Watching game requires both players"

def readMatchReady (object : Members) : Except String LobbyEvent := do
  let roomId ← requiredString object "room_id"
  let color ← requiredString object "color"
  let opponent ← requiredString object "opponent"
  let revision ← requiredUnsigned object "revision"
  let state ← parseSnapshot (← requiredObject object "state")
  let gameStartsAt ← requiredUtcTimestamp object "game_starts_at"
  let whiteRating ← optionalInteger object "white_rating" 1200
  let blackRating ← optionalInteger object "black_rating" 1200
  return .matchReady roomId color opponent revision state gameStartsAt whiteRating blackRating

def readMatchCountdown (object : Members) : Except String LobbyEvent := do
  let value ← countdownValue object
  let roomId ← requiredString object "room_id"
  let gameStartsAt ← requiredUtcTimestamp object "game_starts_at"
  return .matchCountdown roomId value gameStartsAt

def readMatchStarted (object : Members) : Except String LobbyEvent := do
  let roomId ← requiredString object "room_id"
  let revision ← requiredUnsigned object "revision"
  let state ← parseSnapshot (← requiredObject object "state")
  let gameStartsAt ← requiredUtcTimestamp object "game_starts_at"
  return .matchStarted roomId revision state gameStartsAt

/-- The events that carry a state: `match_snapshot` and `match_state`. -/
def readState (event : String → Nat → GameStateSnapshot → LobbyEvent) (object : Members) :
    Except String LobbyEvent := do
  let roomId ← requiredString object "room_id"
  let revision ← requiredUnsigned object "revision"
  let state ← parseSnapshot (← requiredObject object "state")
  return event roomId revision state

def readMoveResult (object : Members) : Except String LobbyEvent := do
  let accepted ← requiredBool object "accepted"
  let roomId ← requiredString object "room_id"
  let sequence ← requiredUnsigned object "sequence"
  let reason ← requiredString object "reason"
  return .moveResult roomId sequence accepted reason

/-- What reads the messages of each type. -/
def reader? : String → Option (Members → Except String LobbyEvent)
  | "connected" => some readConnected
  | "pong" => some fun _ => return .pong
  | "lobby_snapshot" => some readLobbySnapshot
  | "room_created" => some readRoomCreated
  | "game_started" => some readGameStarted
  | "watching_game" => some readWatchingGame
  | "match_ready" => some readMatchReady
  | "match_countdown" => some readMatchCountdown
  | "match_started" => some readMatchStarted
  | "match_cancelled" => some (readTexts .matchCancelled "room_id" "reason")
  | "match_snapshot" => some (readState .matchSnapshot)
  | "match_state" => some (readState .matchState)
  | "move_result" => some readMoveResult
  | "spectator_left" => some fun object => .spectatorLeft <$> requiredString object "room_id"
  | "opponent_disconnected" =>
      some fun object => .opponentDisconnected <$> requiredString object "room_id"
  | "room_status" => some (readTexts .roomStatus "room_id" "status")
  | "error" => some (readTexts .protocolError "code" "message")
  | "searching" => some fun _ => return .searching
  | "match_not_found" => some fun _ => return .matchNotFound
  | "find_match_cancelled" => some fun _ => return .findMatchCancelled
  | "rating_updated" => some fun object => .ratingUpdated <$> optionalInteger object "rating" 0
  | _ => none

/-- The event of a message, or no event for a type that is not known. -/
def readEvent (object : Members) (type : String) : Except String (Option LobbyEvent) :=
  match reader? type with
  | some read => some <$> read object
  | none => return none

/-- The result of reading an object. -/
def ProtocolParseResult.of : Except String (Option LobbyEvent) → ProtocolParseResult
  | .ok (some event) => ⟨some event, ""⟩
  | .ok none => ⟨none, "Unsupported message type"⟩
  | .error error => ⟨none, "Malformed lobby message: " ++ error⟩

/-- What becomes of the tree of a message. -/
def parseValue : JsonValue → ProtocolParseResult
  | .object object => .of (requiredString object "type" >>= readEvent object)
  | _ => ⟨none, "Message must be a JSON object"⟩

/-- `LobbyProtocol::parse`, by what the JSON library makes of the text. -/
def parse (jsonParse : String → Except String JsonValue) (message : String) :
    ProtocolParseResult :=
  match jsonParse message with
  | .ok value => parseValue value
  | .error error => ⟨none, "Malformed lobby message: " ++ error⟩

/-! ## Requests -/

/-- The text of a request, by its members. -/
def write (request : Members) : String := String.ofList (JsonValue.object request).serialize

def ping : Members := [("type", .string "ping")]

def subscribeLobby : Members := [("type", .string "subscribe_lobby")]

def getLobby : Members := [("type", .string "get_lobby")]

def createRoom (name : String) (hidden : Bool) : Members :=
  [("type", .string "create_room"), ("name", .string name),
    ("visibility", .string (if hidden then "hidden" else "public"))]

def joinRoom (roomId : String) : Members :=
  [("type", .string "join_room"), ("room_id", .string roomId)]

def joinHiddenRoom (roomCode : String) : Members :=
  [("type", .string "join_hidden_room"), ("room_code", .string roomCode)]

def watchGame (roomId : String) : Members :=
  [("type", .string "watch_game"), ("room_id", .string roomId)]

def leaveSpectator (roomId : String) : Members :=
  [("type", .string "leave_spectator"), ("room_id", .string roomId)]

def findMatch : Members := [("type", .string "find_match")]

def cancelFindMatch : Members := [("type", .string "cancel_find_match")]

/-- A cell of a request. -/
def cell (row col : Int) : JsonValue := .object [("row", .int row), ("col", .int col)]

def jumpRequest (roomId : String) (sequence : Nat) (row col : Int) : Members :=
  [("type", .string "jump_request"), ("room_id", .string roomId), ("sequence", .int sequence),
    ("cell", cell row col)]

def moveRequest (roomId : String) (sequence : Nat)
    (sourceRow sourceCol destinationRow destinationCol : Int) : Members :=
  [("type", .string "move_request"), ("room_id", .string roomId), ("sequence", .int sequence),
    ("from", cell sourceRow sourceCol), ("to", cell destinationRow destinationCol)]

end LobbyProtocol

end Lobby

end KungFuChess

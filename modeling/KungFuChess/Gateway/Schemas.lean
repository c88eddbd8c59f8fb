import KungFuChess.Gateway.LobbySnapshot
import KungFuChess.Gateway.MatchState

/-!
# What the gateway sends

The messages of the gateway to its web clients, as the functions of the `schemas`
modules build them. `uuid` gives the text of an identifier.
-/

set_option autoImplicit false

namespace KungFuChess

namespace DateTime

/-- The time of a start: `isoformat`, with a `Z` in place of its zone. -/
def zulu (time : DateTime) : String :=
  String.ofList (TextOrder.render layout time.seconds ++ (microseconds time.microsecond ++ ['Z']))

end DateTime

/-- A message of the gateway, with what its builder is given. -/
inductive GatewayMessage where
  | connected (userId : UserId) (username : String) (rating : Int)
  | pong
  | lobbySnapshot (snapshot : LobbySnapshot)
  | roomCreated (room : GameRoom)
  | gameStarted (room : GameRoom) (player : ConnectedUser)
  | watchingGame (room : GameRoom)
  | matchReady (roomId : RoomId) (color opponent : String) (revision : Nat) (state : MatchState)
      (gameStartsAt : DateTime) (whiteRating blackRating : Int)
  /-- The seconds that are left, or none at the start. -/
  | matchCountdown (roomId : RoomId) (value : Option Nat) (gameStartsAt : DateTime)
  | matchStarted (roomId : RoomId) (gameStartsAt : DateTime) (revision : Nat) (state : MatchState)
  | matchCancelled (roomId : RoomId)
  | matchSnapshot (roomId : RoomId) (revision : Nat) (state : MatchState)
  | matchState (roomId : RoomId) (revision : Nat) (state : MatchState)
  | moveResult (roomId : RoomId) (sequence : Int) (accepted : Bool) (reason : String)
  | spectatorLeft (roomId : RoomId)
  | opponentDisconnected (roomId : RoomId)
  | roomStatus (roomId : RoomId) (status : String)
  | error (code message : String)
  | searching
  | matchNotFound
  | findMatchCancelled
  | ratingUpdated (rating : Int)

/-- The state that a message carries. -/
def GatewayMessage.state? : GatewayMessage → Option MatchState
  | .matchReady _ _ _ _ state _ _ _ | .matchStarted _ _ _ state | .matchSnapshot _ _ state
  | .matchState _ _ state => some state
  | _ => none

def RoomVisibility.text : RoomVisibility → String
  | .visible => "public"
  | .hidden => "hidden"

def RoomStatus.text : RoomStatus → String
  | .waiting => "waiting"
  | .active => "active"
  | .finished => "finished"

/-- The colour that `color_for` gives a user. -/
def GameRoom.colorFor (room : GameRoom) (userId : UserId) : String :=
  if isUser userId room.white then "white" else "black"

namespace Schemas

variable (uuid : Nat → String)

def publicUser (user : PublicUser) : JsonValue :=
  .object [("id", .string (uuid user.id)), ("username", .string user.username),
    ("rating", .int user.rating)]

/-- A user, or `null`. -/
def optionalUser (user : Option ConnectedUser) : JsonValue :=
  match user with
  | some user => publicUser uuid user.publicUser
  | none => .null

def waitingRoom (room : WaitingRoom) : JsonValue :=
  .object [("room_id", .string (uuid room.roomId)), ("name", .string room.name),
    ("host", publicUser uuid room.host), ("visibility", .string room.visibility.text),
    ("status", .string room.status.text), ("created_at", .string room.createdAt)]

def activeGame (game : ActiveGame) : JsonValue :=
  .object [("room_id", .string (uuid game.roomId)), ("name", .string game.name),
    ("white", publicUser uuid game.white), ("black", publicUser uuid game.black),
    ("status", .string game.status.text), ("spectator_count", .int game.spectatorCount),
    ("created_at", .string game.createdAt)]

def roomCode (code : Option String) : List (String × JsonValue) :=
  match code with
  | some code => [("room_code", .string code)]
  | none => []

/-- The room that its host is told about. -/
def createdRoom (room : GameRoom) : JsonValue :=
  .object ([("room_id", .string (uuid room.roomId)), ("name", .string room.name),
    ("visibility", .string room.visibility.text), ("status", .string room.status.text),
    ("host", publicUser uuid room.host.publicUser)] ++ roomCode room.roomCode)

def countdownValue : Option Nat → JsonValue
  | some seconds => .int seconds
  | none => .string "GO"

/-- The members of a message. -/
def members : GatewayMessage → List (String × JsonValue)
  | .connected userId username rating =>
      [("type", .string "connected"),
        ("user", .object [("id", .string (uuid userId)), ("username", .string username),
          ("rating", .int rating)])]
  | .pong => [("type", .string "pong")]
  | .lobbySnapshot snapshot =>
      [("type", .string "lobby_snapshot"),
        ("waiting_rooms", .array (snapshot.waitingRooms.map (waitingRoom uuid))),
        ("active_games", .array (snapshot.activeGames.map (activeGame uuid)))]
  | .roomCreated room =>
      [("type", .string "room_created"), ("room", createdRoom uuid room)]
  | .gameStarted room player =>
      [("type", .string "game_started"), ("room_id", .string (uuid room.roomId)),
        ("name", .string room.name), ("color", .string (room.colorFor player.userId)),
        ("opponent", optionalUser uuid (room.opponent player.userId))]
  | .watchingGame room =>
      [("type", .string "watching_game"), ("room_id", .string (uuid room.roomId)),
        ("name", .string room.name), ("white", optionalUser uuid room.white),
        ("black", optionalUser uuid room.black),
        ("spectator_count", .int room.spectators.entries.length)]
  | .matchReady roomId color opponent revision state gameStartsAt whiteRating blackRating =>
      [("type", .string "match_ready"), ("room_id", .string (uuid roomId)),
        ("color", .string color), ("opponent", .string opponent), ("revision", .int revision),
        ("state", .object state.members), ("game_starts_at", .string gameStartsAt.zulu),
        ("white_rating", .int whiteRating), ("black_rating", .int blackRating)]
  | .matchCountdown roomId value gameStartsAt =>
      [("type", .string "match_countdown"), ("room_id", .string (uuid roomId)),
        ("phase", .string (if value = none then "go" else "countdown")),
        ("value", countdownValue value), ("game_starts_at", .string gameStartsAt.zulu)]
  | .matchStarted roomId gameStartsAt revision state =>
      [("type", .string "match_started"), ("room_id", .string (uuid roomId)),
        ("game_starts_at", .string gameStartsAt.zulu), ("revision", .int revision),
        ("state", .object state.members)]
  | .matchCancelled roomId =>
      [("type", .string "match_cancelled"), ("room_id", .string (uuid roomId)),
        ("reason", .string "player_disconnected_before_start")]
  | .matchSnapshot roomId revision state =>
      [("type", .string "match_snapshot"), ("room_id", .string (uuid roomId)),
        ("revision", .int revision), ("state", .object state.members)]
  | .matchState roomId revision state =>
      [("type", .string "match_state"), ("room_id", .string (uuid roomId)),
        ("revision", .int revision), ("state", .object state.members)]
  | .moveResult roomId sequence accepted reason =>
      [("type", .string "move_result"), ("room_id", .string (uuid roomId)),
        ("sequence", .int sequence), ("accepted", .bool accepted), ("reason", .string reason)]
  | .spectatorLeft roomId =>
      [("type", .string "spectator_left"), ("room_id", .string (uuid roomId))]
  | .opponentDisconnected roomId =>
      [("type", .string "opponent_disconnected"), ("room_id", .string (uuid roomId))]
  | .roomStatus roomId status =>
      [("type", .string "room_status"), ("room_id", .string (uuid roomId)),
        ("status", .string status)]
  | .error code message =>
      [("type", .string "error"), ("code", .string code), ("message", .string message)]
  | .searching => [("type", .string "searching")]
  | .matchNotFound => [("type", .string "match_not_found")]
  | .findMatchCancelled => [("type", .string "find_match_cancelled")]
  | .ratingUpdated rating => [("type", .string "rating_updated"), ("rating", .int rating)]

end Schemas

end KungFuChess

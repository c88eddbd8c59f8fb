import KungFuChess.Client.LobbyProtocol
import KungFuChess.Gateway.Schemas

/-!
# What the lobby client reads from the gateway

Both ends have their own names for the messages. `GatewayMessage.event` says which event a
message stands for; `LobbyProtocol.parse` yields this event of what the gateway builds.

The one exception are negative ratings: the reader of the ratings of a match takes what it
reads for a count, so that a player with such a rating never learns that the match is ready.
-/

set_option autoImplicit false

namespace KungFuChess

open JsonText Lobby

/-! ## What a message says -/

section Meaning

variable (uuid : Nat → String)

def PublicUser.lobbyUser (user : PublicUser) : LobbyUser :=
  ⟨uuid user.id, user.username, user.rating⟩

def WaitingRoom.lobbyRoom (room : WaitingRoom) : LobbyRoom where
  roomId := uuid room.roomId
  name := room.name
  visibility := room.visibility.text
  status := room.status.text
  host := some (room.host.lobbyUser uuid)
  createdAt := room.createdAt

def ActiveGame.lobbyRoom (game : ActiveGame) : LobbyRoom where
  roomId := uuid game.roomId
  name := game.name
  status := game.status.text
  white := some (game.white.lobbyUser uuid)
  black := some (game.black.lobbyUser uuid)
  createdAt := game.createdAt
  spectatorCount := game.spectatorCount

def GameRoom.lobbyRoom (room : GameRoom) : LobbyRoom where
  roomId := uuid room.roomId
  name := room.name
  visibility := room.visibility.text
  status := room.status.text
  host := some (room.host.publicUser.lobbyUser uuid)
  roomCode := room.roomCode

namespace GatewayMessage

/-- What the client shows of a countdown. -/
def countdownText : Option Nat → String
  | some seconds => toString (seconds : Int)
  | none => "GO"

/-- The event that a message stands for. A game has two players. -/
def event : GatewayMessage → Option LobbyEvent
  | .connected userId username rating => some (.connected ⟨uuid userId, username, rating⟩)
  | .pong => some .pong
  | .lobbySnapshot snapshot =>
      some (.lobbySnapshot (snapshot.waitingRooms.map (WaitingRoom.lobbyRoom uuid))
        (snapshot.activeGames.map (ActiveGame.lobbyRoom uuid)))
  | .roomCreated room => some (.roomCreated (room.lobbyRoom uuid))
  | .gameStarted room player => do
      let opponent ← room.opponent player.userId
      return .gameStarted (uuid room.roomId) room.name (room.colorFor player.userId)
        (opponent.publicUser.lobbyUser uuid)
  | .watchingGame room => do
      let white ← room.white
      let black ← room.black
      return .watchingGame (uuid room.roomId) room.name (white.publicUser.lobbyUser uuid)
        (black.publicUser.lobbyUser uuid) room.spectators.entries.length
  | .matchReady roomId color opponent revision state gameStartsAt whiteRating blackRating =>
      some (.matchReady (uuid roomId) color opponent revision state.snapshot gameStartsAt.zulu
        whiteRating blackRating)
  | .matchCountdown roomId value gameStartsAt =>
      some (.matchCountdown (uuid roomId) (countdownText value) gameStartsAt.zulu)
  | .matchStarted roomId gameStartsAt revision state =>
      some (.matchStarted (uuid roomId) revision state.snapshot gameStartsAt.zulu)
  | .matchCancelled roomId =>
      some (.matchCancelled (uuid roomId) "player_disconnected_before_start")
  | .matchSnapshot roomId revision state =>
      some (.matchSnapshot (uuid roomId) revision state.snapshot)
  | .matchState roomId revision state => some (.matchState (uuid roomId) revision state.snapshot)
  | .moveResult roomId sequence accepted reason =>
      some (.moveResult (uuid roomId) sequence.toNat accepted reason)
  | .spectatorLeft roomId => some (.spectatorLeft (uuid roomId))
  | .opponentDisconnected roomId => some (.opponentDisconnected (uuid roomId))
  | .roomStatus roomId status => some (.roomStatus (uuid roomId) status)
  | .error code message => some (.protocolError code message)
  | .searching => some .searching
  | .matchNotFound => some .matchNotFound
  | .findMatchCancelled => some .findMatchCancelled
  | .ratingUpdated rating => some (.ratingUpdated rating)

end GatewayMessage

end Meaning

/-! ## Ranges -/

/-- A rating as the database stores it. -/
def IsRating (rating : Int) : Prop := -2 ^ 31 ≤ rating ∧ rating < 2 ^ 31

namespace GatewayMessage

/-- The numbers of a message are of the sizes that the gateway has them in: ratings and counts of
spectators have 32 bits, revisions and sequence numbers 63, and a countdown starts at three. -/
def InRange : GatewayMessage → Prop
  | .connected _ _ rating => IsRating rating
  | .lobbySnapshot snapshot =>
      (∀ room ∈ snapshot.waitingRooms, IsRating room.host.rating) ∧
        ∀ game ∈ snapshot.activeGames, IsRating game.white.rating ∧
          IsRating game.black.rating ∧ game.spectatorCount < 2 ^ 31
  | .roomCreated room => IsRating room.host.rating
  | .gameStarted room player => ∀ opponent ∈ room.opponent player.userId, IsRating opponent.rating
  | .watchingGame room =>
      (∀ white ∈ room.white, IsRating white.rating) ∧
        (∀ black ∈ room.black, IsRating black.rating) ∧
        room.spectators.entries.length < 2 ^ 31
  | .matchReady _ _ _ revision _ _ whiteRating blackRating =>
      revision < 2 ^ 63 ∧ IsRating whiteRating ∧ IsRating blackRating
  | .matchCountdown _ value _ => ∀ seconds ∈ value, 1 ≤ seconds ∧ seconds ≤ 3
  | .matchStarted _ _ revision _ | .matchSnapshot _ revision _ | .matchState _ revision _ =>
      revision < 2 ^ 63
  | .moveResult _ sequence _ _ => 0 ≤ sequence ∧ sequence < 2 ^ 63
  | .ratingUpdated rating => IsRating rating
  | .pong | .matchCancelled _ | .spectatorLeft _ | .opponentDisconnected _ | .roomStatus _ _
  | .error _ _ | .searching | .matchNotFound | .findMatchCancelled => True

/-- The first rating that the client takes for a count and that is none. -/
def negativeRating : GatewayMessage → Option String
  | .matchReady _ _ _ _ _ _ whiteRating blackRating =>
      if whiteRating < 0 then some "white_rating"
      else if blackRating < 0 then some "black_rating"
      else none
  | .ratingUpdated rating => if rating < 0 then some "rating" else none
  | _ => none

end GatewayMessage

namespace Lobby

namespace LobbyProtocol

/-! ## Reading members -/

section Readers

variable {object : Members} {key : String}

theorem requiredObject_found {members : Members}
    (found : object.lookup key = some (.object members)) :
    requiredObject object key = .ok members := by
  rw [requiredObject, found]

theorem requiredArray_found {items : List JsonValue}
    (found : object.lookup key = some (.array items)) : requiredArray object key = .ok items := by
  rw [requiredArray, found]

theorem requiredString_found {value : String} (found : object.lookup key = some (.string value)) :
    requiredString object key = .ok value := by
  rw [requiredString, found]

theorem requiredUnsigned_found {value : Nat} (found : object.lookup key = some (.int value))
    (small : value < 2 ^ 63) : requiredUnsigned object key = .ok value := by
  rw [requiredUnsigned, found]
  exact if_pos ⟨⟨by omega, by omega⟩, by omega⟩

theorem toInt_of_isRating {value : Int} (small : IsRating value) : toInt value = value := by
  obtain ⟨_, _⟩ := small
  exact Int.bmod_eq_of_le (by omega) (by omega)

theorem isInt64_of_isRating {value : Int} (small : IsRating value) : IsInt64 value := by
  obtain ⟨_, _⟩ := small
  exact ⟨by omega, by omega⟩

theorem optionalInteger_found {value fallback : Int} (found : object.lookup key = some (.int value))
    (small : IsRating value) :
    optionalInteger object key fallback =
      if 0 ≤ value then .ok value else .error ("Invalid integer: " ++ key) := by
  rw [optionalInteger, found]
  simp only [isInt64_of_isRating small, true_and, toInt_of_isRating small]

theorem optionalInteger_count {value : Nat} {fallback : Int}
    (found : object.lookup key = some (.int value)) (small : value < 2 ^ 31) :
    optionalInteger object key fallback = .ok (value : Int) := by
  rw [optionalInteger_found found ⟨by omega, by omega⟩, if_pos (by omega)]

end Readers

/-! ## Reading users and rooms -/

section Records

variable {uuid : Nat → String}

theorem parseUser_found {object : Members} {id username : String} {rating : Int}
    (foundId : object.lookup "id" = some (.string id))
    (foundUsername : object.lookup "username" = some (.string username))
    (foundRating : object.lookup "rating" = some (.int rating)) (small : IsRating rating) :
    parseUser object = .ok ⟨id, username, rating⟩ := by
  have rated : optionalRating object = .ok rating := by
    rw [optionalRating, foundRating]
    simp only [if_pos (isInt64_of_isRating small), toInt_of_isRating small]
  rw [parseUser, requiredString_found foundId, requiredString_found foundUsername, rated]
  rfl

theorem parseUser_publicUser {user : PublicUser} (small : IsRating user.rating) :
    ∃ object, Schemas.publicUser uuid user = .object object ∧
      parseUser object = .ok (user.lobbyUser uuid) :=
  ⟨_, rfl, parseUser_found rfl rfl rfl small⟩

theorem optionalUser_publicUser {object : Members} {key : String} {user : PublicUser}
    (found : object.lookup key = some (Schemas.publicUser uuid user))
    (small : IsRating user.rating) :
    optionalUser object key = .ok (some (user.lobbyUser uuid)) := by
  obtain ⟨members, isObject, parsed⟩ := parseUser_publicUser small
  rw [optionalUser, found, isObject]
  simp only [parsed]
  rfl

theorem optionalUser_missing {object : Members} {key : String}
    (missing : object.lookup key = none) : optionalUser object key = .ok none := by
  rw [optionalUser, missing]

/-- **A room is read member by member**; what is missing has its default. -/
theorem parseRoom_found {object : Members} {roomId name status : String}
    {host white black : Option LobbyUser} {spectatorCount : Int}
    (foundId : object.lookup "room_id" = some (.string roomId))
    (foundName : object.lookup "name" = some (.string name))
    (foundStatus : object.lookup "status" = some (.string status))
    (readHost : optionalUser object "host" = .ok host)
    (readWhite : optionalUser object "white" = .ok white)
    (readBlack : optionalUser object "black" = .ok black)
    (readCount : optionalInteger object "spectator_count" 0 = .ok spectatorCount) :
    parseRoom object = .ok
      { roomId := roomId, name := name, visibility := (string? object "visibility").getD ""
        status := status, host := host, white := white, black := black
        roomCode := string? object "room_code"
        createdAt := (string? object "created_at").getD "", spectatorCount := spectatorCount } := by
  rw [parseRoom, requiredString_found foundId, requiredString_found foundName,
    requiredString_found foundStatus, readHost, readWhite, readBlack, readCount]
  rfl

theorem parseRoom_waitingRoom {room : WaitingRoom} (small : IsRating room.host.rating) :
    ∃ object, Schemas.waitingRoom uuid room = .object object ∧
      parseRoom object = .ok (room.lobbyRoom uuid) :=
  ⟨_, rfl, parseRoom_found rfl rfl rfl (optionalUser_publicUser rfl small)
    (optionalUser_missing rfl) (optionalUser_missing rfl) rfl⟩

theorem parseRoom_activeGame {game : ActiveGame} (white : IsRating game.white.rating)
    (black : IsRating game.black.rating) (small : game.spectatorCount < 2 ^ 31) :
    ∃ object, Schemas.activeGame uuid game = .object object ∧
      parseRoom object = .ok (game.lobbyRoom uuid) :=
  ⟨_, rfl, parseRoom_found rfl rfl rfl (optionalUser_missing rfl)
    (optionalUser_publicUser rfl white) (optionalUser_publicUser rfl black)
    (optionalInteger_count rfl small)⟩

theorem parseRooms_map {Room : Type} {value : Room → JsonValue} {read : Room → LobbyRoom}
    {rooms : List Room} (each : ∀ room ∈ rooms, ∃ object, value room = .object object ∧
      parseRoom object = .ok (read room)) :
    parseRooms (rooms.map value) = .ok (rooms.map read) := by
  induction rooms with
  | nil => rfl
  | cons room rooms ih =>
      obtain ⟨⟨object, isObject, parsed⟩, rest⟩ := List.forall_mem_cons.mp each
      have parsedRest := ih rest
      rw [parseRooms] at parsedRest
      rw [parseRooms, List.map_cons, List.mapM_cons, isObject, parsedRest]
      simp only [parsed]
      rfl

end Records

/-! ## Reading times -/

theorem digits?_append {text : Text} (digits : ∀ character ∈ text, character.isDigit = true)
    (rest : Text) : digits? text.length (text ++ rest) = some rest := by
  induction text with
  | nil => rfl
  | cons character text ih =>
      obtain ⟨digit, digits⟩ := List.forall_mem_cons.mp digits
      rw [List.length_cons, List.cons_append, digits?, if_pos digit, ih digits]

theorem isDigit_digitChar : ∀ number < 10, (Nat.digitChar number).isDigit = true := by
  decide

theorem isDigit_digits (width number : Nat) :
    ∀ character ∈ TextOrder.digits width number, character.isDigit = true := by
  induction width generalizing number with
  | zero => exact fun _ member => absurd member List.not_mem_nil
  | succ width ih =>
      exact List.forall_mem_append.mpr ⟨ih _,
        List.forall_mem_singleton.mpr (isDigit_digitChar _ (Nat.mod_lt _ (by decide)))⟩

theorem digits?_digits (width number : Nat) (rest : Text) :
    digits? width (TextOrder.digits width number ++ rest) = some rest := by
  have read := digits?_append (isDigit_digits width number) rest
  rwa [TextOrder.length_digits] at read

theorem endsTimestamp_microseconds (microsecond : Nat) :
    endsTimestamp (DateTime.microseconds microsecond ++ ['Z']) = true := by
  rw [DateTime.microseconds]
  split
  · rfl
  · have written : TextOrder.digits 6 microsecond ≠ [] := by
      rw [← List.length_pos_iff, TextOrder.length_digits]
      decide
    simp only [List.cons_append, endsTimestamp, List.dropLast_concat, List.getLast?_concat, ne_eq,
      written, not_false_eq_true, List.all_eq_true, and_true, true_and, decide_eq_true_eq]
    exact isDigit_digits 6 microsecond

/-- **The gateway's times are what the client takes for times.** -/
theorem isUtcTimestamp_zulu (time : DateTime) : isUtcTimestamp time.zulu.toList = true := by
  obtain ⟨seconds, microsecond, fits, small⟩ := time
  cases fits with
  | cons _ fits =>
  cases fits with
  | cons _ fits =>
  cases fits with
  | cons _ fits =>
  cases fits with
  | cons _ fits =>
  cases fits with
  | cons _ fits =>
  cases fits with
  | cons _ fits =>
  cases fits
  simp only [DateTime.zulu, DateTime.layout, TextOrder.render, String.toList_ofList,
    List.nil_append, List.cons_append, List.append_assoc, isUtcTimestamp, digits?_digits,
    literal?, if_pos, Option.bind_eq_bind, Option.bind_some, Option.any_some,
    endsTimestamp_microseconds]

theorem requiredUtcTimestamp_found {object : Members} {key : String} {time : DateTime}
    (found : object.lookup key = some (.string time.zulu)) :
    requiredUtcTimestamp object key = .ok time.zulu := by
  rw [requiredUtcTimestamp, requiredString_found found, Except.ok_bind,
    if_pos (isUtcTimestamp_zulu time)]
  rfl

/-! ## Reading states -/

/-- The message that the game server's codec sees. -/
def stateMessage (snapshot : GameStateSnapshot) : Message where
  type := .gameStateUpdated
  accepted := true
  reason := "gateway_snapshot"
  hasSnapshot := true
  snapshot := snapshot

theorem stateMessage_wellFormed {snapshot : GameStateSnapshot} (wellFormed : snapshot.WellFormed) :
    (stateMessage snapshot).WellFormed := by
  have empty : IsText "" := by decide
  exact {
    sequence := Nat.pow_pos (by decide)
    source := .inl rfl
    destination := .inl rfl
    reason := (by decide : IsText "gateway_snapshot")
    playerColor := empty
    reconnectToken := empty
    username := empty
    whiteUsername := empty
    blackUsername := empty
    secondsRemaining := (by decide : (0 : Int) ≤ 0 ∧ (0 : Int) < 2 ^ 31)
    createdAt := (by decide : IsCount 0)
    sent := fun _ => wellFormed
    notSent := fun absent => Bool.noConfusion absent }

/-- The text that the client hands to the codec. -/
def wrapped (text : Text) : Text :=
  JsonText.object [("version", Protocol.number Protocol.version),
    ("type", quoted "game_state_updated".toList), ("sequence", Protocol.number 0),
    ("source", Protocol.writePosition ⟨-1, -1⟩), ("destination", Protocol.writePosition ⟨-1, -1⟩),
    ("accepted", Protocol.boolean true), ("reason", quoted "gateway_snapshot".toList),
    ("playerColor", quoted []), ("reconnectToken", quoted []), ("username", quoted []),
    ("whiteUsername", quoted []), ("blackUsername", quoted []),
    ("secondsRemaining", Protocol.number 0), ("createdAtMs", Protocol.number 0),
    ("hasSnapshot", Protocol.boolean true), ("snapshot", text)]

theorem serialize_envelope (members : Members) :
    (envelope members).serialize = wrapped (JsonValue.object members).serialize := rfl

/-- It is what a game server writes for this message. -/
theorem serialize_stateMessage (state : MatchState) :
    Protocol.serialize (stateMessage state.snapshot) =
      .ok (wrapped (JsonValue.object state.members).serialize) := by
  have snapshot : Protocol.writeSnapshotMember (stateMessage state.snapshot) =
      .ok [("snapshot", (JsonValue.object state.members).serialize)] :=
    congrArg (Functor.map fun text => [("snapshot", text)]) state.written
  have reason : Protocol.string (stateMessage state.snapshot).reason =
      .ok (quoted "gateway_snapshot".toList) :=
    (by decide +kernel : Protocol.string "gateway_snapshot" = _)
  rw [Protocol.serialize, snapshot, reason]
  rfl

/-- **The client sees the state that the game server sent.** -/
theorem parseSnapshot_state (state : MatchState) :
    parseSnapshot state.members = .ok state.snapshot := by
  obtain ⟨members, written, -, reads⟩ :=
    Protocol.carries_message (stateMessage_wellFormed state.wellFormed)
  rw [serialize_stateMessage, Except.ok.injEq] at written
  rw [parseSnapshot, serialize_envelope, written, reads]
  rfl

/-! ## Reading events -/

section Events

variable {object : Members} {roomId : String} {revision : Nat} {state : MatchState}
  {gameStartsAt : DateTime}

theorem readConnected_found {id username : String} {rating : Int} {user : Members}
    (found : object.lookup "user" = some (.object user))
    (foundId : user.lookup "id" = some (.string id))
    (foundUsername : user.lookup "username" = some (.string username))
    (foundRating : user.lookup "rating" = some (.int rating)) (small : IsRating rating) :
    readConnected object = .ok (.connected ⟨id, username, rating⟩) := by
  rw [readConnected, requiredObject_found found, Except.ok_bind,
    parseUser_found foundId foundUsername foundRating small]
  rfl

theorem readLobbySnapshot_found {uuid : Nat → String} {waitingRooms : List WaitingRoom}
    {activeGames : List ActiveGame}
    (foundWaiting : object.lookup "waiting_rooms" =
      some (.array (waitingRooms.map (Schemas.waitingRoom uuid))))
    (foundActive : object.lookup "active_games" =
      some (.array (activeGames.map (Schemas.activeGame uuid))))
    (waiting : ∀ room ∈ waitingRooms, IsRating room.host.rating)
    (active : ∀ game ∈ activeGames, IsRating game.white.rating ∧ IsRating game.black.rating ∧
      game.spectatorCount < 2 ^ 31) :
    readLobbySnapshot object = .ok (.lobbySnapshot (waitingRooms.map (WaitingRoom.lobbyRoom uuid))
      (activeGames.map (ActiveGame.lobbyRoom uuid))) := by
  rw [readLobbySnapshot, requiredArray_found foundWaiting, requiredArray_found foundActive,
    Except.ok_bind, parseRooms_map fun room member => parseRoom_waitingRoom (waiting room member),
    Except.ok_bind, Except.ok_bind, parseRooms_map fun game member =>
      parseRoom_activeGame (active game member).1 (active game member).2.1
        (active game member).2.2]
  rfl

theorem readRoomCreated_found {room : GameRoom} {uuid : Nat → String}
    (found : object.lookup "room" = some (Schemas.createdRoom uuid room))
    (small : IsRating room.host.publicUser.rating) :
    readRoomCreated object = .ok (.roomCreated (room.lobbyRoom uuid)) := by
  have host : ∀ {members : Members}, members.lookup "host" =
      some (Schemas.publicUser uuid room.host.publicUser) →
      optionalUser members "host" = .ok (some (room.host.publicUser.lobbyUser uuid)) :=
    fun found => optionalUser_publicUser found small
  rw [readRoomCreated, requiredObject_found found, Except.ok_bind, GameRoom.lobbyRoom]
  cases room.roomCode with
  | none =>
      rw [parseRoom_found rfl rfl rfl (host rfl) (optionalUser_missing rfl)
        (optionalUser_missing rfl) rfl]
      rfl
  | some code =>
      rw [parseRoom_found rfl rfl rfl (host rfl) (optionalUser_missing rfl)
        (optionalUser_missing rfl) rfl]
      rfl

theorem readGameStarted_found {uuid : Nat → String} {name color : String}
    {opponent : PublicUser} (foundId : object.lookup "room_id" = some (.string roomId))
    (foundName : object.lookup "name" = some (.string name))
    (foundColor : object.lookup "color" = some (.string color))
    (foundOpponent : object.lookup "opponent" = some (Schemas.publicUser uuid opponent))
    (small : IsRating opponent.rating) :
    readGameStarted object =
      .ok (.gameStarted roomId name color (opponent.lobbyUser uuid)) := by
  obtain ⟨user, isObject, parsed⟩ := parseUser_publicUser small
  rw [isObject] at foundOpponent
  rw [readGameStarted, requiredString_found foundId, requiredString_found foundName,
    requiredString_found foundColor, requiredObject_found foundOpponent, Except.ok_bind,
    Except.ok_bind, Except.ok_bind, Except.ok_bind, parsed]
  rfl

theorem readWatchingGame_found {uuid : Nat → String} {name : String} {white black : PublicUser}
    {spectatorCount : Nat} (foundId : object.lookup "room_id" = some (.string roomId))
    (foundName : object.lookup "name" = some (.string name))
    (foundWhite : object.lookup "white" = some (Schemas.publicUser uuid white))
    (foundBlack : object.lookup "black" = some (Schemas.publicUser uuid black))
    (foundCount : object.lookup "spectator_count" = some (.int spectatorCount))
    (whiteSmall : IsRating white.rating) (blackSmall : IsRating black.rating)
    (small : spectatorCount < 2 ^ 31) :
    readWatchingGame object = .ok (.watchingGame roomId name (white.lobbyUser uuid)
      (black.lobbyUser uuid) spectatorCount) := by
  rw [readWatchingGame, optionalUser_publicUser foundWhite whiteSmall,
    optionalUser_publicUser foundBlack blackSmall, Except.ok_bind, Except.ok_bind]
  simp only [requiredString_found foundId, requiredString_found foundName,
    optionalInteger_count foundCount small]
  rfl

theorem readMatchReady_found {color opponent : String} {whiteRating blackRating : Int}
    (foundId : object.lookup "room_id" = some (.string roomId))
    (foundColor : object.lookup "color" = some (.string color))
    (foundOpponent : object.lookup "opponent" = some (.string opponent))
    (foundRevision : object.lookup "revision" = some (.int revision))
    (foundState : object.lookup "state" = some (.object state.members))
    (foundStart : object.lookup "game_starts_at" = some (.string gameStartsAt.zulu))
    (foundWhite : object.lookup "white_rating" = some (.int whiteRating))
    (foundBlack : object.lookup "black_rating" = some (.int blackRating))
    (small : revision < 2 ^ 63) (white : IsRating whiteRating) (black : IsRating blackRating) :
    readMatchReady object =
      if whiteRating < 0 then .error "Invalid integer: white_rating"
      else if blackRating < 0 then .error "Invalid integer: black_rating"
      else .ok (.matchReady roomId color opponent revision state.snapshot gameStartsAt.zulu
        whiteRating blackRating) := by
  rw [readMatchReady, requiredString_found foundId, requiredString_found foundColor,
    requiredString_found foundOpponent, requiredUnsigned_found foundRevision small,
    requiredObject_found foundState, Except.ok_bind, Except.ok_bind, Except.ok_bind,
    Except.ok_bind, Except.ok_bind, parseSnapshot_state, requiredUtcTimestamp_found foundStart,
    Except.ok_bind, Except.ok_bind, optionalInteger_found foundWhite white,
    optionalInteger_found foundBlack black]
  by_cases negative : whiteRating < 0
  · rw [if_pos negative, if_neg (by omega)]
    rfl
  by_cases negative' : blackRating < 0
  · rw [if_neg negative, if_pos negative', if_pos (by omega), if_neg (by omega)]
    rfl
  · rw [if_neg negative, if_neg negative', if_pos (by omega), if_pos (by omega)]
    rfl

theorem readMatchStarted_found (foundId : object.lookup "room_id" = some (.string roomId))
    (foundRevision : object.lookup "revision" = some (.int revision))
    (foundState : object.lookup "state" = some (.object state.members))
    (foundStart : object.lookup "game_starts_at" = some (.string gameStartsAt.zulu))
    (small : revision < 2 ^ 63) :
    readMatchStarted object =
      .ok (.matchStarted roomId revision state.snapshot gameStartsAt.zulu) := by
  rw [readMatchStarted, requiredString_found foundId, requiredUnsigned_found foundRevision small,
    requiredObject_found foundState, Except.ok_bind, Except.ok_bind, Except.ok_bind,
    parseSnapshot_state, requiredUtcTimestamp_found foundStart]
  rfl

theorem readState_found {event : String → Nat → GameStateSnapshot → LobbyEvent}
    (foundId : object.lookup "room_id" = some (.string roomId))
    (foundRevision : object.lookup "revision" = some (.int revision))
    (foundState : object.lookup "state" = some (.object state.members))
    (small : revision < 2 ^ 63) :
    readState event object = .ok (event roomId revision state.snapshot) := by
  rw [readState, requiredString_found foundId, requiredUnsigned_found foundRevision small,
    requiredObject_found foundState, Except.ok_bind, Except.ok_bind, Except.ok_bind,
    parseSnapshot_state]
  rfl

theorem readMatchCountdown_found {value : Option Nat}
    (foundId : object.lookup "room_id" = some (.string roomId))
    (foundValue : object.lookup "value" = some (Schemas.countdownValue value))
    (foundStart : object.lookup "game_starts_at" = some (.string gameStartsAt.zulu))
    (small : ∀ seconds ∈ value, 1 ≤ seconds ∧ seconds ≤ 3) :
    readMatchCountdown object =
      .ok (.matchCountdown roomId (GatewayMessage.countdownText value) gameStartsAt.zulu) := by
  have read : countdownValue object = .ok (GatewayMessage.countdownText value) := by
    rw [countdownValue, foundValue]
    cases value with
    | none => rfl
    | some seconds =>
        have ⟨first, last⟩ := small seconds rfl
        exact if_pos ⟨by omega, by omega⟩
  rw [readMatchCountdown, read, requiredString_found foundId,
    requiredUtcTimestamp_found foundStart]
  rfl

theorem readMoveResult_found {sequence : Int} {accepted : Bool} {reason : String}
    (foundAccepted : object.lookup "accepted" = some (.bool accepted))
    (foundId : object.lookup "room_id" = some (.string roomId))
    (foundSequence : object.lookup "sequence" = some (.int sequence))
    (foundReason : object.lookup "reason" = some (.string reason))
    (small : 0 ≤ sequence ∧ sequence < 2 ^ 63) :
    readMoveResult object = .ok (.moveResult roomId sequence.toNat accepted reason) := by
  have read : requiredBool object "accepted" = .ok accepted := by
    rw [requiredBool, foundAccepted]
  have natural : ((sequence.toNat : Nat) : Int) = sequence := Int.toNat_of_nonneg small.1
  rw [← natural] at foundSequence
  rw [readMoveResult, read, requiredString_found foundId,
    requiredUnsigned_found foundSequence (by omega), requiredString_found foundReason]
  rfl

end Events

/-! ## Reading messages -/

/-- What the client gets from a message that says `event`. -/
def outcome (message : GatewayMessage) (event : LobbyEvent) : ProtocolParseResult :=
  match message.negativeRating with
  | none => ⟨some event, ""⟩
  | some key => ⟨none, "Malformed lobby message: " ++ ("Invalid integer: " ++ key)⟩

/-- A message of a type that is known becomes what its reader makes of it. -/
theorem parseValue_read {object : Members} {type : String}
    {read : Members → Except String LobbyEvent} {result : Except String LobbyEvent}
    (found : object.lookup "type" = some (.string type)) (known : reader? type = some read)
    (reads : read object = result) :
    parseValue (.object object) = .of (some <$> result) := by
  rw [parseValue, requiredString_found found, Except.ok_bind, readEvent, known]
  exact congrArg (fun read => ProtocolParseResult.of (some <$> read)) reads

theorem parseValue_members {uuid : Nat → String} {message : GatewayMessage} {event : LobbyEvent}
    (meant : message.event uuid = some event) (inRange : message.InRange) :
    parseValue (.object (Schemas.members uuid message)) = outcome message event := by
  cases message with
  | pong | matchCancelled | spectatorLeft | opponentDisconnected | roomStatus | error | searching
  | matchNotFound | findMatchCancelled =>
      cases meant
      rfl
  | connected userId username rating =>
      cases meant
      exact parseValue_read rfl rfl (readConnected_found rfl rfl rfl rfl inRange)
  | lobbySnapshot snapshot =>
      cases meant
      obtain ⟨waiting, active⟩ := inRange
      exact parseValue_read rfl rfl (readLobbySnapshot_found rfl rfl waiting active)
  | roomCreated room =>
      cases meant
      exact parseValue_read rfl rfl (readRoomCreated_found rfl inRange)
  | gameStarted room player =>
      obtain ⟨opponent, isOpponent, said⟩ := Option.bind_eq_some_iff.mp meant
      cases said
      have found : Schemas.optionalUser uuid (room.opponent player.userId) =
          Schemas.publicUser uuid opponent.publicUser := by
        rw [isOpponent]
        rfl
      exact parseValue_read rfl rfl (readGameStarted_found rfl rfl rfl
        (by exact congrArg some found) (inRange opponent isOpponent))
  | watchingGame room =>
      obtain ⟨white, isWhite, said⟩ := Option.bind_eq_some_iff.mp meant
      obtain ⟨black, isBlack, said⟩ := Option.bind_eq_some_iff.mp said
      cases said
      obtain ⟨whites, blacks, small⟩ := inRange
      have foundWhite : Schemas.optionalUser uuid room.white =
          Schemas.publicUser uuid white.publicUser := by
        rw [isWhite]
        rfl
      have foundBlack : Schemas.optionalUser uuid room.black =
          Schemas.publicUser uuid black.publicUser := by
        rw [isBlack]
        rfl
      exact parseValue_read rfl rfl (readWatchingGame_found rfl rfl
        (by exact congrArg some foundWhite) (by exact congrArg some foundBlack) rfl
        (whites white isWhite) (blacks black isBlack) small)
  | matchReady roomId color opponent revision state gameStartsAt whiteRating blackRating =>
      cases meant
      obtain ⟨small, white, black⟩ := inRange
      rw [parseValue_read rfl rfl
        (readMatchReady_found rfl rfl rfl rfl rfl rfl rfl rfl small white black), outcome,
        GatewayMessage.negativeRating]
      split
      · rfl
      · split <;> rfl
  | matchCountdown roomId value gameStartsAt =>
      cases meant
      exact parseValue_read rfl rfl (readMatchCountdown_found rfl rfl rfl inRange)
  | matchStarted roomId gameStartsAt revision state =>
      cases meant
      exact parseValue_read rfl rfl (readMatchStarted_found rfl rfl rfl rfl inRange)
  | matchSnapshot roomId revision state =>
      cases meant
      exact parseValue_read rfl rfl (readState_found rfl rfl rfl inRange)
  | matchState roomId revision state =>
      cases meant
      exact parseValue_read rfl rfl (readState_found rfl rfl rfl inRange)
  | moveResult roomId sequence accepted reason =>
      cases meant
      exact parseValue_read rfl rfl (readMoveResult_found rfl rfl rfl rfl inRange)
  | ratingUpdated rating =>
      cases meant
      have read : optionalInteger (Schemas.members uuid (.ratingUpdated rating)) "rating" 0 =
          if 0 ≤ rating then .ok rating else .error ("Invalid integer: " ++ "rating") :=
        optionalInteger_found rfl inRange
      rw [parseValue_read rfl rfl (congrArg (Functor.map LobbyEvent.ratingUpdated) read), outcome,
        GatewayMessage.negativeRating]
      by_cases negative : rating < 0
      · rw [if_pos negative, if_neg (by omega)]
        rfl
      · rw [if_neg negative, if_pos (by omega)]
        rfl

/-- **What the gateway sends, the client reads**: the event that a message stands for, with every
number, text, user, room and state in it. It turns down nothing but the messages with a negative
rating in the place of a count. The state is what a game server wrote, character by character. -/
theorem parse_message {uuid : Nat → String} {message : GatewayMessage} {event : LobbyEvent}
    {jsonParse : String → Except String JsonValue} {text : String}
    (meant : message.event uuid = some event) (inRange : message.InRange)
    (reads : jsonParse text = .ok (.object (Schemas.members uuid message))) :
    parse jsonParse text = outcome message event ∧
      ∀ state ∈ message.state?, Protocol.writeSnapshot state.snapshot =
        .ok (JsonValue.object state.members).serialize := by
  refine ⟨?_, fun state _ => state.written⟩
  rw [parse, reads]
  exact parseValue_members meant inRange

/-- Ann's and Bob's game, with a capture in it, and a move and a jump under way. -/
def busyState : MatchState :=
  .ofGame .fallback none GameEngine.busyCalls GameEngine.busyCalls_inRange
    (by decide : IsText "ann") (by decide : IsText "bob") true (by decide : IsCount 9)

def busyStart : DateTime where
  seconds := [2024, 5, 1, 12, 0, 0]
  microsecond := 250000
  fits := .cons (by decide) <| .cons (by decide) <| .cons (by decide) <| .cons (by decide) <|
    .cons (by decide) <| .cons (by decide) .nil
  small := by decide

/-- Ann, with this rating, is told about her game. -/
def busyMatch (rating : Int) : GatewayMessage :=
  .matchReady 7 "white" "bob" 3 busyState busyStart rating 1180

/-- Carl watches the game. -/
def busyRoom : GameRoom where
  roomId := 7
  name := "Table"
  visibility := .visible
  host := { userId := 1, username := "ann", websocket := 11, rating := 1200 }
  guest := some { userId := 2, username := "bob", websocket := 12, rating := -20 }
  white := some { userId := 1, username := "ann", websocket := 11, rating := 1200 }
  black := some { userId := 2, username := "bob", websocket := 12, rating := -20 }
  status := .active
  spectators := AList.singleton 13 { userId := 3, username := "carl", websocket := 13 }

/-- The text of a message. -/
def messageText (message : GatewayMessage) : String :=
  String.ofList (JsonValue.object (Schemas.members toString message)).serialize

/-- A parser of this text alone. -/
def messageParse (message : GatewayMessage) (text : String) : Except String JsonValue :=
  if text = messageText message then .ok (.object (Schemas.members toString message))
  else .error "syntax error"

/-- The start of a game, the same with a negative rating, and a game with its two users. -/
theorem parse_message_busyMatch :
    (parse (messageParse (busyMatch 1200)) (messageText (busyMatch 1200)) =
        ⟨some (.matchReady "7" "white" "bob" 3 busyState.snapshot "2024-05-01T12:00:00.250000Z"
          1200 1180), ""⟩ ∧
      ∀ state ∈ (busyMatch 1200).state?, Protocol.writeSnapshot state.snapshot =
        .ok (JsonValue.object state.members).serialize) ∧
    parse (messageParse (busyMatch (-1))) (messageText (busyMatch (-1))) =
      ⟨none, "Malformed lobby message: Invalid integer: white_rating"⟩ ∧
    parse (messageParse (.watchingGame busyRoom)) (messageText (.watchingGame busyRoom)) =
      ⟨some (.watchingGame "7" "Table" ⟨"1", "ann", 1200⟩ ⟨"2", "bob", -20⟩ 1), ""⟩ := by
  have start : busyStart.zulu = "2024-05-01T12:00:00.250000Z" := rfl
  have ready : ∀ rating : Int, (busyMatch rating).event toString = some (.matchReady "7" "white"
      "bob" 3 busyState.snapshot "2024-05-01T12:00:00.250000Z" rating 1180) := by
    intro rating
    rw [busyMatch, GatewayMessage.event, start]
    rfl
  have watching : (GatewayMessage.watchingGame busyRoom).event toString =
      some (.watchingGame "7" "Table" ⟨"1", "ann", 1200⟩ ⟨"2", "bob", -20⟩ 1) := rfl
  have sized : ∀ rating : Int, IsRating rating → (busyMatch rating).InRange :=
    fun rating isRating => ⟨by decide, isRating, by decide, by decide⟩
  refine ⟨parse_message (ready 1200) (sized 1200 ⟨by decide, by decide⟩) (if_pos rfl),
    (parse_message (ready (-1)) (sized (-1) ⟨by decide, by decide⟩) (if_pos rfl)).1,
    (parse_message watching ⟨?_, ?_, by decide⟩ (if_pos rfl)).1⟩
  · rintro white ⟨⟩
    exact ⟨by decide, by decide⟩
  · rintro black ⟨⟩
    exact ⟨by decide, by decide⟩

end LobbyProtocol

end Lobby

end KungFuChess

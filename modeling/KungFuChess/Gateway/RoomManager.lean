import KungFuChess.Core.Pieces
import KungFuChess.Library.ReverseIndex
import Mathlib.Data.List.DropRight

/-!
# The rooms of the gateway

`RoomManager` keeps the rooms, the codes of the hidden ones, and two reverse
indexes: the room of each player and the room each connection watches. Every
operation runs under one lock, so it is one step of `RoomManager.step`. An
operation that raises does so before it writes anything, which is why a failed
one returns no manager.

A web socket is known by its identity. The random room identifiers and codes an
operation draws are arguments of its step.
-/

set_option autoImplicit false

namespace KungFuChess

/-! ## Rooms -/

abbrev UserId := Nat

abbrev RoomId := Nat

/-- The identity of a web socket. -/
abbrev ConnectionId := Nat

inductive RoomVisibility where
  | visible
  | hidden
  deriving DecidableEq, Repr

inductive RoomStatus where
  | waiting
  | active
  | finished
  deriving DecidableEq, Repr

structure ConnectedUser where
  userId : UserId
  username : String := ""
  websocket : ConnectionId
  rating : Int := 1200
  deriving DecidableEq, Repr

structure GameRoom where
  roomId : RoomId
  name : String
  visibility : RoomVisibility
  host : ConnectedUser
  roomCode : Option String := none
  guest : Option ConnectedUser := none
  white : Option ConnectedUser := none
  black : Option ConnectedUser := none
  status : RoomStatus := .waiting
  spectators : AList fun _ : ConnectionId => ConnectedUser := ∅

namespace GameRoom

/-- Whether the user of a seat is this one. -/
def isUser (userId : UserId) (seat : Option ConnectedUser) : Bool :=
  seat.any fun user => user.userId = userId

def opponent (room : GameRoom) (userId : UserId) : Option ConnectedUser :=
  if isUser userId room.white then room.black
  else if isUser userId room.black then room.white
  else none

/-- The users who play in a room. -/
def players (room : GameRoom) : List UserId :=
  room.host.userId :: (room.guest.map ConnectedUser.userId).toList

end GameRoom

/-- The error an operation raises. -/
structure RoomOperationError where
  code : String
  message : String
  deriving DecidableEq, Repr

/-- What a connection is told when a room is removed. -/
inductive RoomMessage where
  | opponentDisconnected (roomId : RoomId)
  | roomStatus (roomId : RoomId) (status : String)
  deriving DecidableEq, Repr

structure CleanupNotification where
  websocket : ConnectionId
  message : RoomMessage
  deriving DecidableEq, Repr

structure CleanupResult where
  lobbyChanged : Bool := false
  removedRoomId : Option RoomId := none
  notifications : List CleanupNotification := []
  deriving DecidableEq, Repr

/-! ## Names -/

namespace RoomName

def maxBytes : Nat := 40

/-- The white space that `str.strip` removes. -/
def isSpace (character : Char) : Bool :=
  let code := character.toNat
  (9 ≤ code && code ≤ 13) || (28 ≤ code && code ≤ 32) || code = 0x85 || code = 0xA0 ||
    code = 0x1680 || (0x2000 ≤ code && code ≤ 0x200A) || code = 0x2028 || code = 0x2029 ||
    code = 0x202F || code = 0x205F || code = 0x3000

def strip (value : String) : String :=
  String.ofList ((value.toList.dropWhile isSpace).rdropWhile isSpace)

/-- `validate_room_name`; a value that is not a string is `none`. -/
def validate : Option String → Except RoomOperationError String
  | none => .error ⟨"invalid_room_name", "Room name is required."⟩
  | some value =>
      let name := strip value
      if name = "" then .error ⟨"invalid_room_name", "Room name is required."⟩
      else if maxBytes < name.utf8ByteSize then
        .error ⟨"invalid_room_name", "Room name must be at most 40 UTF-8 bytes."⟩
      else .ok name

/-- `normalize_room_name`: the ASCII letters in lower case. -/
def normalize (value : String) : String := value.map Char.toLower

end RoomName

/-! ## The manager -/

/-- The tables of the manager, under its lock. -/
structure RoomManager where
  rooms : AList fun _ : RoomId => GameRoom := ∅
  hiddenCodes : AList fun _ : String => RoomId := ∅
  playerRoomByUser : AList fun _ : UserId => RoomId := ∅
  spectatorRoomByConnection : AList fun _ : ConnectionId => RoomId := ∅
  lobbySubscribers : List ConnectionId := []

namespace RoomManager

/-- `_new_room_code_locked`: the first code drawn that no room has; nothing while
every code drawn so far is taken. -/
def newRoomCode (manager : RoomManager) (draws : List String) : Option String :=
  draws.find? fun code => code ∉ manager.hiddenCodes

def parseVisibility (visibility : String) : Option RoomVisibility :=
  if visibility = "public" then some .visible
  else if visibility = "hidden" then some .hidden
  else none

/-- Write a room into the table. -/
def storeRoom (manager : RoomManager) (room : GameRoom) : RoomManager :=
  { manager with rooms := manager.rooms.insert room.roomId room }

/-- The section of `create_room`, once the room code is drawn. -/
def openRoom (manager : RoomManager) (host : ConnectedUser) (name : String)
    (visibility : RoomVisibility) (roomId : RoomId) (roomCode : Option String) :
    GameRoom × RoomManager :=
  let room : GameRoom :=
    { roomId := roomId, name := name, visibility := visibility, host := host
      roomCode := roomCode }
  let manager := manager.storeRoom room
  (room,
    { manager with
      playerRoomByUser := manager.playerRoomByUser.insert host.userId roomId
      hiddenCodes :=
        match roomCode with
        | none => manager.hiddenCodes
        | some code => manager.hiddenCodes.insert code roomId })

/-- `create_room`; no answer while every code drawn so far is taken. -/
def createRoom (manager : RoomManager) (host : ConnectedUser) (name : Option String)
    (visibility : String) (roomId : RoomId) (draws : List String) :
    Option (Except RoomOperationError (GameRoom × RoomManager)) :=
  match parseVisibility visibility, RoomName.validate name with
  | none, _ =>
      some (.error ⟨"invalid_visibility", "Visibility must be public or hidden."⟩)
  | some _, .error error => some (.error error)
  | some visibility, .ok validatedName =>
      if host.userId ∈ manager.playerRoomByUser then
        some (.error ⟨"already_in_room", "User is already participating in a room."⟩)
      else if manager.rooms.entries.any fun stored => stored.2.status ≠ .finished ∧
          RoomName.normalize stored.2.name = RoomName.normalize validatedName then
        some (.error ⟨"room_name_taken", "A room with this name already exists."⟩)
      else
        match visibility with
        | .visible => some (.ok (manager.openRoom host validatedName .visible roomId none))
        | .hidden =>
            (manager.newRoomCode draws).map fun code =>
              .ok (manager.openRoom host validatedName .hidden roomId (some code))

/-- Make a user the guest of a room, which starts the game. -/
def seatGuest (manager : RoomManager) (room : GameRoom) (guest : ConnectedUser) :
    GameRoom × RoomManager :=
  let joined : GameRoom :=
    { room with guest := some guest, white := some room.host, black := some guest
                status := .active }
  let manager := manager.storeRoom joined
  (joined,
    { manager with
      playerRoomByUser := manager.playerRoomByUser.insert guest.userId room.roomId
      hiddenCodes :=
        match room.roomCode with
        | none => manager.hiddenCodes
        | some code => manager.hiddenCodes.erase code })

/-- `_join_locked`. -/
def joinLocked (manager : RoomManager) (room : GameRoom) (guest : ConnectedUser) :
    Except RoomOperationError (GameRoom × RoomManager) :=
  if room.host.userId = guest.userId then
    .error ⟨"cannot_join_own_room", "The host cannot join their own room."⟩
  else if guest.userId ∈ manager.playerRoomByUser then
    .error ⟨"already_in_room", "User is already participating in a room."⟩
  else if room.status ≠ .waiting ∨ room.guest ≠ none then
    .error ⟨"room_unavailable", "Room is no longer available."⟩
  else .ok (manager.seatGuest room guest)

def joinPublicRoom (manager : RoomManager) (roomId : RoomId) (guest : ConnectedUser) :
    Except RoomOperationError (GameRoom × RoomManager) :=
  match manager.rooms.lookup roomId with
  | none => .error ⟨"room_not_found", "Room was not found."⟩
  | some room =>
      if room.visibility ≠ .visible then .error ⟨"room_not_public", "Room is not public."⟩
      else manager.joinLocked room guest

/-- `join_hidden_room`, of a code as `strip().upper()` leaves it. -/
def joinHiddenRoom (manager : RoomManager) (normalizedCode : String) (guest : ConnectedUser) :
    Except RoomOperationError (GameRoom × RoomManager) :=
  match (manager.hiddenCodes.lookup normalizedCode).bind manager.rooms.lookup with
  | none => .error ⟨"invalid_room_code", "Room code is invalid or no longer available."⟩
  | some room => manager.joinLocked room guest

/-- `match_players`; `suffix` is the random part of the name. -/
def matchPlayers (manager : RoomManager) (first second : ConnectedUser) (roomId : RoomId)
    (suffix : String) : Except RoomOperationError (GameRoom × RoomManager) :=
  if first.userId ∈ manager.playerRoomByUser ∨ second.userId ∈ manager.playerRoomByUser then
    .error ⟨"already_in_room", "A matched player is already participating in a room."⟩
  else
    let room : GameRoom :=
      { roomId := roomId, name := "Quick Match " ++ suffix, visibility := .visible, host := first
        guest := some second, white := some first, black := some second, status := .active }
    let manager := manager.storeRoom room
    .ok (room,
      { manager with
        playerRoomByUser :=
          (manager.playerRoomByUser.insert first.userId roomId).insert second.userId roomId })

/-- Take the players of a room off the index. -/
def freePlayers (manager : RoomManager) (room : GameRoom) : RoomManager :=
  { manager with
    playerRoomByUser := ReverseIndex.eraseAll manager.playerRoomByUser room.players }

/-- Forget the code of a room, if it has one. -/
def forgetCode (manager : RoomManager) (room : GameRoom) : RoomManager :=
  { manager with
    hiddenCodes := ReverseIndex.eraseAll manager.hiddenCodes room.roomCode.toList }

def discardRoom (manager : RoomManager) (roomId : RoomId) : RoomManager :=
  match manager.rooms.lookup roomId with
  | none => manager
  | some room =>
      { (manager.freePlayers room).forgetCode room with rooms := manager.rooms.erase roomId }

def rollbackJoin (manager : RoomManager) (roomId : RoomId) (guestId : UserId) : RoomManager :=
  match manager.rooms.lookup roomId with
  | none => manager
  | some room =>
      if GameRoom.isUser guestId room.guest then
        let manager := manager.storeRoom
          { room with guest := none, white := none, black := none, status := .waiting }
        { manager with
          playerRoomByUser := manager.playerRoomByUser.erase guestId
          hiddenCodes :=
            match room.roomCode with
            | none => manager.hiddenCodes
            | some code => manager.hiddenCodes.insert code room.roomId }
      else manager

def watchRoom (manager : RoomManager) (roomId : RoomId) (spectator : ConnectedUser) :
    Except RoomOperationError (GameRoom × RoomManager) :=
  match manager.rooms.lookup roomId with
  | none => .error ⟨"room_not_found", "Room was not found."⟩
  | some room =>
      if room.status ≠ .active then
        .error ⟨"room_not_active", "Only active games can be watched."⟩
      else if GameRoom.isUser spectator.userId room.white ∨
          GameRoom.isUser spectator.userId room.black then
        .error ⟨"player_cannot_spectate", "Players cannot spectate their own game."⟩
      else if spectator.websocket ∈ manager.spectatorRoomByConnection then
        .error ⟨"already_watching", "Connection is already watching a game."⟩
      else
        let room : GameRoom :=
          { room with spectators := room.spectators.insert spectator.websocket spectator }
        let manager := manager.storeRoom room
        .ok (room,
          { manager with
            spectatorRoomByConnection :=
              manager.spectatorRoomByConnection.insert spectator.websocket roomId })

/-- Take a connection off the spectators of a room that is still stored. -/
def dropSpectator (manager : RoomManager) (roomId : RoomId) (connection : ConnectionId) :
    RoomManager :=
  { manager with
    rooms :=
      match manager.rooms.lookup roomId with
      | none => manager.rooms
      | some room =>
          manager.rooms.insert roomId { room with spectators := room.spectators.erase connection }
    spectatorRoomByConnection := manager.spectatorRoomByConnection.erase connection }

def leaveSpectator (manager : RoomManager) (connection : ConnectionId) (roomId : RoomId) :
    Except RoomOperationError RoomManager :=
  if manager.spectatorRoomByConnection.lookup connection ≠ some roomId then
    .error ⟨"not_watching", "Connection is not watching this room."⟩
  else .ok (manager.dropSpectator roomId connection)

def finishRoom (manager : RoomManager) (roomId : RoomId) : RoomManager :=
  match manager.rooms.lookup roomId with
  | none => manager
  | some room =>
      if room.status = .finished then manager
      else (manager.storeRoom { room with status := .finished }).freePlayers room

def subscribeLobby (manager : RoomManager) (connection : ConnectionId) :
    Except RoomOperationError RoomManager :=
  if connection ∈ manager.lobbySubscribers then
    .error ⟨"already_subscribed", "Connection is already subscribed to the lobby."⟩
  else .ok { manager with lobbySubscribers := manager.lobbySubscribers ++ [connection] }

/-! ### Closing a connection -/

/-- Whether a connection is the one its user plays in a room with. -/
def ownsConnection (room : GameRoom) (userId : UserId) (connection : ConnectionId) : Bool :=
  (room.host.userId = userId ∧ room.host.websocket = connection) ∨
    room.guest.any fun guest => guest.userId = userId ∧ guest.websocket = connection

/-- Take a room out of every table. -/
def removeRoom (manager : RoomManager) (room : GameRoom) : RoomManager :=
  let manager := (manager.forgetCode room).freePlayers room
  { manager with
    rooms := manager.rooms.erase room.roomId
    spectatorRoomByConnection :=
      ReverseIndex.eraseAll manager.spectatorRoomByConnection room.spectators.keys }

/-- Who is told that a room is removed. -/
def removalNotifications (room : GameRoom) (userId : UserId) : List CleanupNotification :=
  if room.status ≠ .active then []
  else
    ((room.opponent userId).map fun opponent =>
        (⟨opponent.websocket, .opponentDisconnected room.roomId⟩ : CleanupNotification)).toList ++
      -- The newest entry of the table comes first, the oldest of the source's.
      room.spectators.entries.reverse.map fun spectator =>
        ⟨spectator.2.websocket, .roomStatus room.roomId "removed"⟩

/-- The first half of `remove_connection`: the connection as a subscriber and as a
spectator. -/
def closeSpectator (manager : RoomManager) (connection : ConnectionId) : Bool × RoomManager :=
  let manager := { manager with lobbySubscribers := manager.lobbySubscribers.erase connection }
  match manager.spectatorRoomByConnection.lookup connection with
  | none => (false, manager)
  | some roomId =>
      ((manager.rooms.lookup roomId).isSome, manager.dropSpectator roomId connection)

def removeConnection (manager : RoomManager) (userId : UserId) (connection : ConnectionId) :
    CleanupResult × RoomManager :=
  let (lobbyChanged, manager) := manager.closeSpectator connection
  match (manager.playerRoomByUser.lookup userId).bind manager.rooms.lookup with
  | none => ({ lobbyChanged := lobbyChanged }, manager)
  | some room =>
      if ownsConnection room userId connection then
        ({ lobbyChanged :=
            lobbyChanged || decide (room.status = .active) || decide (room.visibility = .visible)
           removedRoomId := some room.roomId
           notifications := removalNotifications room userId },
          manager.removeRoom room)
      else ({ lobbyChanged := lobbyChanged }, manager)

end RoomManager

/-! ## Steps -/

/-- One operation, with what it draws. -/
inductive RoomStep where
  | createRoom (host : ConnectedUser) (name : Option String) (visibility : String)
      (roomId : RoomId) (draws : List String)
  | joinPublicRoom (roomId : RoomId) (guest : ConnectedUser)
  | joinHiddenRoom (normalizedCode : String) (guest : ConnectedUser)
  | matchPlayers (first second : ConnectedUser) (roomId : RoomId) (suffix : String)
  | discardRoom (roomId : RoomId)
  | rollbackJoin (roomId : RoomId) (guestId : UserId)
  | watchRoom (roomId : RoomId) (spectator : ConnectedUser)
  | leaveSpectator (connection : ConnectionId) (roomId : RoomId)
  | finishRoom (roomId : RoomId)
  | subscribeLobby (connection : ConnectionId)
  | removeConnection (userId : UserId) (connection : ConnectionId)
  deriving DecidableEq

namespace RoomManager

/-- The manager after an operation that may raise. -/
def settle {α : Type} (manager : RoomManager) (result : Except RoomOperationError α)
    (left : α → RoomManager) : RoomManager :=
  match result with
  | .ok done => left done
  | .error _ => manager

/-- The manager after an operation. -/
def step (manager : RoomManager) : RoomStep → RoomManager
  | .createRoom host name visibility roomId draws =>
      match manager.createRoom host name visibility roomId draws with
      | none => manager
      | some result => manager.settle result Prod.snd
  | .joinPublicRoom roomId guest => manager.settle (manager.joinPublicRoom roomId guest) Prod.snd
  | .joinHiddenRoom code guest => manager.settle (manager.joinHiddenRoom code guest) Prod.snd
  | .matchPlayers first second roomId suffix =>
      manager.settle (manager.matchPlayers first second roomId suffix) Prod.snd
  | .discardRoom roomId => manager.discardRoom roomId
  | .rollbackJoin roomId guestId => manager.rollbackJoin roomId guestId
  | .watchRoom roomId spectator => manager.settle (manager.watchRoom roomId spectator) Prod.snd
  | .leaveSpectator connection roomId =>
      manager.settle (manager.leaveSpectator connection roomId) id
  | .finishRoom roomId => manager.finishRoom roomId
  | .subscribeLobby connection => manager.settle (manager.subscribeLobby connection) id
  | .removeConnection userId connection => (manager.removeConnection userId connection).2

/-! ### What becomes of an operation -/

variable {manager : RoomManager}

/-- A room is opened, or nothing happens. -/
theorem createRoom_cases (host : ConnectedUser) (name : Option String) (visibility : String)
    (roomId : RoomId) (draws : List String) :
    manager.step (.createRoom host name visibility roomId draws) = manager ∨
      host.userId ∉ manager.playerRoomByUser ∧ ∃ validatedName,
        manager.step (.createRoom host name visibility roomId draws) =
            (manager.openRoom host validatedName .visible roomId none).2 ∨
          ∃ code, code ∉ manager.hiddenCodes ∧
            manager.step (.createRoom host name visibility roomId draws) =
              (manager.openRoom host validatedName .hidden roomId (some code)).2 := by
  simp only [step, createRoom]
  split
  · exact .inl rfl
  · next result answered =>
      split at answered
      · exact .inl (Option.some.inj answered ▸ rfl)
      · exact .inl (Option.some.inj answered ▸ rfl)
      · split at answered
        · exact .inl (Option.some.inj answered ▸ rfl)
        · next free =>
            split at answered
            · exact .inl (Option.some.inj answered ▸ rfl)
            · split at answered
              · cases answered
                exact .inr ⟨free, _, .inl rfl⟩
              · obtain ⟨code, drawn, rfl⟩ := Option.map_eq_some_iff.mp answered
                have unused := List.find?_some drawn
                exact .inr ⟨free, _, .inr ⟨code, of_decide_eq_true unused, rfl⟩⟩

/-- What a join has found out when it seats the guest. -/
structure Vacancy (manager : RoomManager) (room : GameRoom) (guest : ConnectedUser) : Prop where
  stored : ∃ roomId, manager.rooms.lookup roomId = some room
  apart : room.host.userId ≠ guest.userId
  free : guest.userId ∉ manager.playerRoomByUser
  waiting : room.status = .waiting
  vacant : room.guest = none

theorem joinLocked_cases {roomId : RoomId} {room : GameRoom} (guest : ConnectedUser)
    (stored : manager.rooms.lookup roomId = some room) :
    manager.settle (manager.joinLocked room guest) Prod.snd = manager ∨
      manager.Vacancy room guest ∧ manager.settle (manager.joinLocked room guest) Prod.snd =
        (manager.seatGuest room guest).2 := by
  rw [joinLocked]
  split
  · exact .inl rfl
  · next apart =>
      split
      · exact .inl rfl
      · next free =>
          split
          · exact .inl rfl
          · next available =>
              rw [not_or, not_not, not_not] at available
              exact .inr ⟨⟨⟨roomId, stored⟩, apart, free, available.1, available.2⟩, rfl⟩

/-- A guest is seated, or nothing happens. -/
theorem joinPublicRoom_cases (roomId : RoomId) (guest : ConnectedUser) :
    manager.step (.joinPublicRoom roomId guest) = manager ∨
      ∃ room, manager.Vacancy room guest ∧
        manager.step (.joinPublicRoom roomId guest) = (manager.seatGuest room guest).2 := by
  rw [step, joinPublicRoom]
  split
  · exact .inl rfl
  · next room stored =>
      split
      · exact .inl rfl
      · exact (joinLocked_cases guest stored).imp_right fun seats => ⟨room, seats⟩

theorem joinHiddenRoom_cases (code : String) (guest : ConnectedUser) :
    manager.step (.joinHiddenRoom code guest) = manager ∨
      ∃ room, manager.Vacancy room guest ∧
        manager.step (.joinHiddenRoom code guest) = (manager.seatGuest room guest).2 := by
  rw [step, joinHiddenRoom]
  split
  · exact .inl rfl
  · next room found =>
      obtain ⟨_, -, stored⟩ := Option.bind_eq_some_iff.mp found
      exact (joinLocked_cases guest stored).imp_right fun seats => ⟨room, seats⟩

end RoomManager

end KungFuChess

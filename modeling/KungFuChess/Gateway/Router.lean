import KungFuChess.Gateway.PlayQueue
import KungFuChess.Gateway.RoomIndexes
import KungFuChess.Gateway.Tasks

/-!
# The web sockets of the gateway

Every web socket has a loop that handles one message at a time and, when the socket
is closed, ends and cleans up. The loops interleave at their awaits, with each other
and with the tasks of `MatchManager` and `PlayQueue`; what they share are the rooms,
the play queue and the matches.

A step takes one loop or one task from an await to the next. What a loop answers its
own client changes nothing, and an answer that raises is followed by the end of the
loop (`drop`). Spectators and the lobby are left out.
-/

set_option autoImplicit false

namespace KungFuChess

/-! ## Loops -/

/-- What is sent to a user who may be waiting for it. -/
inductive Notice where
  | matchReady (roomId : RoomId)
  | error (error : MatchOperationError)
  | cleanup (message : RoomMessage)
  | matchNotFound
  deriving DecidableEq, Repr

/-- What a handler does when `start_match` raises a `MatchOperationError`. -/
inductive StartUndo where
  /-- The guest of a join goes. -/
  | rollbackJoin (guestId : UserId)
  /-- The room of a search is discarded, and its host is told. -/
  | discardRoom (opponent : ConnectedUser)
  deriving DecidableEq, Repr

/-- Where the loop of a web socket is. -/
inductive SocketPhase where
  | receiving
  /-- `find_match` has seen that its user is in no room, and fetches the rating. -/
  | searching
  /-- `find_match` has taken an opponent off the queue. -/
  | paired (opponent user : ConnectedUser)
  /-- A room has got its second player, and is about to be started. -/
  | joined (room : GameRoom) (undo : StartUndo)
  | starting (start : StartId) (roomId : RoomId) (undo : StartUndo)
  /-- The room of a search is discarded. -/
  | informing (opponent : ConnectedUser) (error : MatchOperationError)
  /-- The loop has ended. -/
  | leaving
  | removing
  /-- The user's room is removed, and its match is about to be cleaned up. -/
  | cleaning (roomId : RoomId) (notifications : List CleanupNotification)
  /-- `cleanup_room` has taken a match off the table, and ends it. -/
  | ending (ending : Nat) (notifications : List CleanupNotification)
  | notifying (notifications : List CleanupNotification)
  | closed

namespace SocketPhase

/-- No handler is in progress. -/
def isIdle : SocketPhase → Bool
  | .receiving | .closed => true
  | _ => false

/-- The loop has ended. -/
def hasLeft : SocketPhase → Bool
  | .leaving | .removing | .cleaning .. | .ending .. | .notifying _ | .closed => true
  | _ => false

/-- The room that a handler starts, or undoes. -/
def room? : SocketPhase → Option RoomId
  | .joined room _ => some room.roomId
  | .starting _ roomId _ => some roomId
  | _ => none

/-- The end of a loop after `remove_connection`. -/
def afterRemoval (cleanup : CleanupResult) : SocketPhase :=
  match cleanup.removedRoomId with
  | some roomId => .cleaning roomId cleanup.notifications
  | none => .notifying cleanup.notifications

/-- The room that a loop is about to clean up. -/
def cleans? : SocketPhase → Option RoomId
  | .cleaning roomId _ => some roomId
  | _ => none

theorem cleans?_of_isIdle {phase : SocketPhase} (idle : phase.isIdle = true) :
    phase.cleans? = none := by
  cases phase <;> first | rfl | cases idle

end SocketPhase

structure Connection where
  userId : UserId
  username : String
  phase : SocketPhase

/-- A user as a room and the queue know them. -/
def Connection.user (connection : Connection) (websocket : ConnectionId) (rating : Int) :
    ConnectedUser where
  userId := connection.userId
  username := connection.username
  websocket := websocket
  rating := rating

/-- The stores of the gateway, the loops of its web sockets and what was sent. A web socket is
known by its place among the connections. -/
structure Gateway where
  rooms : RoomManager := {}
  queue : PlayQueue := .empty
  service : MatchService
  connections : List Connection := []
  sent : List (ConnectionId × Notice) := []

inductive GatewayStep where
  | connect (userId : UserId) (username : String)
  | createRoom (websocket : ConnectionId) (rating : Int) (name : Option String)
      (visibility : String) (roomId : RoomId) (draws : List String)
  | joinRoom (websocket : ConnectionId) (rating : Int) (roomId : RoomId)
  | joinHiddenRoom (websocket : ConnectionId) (rating : Int) (normalizedCode : String)
  /-- `find_match` up to its first await. -/
  | search (websocket : ConnectionId)
  | findMatch (websocket : ConnectionId) (rating : Int)
  | matchPlayers (websocket : ConnectionId) (roomId : RoomId) (suffix : String)
  | cancelFindMatch (websocket : ConnectionId)
  | expire (task : TaskId)
  | startMatch (websocket : ConnectionId)
  /-- A task of the match manager goes on. -/
  | service (input : ServiceStep)
  /-- `start_match` has returned, or raised. -/
  | startEnds (websocket : ConnectionId)
  | inform (websocket : ConnectionId)
  | drop (websocket : ConnectionId)
  | leaveQueue (websocket : ConnectionId)
  | removeConnection (websocket : ConnectionId)
  | cleanupRoom (websocket : ConnectionId) (nowMs : Int)
  | cleanupEnds (websocket : ConnectionId)
  | notify (websocket : ConnectionId)
  /-- `_finish_match` calls its handler. -/
  | matchEnded (ending : Nat)

namespace Gateway

/-- The gateway before anybody connects. -/
def opened (allocator : ShardPoolAllocator) (store : RatingStore) : Gateway where
  service := { allocator := allocator, store := store }

/-! ## Sections -/

def phase (gateway : Gateway) (websocket : ConnectionId) : Option SocketPhase :=
  gateway.connections[websocket]?.map Connection.phase

def setPhase (gateway : Gateway) (websocket : ConnectionId) (phase : SocketPhase) : Gateway :=
  { gateway with
    connections := gateway.connections.modify websocket fun connection =>
      { connection with phase := phase } }

/-- A room is changed: the match manager has the same object. -/
def storeRooms (gateway : Gateway) (rooms : RoomManager) (roomId : RoomId) : Gateway :=
  { gateway with
    rooms := rooms
    service :=
      match rooms.rooms.lookup roomId with
      | none => gateway.service
      | some room => gateway.service.changeRoom room }

/-- A handler has found a room for its user, or has failed. -/
def enter (gateway : Gateway) (websocket : ConnectionId)
    (result : Except RoomOperationError (GameRoom × RoomManager)) (undo : StartUndo) : Gateway :=
  match result with
  | .ok (room, rooms) =>
      (gateway.storeRooms rooms room.roomId).setPhase websocket (.joined room undo)
  | .error _ => gateway.setPhase websocket .receiving

/-- What a handler does when `start_match` raises a `MatchOperationError`. -/
def undoStart (gateway : Gateway) (websocket : ConnectionId) (roomId : RoomId)
    (error : MatchOperationError) : StartUndo → Gateway
  | .rollbackJoin guestId =>
      (gateway.storeRooms (gateway.rooms.rollbackJoin roomId guestId) roomId).setPhase websocket
        .receiving
  | .discardRoom opponent =>
      { gateway with rooms := gateway.rooms.discardRoom roomId }.setPhase websocket
        (.informing opponent error)

/-- The `match_ready` message of a step. -/
def tells (gateway : Gateway) : ServiceStep → List (ConnectionId × Notice)
  | .send start _ =>
      match gateway.service.starts[start]? with
      | some ⟨room, .sendingWhite _⟩ =>
          room.white.toList.map fun white => (white.websocket, Notice.matchReady room.roomId)
      | some ⟨room, .sendingBlack _⟩ =>
          room.black.toList.map fun black => (black.websocket, Notice.matchReady room.roomId)
      | _ => []
  | _ => []

/-- A task of the match manager can take this step: a match that is finished has had its
handler called. -/
def allows (gateway : Gateway) : ServiceStep → Bool
  | .proceed ending false =>
      match gateway.service.endings[ending]? with
      | none => true
      | some task =>
          (gateway.rooms.rooms.lookup task.ended.room.roomId).all fun room =>
            room.status = .finished
  | input => input.isInternal

/-! ## Steps -/

variable (updateRatings : Int → Int → Int × Int)

/-- One loop or task goes on; a step of a loop that is not at its await does nothing. -/
def step (gateway : Gateway) : GatewayStep → Gateway
  | .connect userId username =>
      { gateway with connections := gateway.connections ++ [⟨userId, username, .receiving⟩] }
  | .createRoom websocket rating name visibility roomId draws =>
      match gateway.connections[websocket]? with
      | some ⟨userId, username, .receiving⟩ =>
          { gateway with
            rooms := gateway.rooms.step
              (.createRoom ⟨userId, username, websocket, rating⟩ name visibility roomId draws) }
      | _ => gateway
  | .joinRoom websocket rating roomId =>
      match gateway.connections[websocket]? with
      | some ⟨userId, username, .receiving⟩ =>
          gateway.enter websocket
            (gateway.rooms.joinPublicRoom roomId ⟨userId, username, websocket, rating⟩)
            (.rollbackJoin userId)
      | _ => gateway
  | .joinHiddenRoom websocket rating normalizedCode =>
      match gateway.connections[websocket]? with
      | some ⟨userId, username, .receiving⟩ =>
          gateway.enter websocket
            (gateway.rooms.joinHiddenRoom normalizedCode ⟨userId, username, websocket, rating⟩)
            (.rollbackJoin userId)
      | _ => gateway
  | .search websocket =>
      match gateway.connections[websocket]? with
      | some ⟨userId, _, .receiving⟩ =>
          if userId ∈ gateway.rooms.playerRoomByUser then gateway
          else gateway.setPhase websocket .searching
      | _ => gateway
  | .findMatch websocket rating =>
      match gateway.connections[websocket]? with
      | some ⟨userId, username, .searching⟩ =>
          let user : ConnectedUser := ⟨userId, username, websocket, rating⟩
          match gateway.queue.findMatch user with
          | (some opponent, queue) =>
              { gateway with queue := queue }.setPhase websocket (.paired opponent user)
          | (none, queue) => { gateway with queue := queue }.setPhase websocket .receiving
      | _ => gateway
  | .matchPlayers websocket roomId suffix =>
      match gateway.phase websocket with
      | some (.paired opponent user) =>
          gateway.enter websocket (gateway.rooms.matchPlayers opponent user roomId suffix)
            (.discardRoom opponent)
      | _ => gateway
  | .cancelFindMatch websocket =>
      match gateway.connections[websocket]? with
      | some ⟨userId, _, .receiving⟩ => { gateway with queue := (gateway.queue.leave userId).2 }
      | _ => gateway
  | .expire task =>
      let (user, queue) := gateway.queue.expire task
      { gateway with
        queue := queue
        sent := gateway.sent ++ user.toList.map fun user => (user.websocket, Notice.matchNotFound) }
  | .startMatch websocket =>
      match gateway.phase websocket with
      | some (.joined room undo) =>
          { gateway with service := gateway.service.beginStart room }.setPhase websocket
            (.starting gateway.service.starts.length room.roomId undo)
      | _ => gateway
  | .service input =>
      if gateway.allows input then
        { gateway with
          service := gateway.service.step updateRatings input
          sent := gateway.sent ++ gateway.tells input }
      else gateway
  | .startEnds websocket =>
      match gateway.phase websocket with
      | some (.starting start roomId undo) =>
          match gateway.service.startPhase start with
          | some .returned => gateway.setPhase websocket .receiving
          | some (.raised _ (.operation error)) => gateway.undoStart websocket roomId error undo
          | some (.raised _ .other) => gateway.setPhase websocket .leaving
          | _ => gateway
      | _ => gateway
  | .inform websocket =>
      match gateway.phase websocket with
      | some (.informing opponent error) =>
          { gateway with
            sent := gateway.sent ++ [(opponent.websocket, Notice.error error)] }.setPhase
              websocket .receiving
      | _ => gateway
  | .drop websocket =>
      match gateway.phase websocket with
      | some .receiving => gateway.setPhase websocket .leaving
      | _ => gateway
  | .leaveQueue websocket =>
      match gateway.connections[websocket]? with
      | some ⟨userId, _, .leaving⟩ =>
          { gateway with queue := (gateway.queue.leave userId).2 }.setPhase websocket .removing
      | _ => gateway
  | .removeConnection websocket =>
      match gateway.connections[websocket]? with
      | some ⟨userId, _, .removing⟩ =>
          let (cleanup, rooms) := gateway.rooms.removeConnection userId websocket
          { gateway with rooms := rooms }.setPhase websocket (.afterRemoval cleanup)
      | _ => gateway
  | .cleanupRoom websocket nowMs =>
      match gateway.connections[websocket]? with
      | some ⟨userId, _, .cleaning roomId notifications⟩ =>
          { gateway with
            service := gateway.service.step updateRatings
              (.cleanup roomId (some userId) nowMs) }.setPhase websocket
            (if roomId ∈ gateway.service.manager.matches_ then
              .ending gateway.service.endings.length notifications
            else .notifying notifications)
      | _ => gateway
  | .cleanupEnds websocket =>
      match gateway.phase websocket with
      | some (.ending ending notifications) =>
          match gateway.service.endings[ending]?.map EndingTask.phase with
          | some .done => gateway.setPhase websocket (.notifying notifications)
          | some .failed => gateway.setPhase websocket .closed
          | _ => gateway
      | _ => gateway
  | .notify websocket =>
      match gateway.phase websocket with
      | some (.notifying (notification :: rest)) =>
          { gateway with
            sent := gateway.sent ++
              [(notification.websocket, Notice.cleanup notification.message)] }.setPhase websocket
            (.notifying rest)
      | some (.notifying []) => gateway.setPhase websocket .closed
      | _ => gateway
  | .matchEnded ending =>
      match gateway.service.endings[ending]? with
      | some ⟨ended, .finishing⟩ =>
          gateway.storeRooms (gateway.rooms.finishRoom ended.room.roomId) ended.room.roomId
      | _ => gateway

theorem isInternal_of_allows {gateway : Gateway} {input : ServiceStep}
    (allowed : gateway.allows input = true) : input.isInternal = true := by
  unfold allows at allowed
  split at allowed
  · rfl
  · exact allowed

/-! ## Looking up loops -/

theorem phase_setPhase {gateway : Gateway} {websocket : ConnectionId} {old : SocketPhase}
    (at_ : gateway.phase websocket = some old) (new : SocketPhase) (other : ConnectionId) :
    (gateway.setPhase websocket new).phase other =
      if websocket = other then some new else gateway.phase other := by
  rw [phase, setPhase, List.getElem?_modify, phase]
  split
  · next same =>
      subst same
      obtain ⟨connection, found, -⟩ := Option.map_eq_some_iff.mp at_
      rw [found]
      rfl
  · exact congrArg _ Option.map_id'

/-- The phase of a loop that is looked at with its user. -/
theorem phase_of_connection {gateway : Gateway} {websocket : ConnectionId}
    {connection : Connection} (found : gateway.connections[websocket]? = some connection) :
    gateway.phase websocket = some connection.phase := by
  rw [phase, found, Option.map_some]

/-- A new connection. -/
theorem phase_connect (gateway : Gateway) (connection : Connection) (other : ConnectionId) :
    { gateway with connections := gateway.connections ++ [connection] }.phase other =
        gateway.phase other ∨
      gateway.phase other = none ∧
        { gateway with connections := gateway.connections ++ [connection] }.phase other =
          some connection.phase := by
  simp only [phase]
  rcases lt_trichotomy other gateway.connections.length with old | new | none
  · exact .inl (by rw [List.getElem?_append_left old])
  · refine .inr ⟨?_, ?_⟩
    · rw [List.getElem?_eq_none new.ge, Option.map_none]
    · rw [new, List.getElem?_concat_length, Option.map_some]
  · refine .inl ?_
    rw [List.getElem?_eq_none none.le, List.getElem?_eq_none]
    rw [List.length_append]
    exact none

/-- Nothing in the gateway knows a room identifier. -/
structure Unknown (gateway : Gateway) (roomId : RoomId) : Prop where
  rooms : roomId ∉ gateway.rooms.rooms
  loops : ∀ connection ∈ gateway.connections, connection.phase.room? ≠ some roomId ∧
    connection.phase.cleans? ≠ some roomId
  starts : ∀ task ∈ gateway.service.starts, task.room.roomId ≠ roomId
  matches_ : roomId ∉ gateway.service.manager.matches_
  endings : ∀ task ∈ gateway.service.endings, task.ended.room.roomId ≠ roomId

/-- The identifier that a room gets is new. -/
def Fresh (gateway : Gateway) : GatewayStep → Prop
  | .createRoom _ _ _ _ roomId _ => gateway.Unknown roomId
  | .matchPlayers _ roomId _ => gateway.Unknown roomId
  | _ => True

instance (gateway : Gateway) (roomId : RoomId) : Decidable (gateway.Unknown roomId) :=
  decidable_of_iff
    (roomId ∉ gateway.rooms.rooms ∧
      (∀ connection ∈ gateway.connections, connection.phase.room? ≠ some roomId ∧
        connection.phase.cleans? ≠ some roomId) ∧
      (∀ task ∈ gateway.service.starts, task.room.roomId ≠ roomId) ∧
      roomId ∉ gateway.service.manager.matches_ ∧
      ∀ task ∈ gateway.service.endings, task.ended.room.roomId ≠ roomId)
    ⟨fun ⟨rooms, loops, starts, matches_, endings⟩ => ⟨rooms, loops, starts, matches_, endings⟩,
      fun ⟨rooms, loops, starts, matches_, endings⟩ => ⟨rooms, loops, starts, matches_, endings⟩⟩

instance (gateway : Gateway) : ∀ input, Decidable (gateway.Fresh input)
  | .createRoom _ _ _ _ roomId _ | .matchPlayers _ roomId _ =>
      inferInstanceAs (Decidable (gateway.Unknown roomId))
  | .connect .. | .joinRoom .. | .joinHiddenRoom .. | .search _ | .findMatch ..
  | .cancelFindMatch _ | .expire _ | .startMatch _ | .service _ | .startEnds _ | .inform _
  | .drop _ | .leaveQueue _ | .removeConnection _ | .cleanupRoom .. | .cleanupEnds _ | .notify _
  | .matchEnded _ => .isTrue trivial

/-! ## A gateway with one shard -/

/-- One shard, and a gateway that has just been started. -/
def oneShard : Gateway := opened { available := [⟨"localhost", 9000⟩] } {}

/-- Both players are connected to the game server, and the match is stored. -/
def matchStarts : List GatewayStep :=
  [.service (.connect 0 {}), .service (.register 0 1000), .service (.send 0 true),
    .service (.send 0 true), .startEnds 1]

end Gateway

end KungFuChess

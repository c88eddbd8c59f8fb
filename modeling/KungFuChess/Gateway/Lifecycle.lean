import KungFuChess.Gateway.Snapshots

/-!
# From the start of a match to its end

The coroutines of `MatchManager` that start and end matches: `start_match`, the
`_finish_match` tasks and `cleanup_room`. They interleave at their awaits, so each
is a task with a phase, and a step takes one task from one await to the next. A
task that is cancelled takes no further step.

`GameRoom` objects are shared with the room manager, which may change them at any
time (`roomChanged`). Ratings are committed by `_persist_rating_update`, whose Elo
formula is floating-point arithmetic and a parameter here.
-/

set_option autoImplicit false

namespace KungFuChess

/-! ## Ratings -/

/-- A row of the table `users`. -/
structure UserRow where
  id : UserId
  username : String
  rating : Int
  deriving DecidableEq, Repr

/-- A row of the table `match_history`. -/
structure MatchHistory where
  roomId : RoomId
  whiteUserId : UserId
  blackUserId : UserId
  whiteUsername : String
  blackUsername : String
  winnerColor : String
  whiteRatingBefore : Int
  whiteRatingAfter : Int
  blackRatingBefore : Int
  blackRatingAfter : Int
  reason : String
  deriving DecidableEq, Repr

/-- What a rating update is about. -/
structure RatingChange where
  winner : ConnectedUser
  loser : ConnectedUser
  winnerColor : String
  reason : String
  deriving DecidableEq, Repr

/-- The tables of the database. Each row of the history is kept with the match it was
committed for. -/
structure RatingStore where
  users : List UserRow := []
  history : List (StartId × MatchHistory) := []

namespace RatingStore

def find (store : RatingStore) (username : String) : Option UserRow :=
  store.users.find? fun row => row.username = username

def setRating (users : List UserRow) (id : UserId) (rating : Int) : List UserRow :=
  users.map fun row => if row.id = id then { row with rating := rating } else row

/-- `_persist_rating_update`; `commits` tells whether the database lets the session commit. -/
def persist (updateRatings : Int → Int → Int × Int) (store : RatingStore) (start : StartId)
    (roomId : RoomId) (change : RatingChange) (commits : Bool) : RatingStore :=
  match store.find change.winner.username, store.find change.loser.username with
  | some winner, some loser =>
      if commits then
        let (newWinner, newLoser) := updateRatings winner.rating loser.rating
        let whiteWins := change.winnerColor = "white"
        let (white, black) := if whiteWins then (winner, loser) else (loser, winner)
        let (whiteAfter, blackAfter) :=
          if whiteWins then (newWinner, newLoser) else (newLoser, newWinner)
        { users := setRating (setRating store.users winner.id newWinner) loser.id newLoser
          history := store.history ++ [(start,
            { roomId := roomId, whiteUserId := white.id, blackUserId := black.id
              whiteUsername := white.username, blackUsername := black.username
              winnerColor := change.winnerColor
              whiteRatingBefore := white.rating, whiteRatingAfter := whiteAfter
              blackRatingBefore := black.rating, blackRatingAfter := blackAfter
              reason := change.reason })] }
      else store
  | _, _ => store

end RatingStore

/-! ## Tasks -/

/-- The exception `start_match` raises. -/
inductive StartError where
  | operation (error : MatchOperationError)
  | other
  deriving DecidableEq, Repr

/-- Where a call of `start_match` is. -/
inductive StartPhase where
  /-- `acquire` waits for the launcher. -/
  | spawning
  /-- The launcher has raised `MatchUnavailableError` or something else. -/
  | spawnFailed (unavailable : Bool)
  | spawned (shard : GameServerShard)
  /-- `bridge.start` connects both players. -/
  | connecting (shard : GameServerShard)
  /-- The match is about to be stored. -/
  | connected (shard : GameServerShard) (snapshot : GameStateSnapshot)
  | sendingWhite (shard : GameServerShard)
  | sendingBlack (shard : GameServerShard)
  | returned
  /-- An exception was caught, and the bridge is being closed. -/
  | closing (shard : GameServerShard)
  /-- `release` waits for the launcher. -/
  | retiring (shard : GameServerShard)
  | retired (shard : GameServerShard)
  | returning (shard : GameServerShard)
  /-- The call has raised; `acquired` is the shard it had. -/
  | raised (acquired : Option GameServerShard) (error : StartError)
  deriving DecidableEq, Repr

structure StartTask where
  room : GameRoom
  phase : StartPhase

/-- Where a `_finish_match` or `cleanup_room` is that has taken a match off the table. -/
inductive EndingPhase where
  /-- The rating update runs in a thread. -/
  | rating (change : RatingChange)
  /-- Messages are sent, and `_finish_match` calls its handler; any of it may raise. -/
  | finishing
  /-- The bridge is being closed. -/
  | closing
  | retiring
  | retired
  | returning
  | done
  | failed
  deriving DecidableEq, Repr

structure EndingTask where
  ended : ActiveMatch
  phase : EndingPhase

/-- The tables and the tasks of `MatchManager`. `releases` lists the calls of
`allocator.release`, each under the call that had acquired the shard. -/
structure MatchService where
  manager : MatchManager := {}
  allocator : ShardPoolAllocator
  hasSessions : Bool := true
  store : RatingStore := {}
  starts : List StartTask := []
  endings : List EndingTask := []
  finishTasks : List RoomId := []
  releases : List StartId := []

inductive ServiceStep where
  | start (room : GameRoom)
  | spawn (start : StartId) (shard : GameServerShard)
  | failSpawn (start : StartId) (unavailable : Bool)
  | acquired (start : StartId)
  | connect (start : StartId) (snapshot : GameStateSnapshot)
  | failConnect (start : StartId)
  | register (start : StartId) (nowMs : Int)
  /-- One of the two `match_ready` messages is sent, or raises. -/
  | send (start : StartId) (sent : Bool)
  | close (start : StartId)
  | stop (start : StartId) (stopped : Bool)
  | raise (start : StartId)
  | bridgeEvent (roomId : RoomId) (color : String) (message : Message)
  | claimSequence (nowMs : Int) (roomId : RoomId) (userId : UserId) (websocket : ConnectionId)
      (sequence : Int) (notAPlayer duplicate : String)
  | roomChanged (room : GameRoom)
  | finish (task : Nat)
  | cleanup (roomId : RoomId) (disconnectedUserId : Option UserId) (nowMs : Int)
  | persist (ending : Nat) (commits : Bool)
  | proceed (ending : Nat) (raises : Bool)
  | closeEnding (ending : Nat)
  | stopEnding (ending : Nat) (stopped : Bool)
  | leave (ending : Nat)

namespace MatchService

/-! ## Sections -/

def startPhase (service : MatchService) (start : StartId) : Option StartPhase :=
  service.starts[start]?.map StartTask.phase

def setStart (service : MatchService) (start : StartId) (phase : StartPhase) : MatchService :=
  { service with
    starts := service.starts.modify start fun task => { task with phase := phase } }

def setEnding (service : MatchService) (ending : Nat) (phase : EndingPhase) : MatchService :=
  { service with
    endings := service.endings.modify ending fun task => { task with phase := phase } }

def matchUnavailable : StartError :=
  .operation ⟨"match_unavailable", "The game server is already hosting a match."⟩

def gameServerUnavailable : StartError :=
  .operation ⟨"game_server_unavailable", "The authoritative game server is unavailable."⟩

/-- The call up to its first await. -/
def beginStart (service : MatchService) (room : GameRoom) : MatchService :=
  let enter (allocator : ShardPoolAllocator) (phase : StartPhase) : MatchService :=
    { service with allocator := allocator, starts := service.starts ++ [⟨room, phase⟩] }
  if room.white = none ∨ room.black = none then
    enter service.allocator
      (.raised none (.operation ⟨"room_not_ready", "The room needs two players."⟩))
  else
    match service.allocator.acquire with
    | (.reserved shard, allocator) => enter allocator (.connecting shard)
    | (.spawn, allocator) => enter allocator .spawning
    | (.unavailable _, allocator) => enter allocator (.raised none matchUnavailable)

/-- The match that a call stores. -/
def startedMatch (room : GameRoom) (start : StartId) (shard : GameServerShard)
    (snapshot : GameStateSnapshot) (nowMs : Int) : ActiveMatch where
  room := room
  start := start
  snapshot := snapshot
  gameStartsAt := nowMs + 3800
  shard := shard

/-- `_apply_rating_update` up to its await. -/
def kingCapture (hasSessions : Bool) (ended : ActiveMatch) : Option RatingChange :=
  if ¬ hasSessions then none
  else
    match MatchManager.winnerColor ended.snapshot, ended.room.white, ended.room.black with
    | some winnerColor, some white, some black =>
        if winnerColor = "white" then some ⟨white, black, winnerColor, "king_capture"⟩
        else some ⟨black, white, winnerColor, "king_capture"⟩
    | _, _, _ => none

/-- `_apply_disconnect_rating_update` up to its await. -/
def disconnection (hasSessions : Bool) (ended : ActiveMatch) (disconnectedUserId : UserId) :
    Option RatingChange :=
  if ¬ hasSessions then none
  else
    match ended.room.white, ended.room.black with
    | some white, some black =>
        if white.userId = disconnectedUserId then some ⟨black, white, "black", "disconnect"⟩
        else if black.userId = disconnectedUserId then some ⟨white, black, "white", "disconnect"⟩
        else none
    | _, _ => none

/-- A phase with a rating update if there is one, and else the next. -/
def rateOr (change : Option RatingChange) (next : EndingPhase) : EndingPhase :=
  change.elim next .rating

/-- `_finish_match` after its first section. -/
def finishPhase (hasSessions : Bool) (ended : ActiveMatch) : EndingPhase :=
  if ended.snapshot.gameOver then rateOr (kingCapture hasSessions ended) .finishing
  else .finishing

/-- `cleanup_room` after its first section. -/
def cleanupPhase (hasSessions : Bool) (ended : ActiveMatch) (disconnectedUserId : Option UserId)
    (nowMs : Int) : EndingPhase :=
  if nowMs < ended.gameStartsAt then .finishing
  else if ended.snapshot.gameOver then rateOr (kingCapture hasSessions ended) .closing
  else rateOr (disconnectedUserId.bind (disconnection hasSessions ended)) .closing

/-- Take a match off the table, to end it. -/
def pop (service : MatchService) (roomId : RoomId) (phase : ActiveMatch → EndingPhase) :
    MatchService :=
  match service.manager.pop roomId with
  | (none, _) => service
  | (some ended, manager) =>
      { service with manager := manager, endings := service.endings ++ [⟨ended, phase ended⟩] }

/-- The first section of `release`, called for a shard that a `start_match` had acquired. -/
def callRelease (service : MatchService) (start : StartId) (shard : GameServerShard) :
    Bool × MatchService :=
  let (isDynamic, allocator) := service.allocator.release shard
  (isDynamic, { service with allocator := allocator, releases := service.releases ++ [start] })

/-- The room of a match is the room manager's own object. -/
def changeRoom (service : MatchService) (room : GameRoom) : MatchService :=
  { service with
    manager :=
      match service.manager.matches_.lookup room.roomId with
      | none => service.manager
      | some found => service.manager.register room.roomId { found with room := room }
    starts := service.starts.map fun task =>
      if task.room.roomId = room.roomId then { task with room := room } else task }

/-! ## Steps -/

variable (updateRatings : Int → Int → Int × Int)

/-- One task goes on; a step of a task that is not at its await does nothing. -/
def step (service : MatchService) : ServiceStep → MatchService
  | .start room => service.beginStart room
  | .spawn start shard =>
      match service.startPhase start with
      | some .spawning => service.setStart start (.spawned shard)
      | _ => service
  | .failSpawn start unavailable =>
      match service.startPhase start with
      | some .spawning => service.setStart start (.spawnFailed unavailable)
      | _ => service
  | .acquired start =>
      match service.startPhase start with
      | some (.spawned shard) =>
          { service.setStart start (.connecting shard) with
            allocator := service.allocator.addDynamic shard }
      | some (.spawnFailed unavailable) =>
          { service.setStart start
              (.raised none (if unavailable then matchUnavailable else .other)) with
            allocator := service.allocator.lowerCount }
      | _ => service
  | .connect start snapshot =>
      match service.startPhase start with
      | some (.connecting shard) => service.setStart start (.connected shard snapshot)
      | _ => service
  | .failConnect start =>
      match service.startPhase start with
      | some (.connecting shard) => service.setStart start (.closing shard)
      | _ => service
  | .register start nowMs =>
      match service.starts[start]? with
      | some ⟨room, .connected shard snapshot⟩ =>
          { service.setStart start (.sendingWhite shard) with
            manager := service.manager.register room.roomId
              (startedMatch room start shard snapshot nowMs) }
      | _ => service
  | .send start sent =>
      match service.startPhase start with
      | some (.sendingWhite shard) =>
          service.setStart start (if sent then .sendingBlack shard else .closing shard)
      | some (.sendingBlack shard) =>
          service.setStart start (if sent then .returned else .closing shard)
      | _ => service
  | .close start =>
      match service.startPhase start with
      | some (.closing shard) =>
          let (isDynamic, released) := service.callRelease start shard
          released.setStart start (if isDynamic then .retiring shard else .returning shard)
      | _ => service
  | .stop start stopped =>
      match service.startPhase start with
      | some (.retiring shard) =>
          service.setStart start (if stopped then .retired shard else .raised (some shard) .other)
      | _ => service
  | .raise start =>
      match service.startPhase start with
      | some (.retired shard) =>
          { service.setStart start (.raised (some shard) gameServerUnavailable) with
            allocator := service.allocator.lowerCount }
      | some (.returning shard) =>
          { service.setStart start (.raised (some shard) gameServerUnavailable) with
            allocator := service.allocator.giveBack shard }
      | _ => service
  | .bridgeEvent roomId color message =>
      let (outcome, manager) := service.manager.handleBridgeEvent roomId color message
      { service with
        manager := manager
        finishTasks := if outcome.finishes then service.finishTasks ++ [roomId]
          else service.finishTasks }
  | .claimSequence nowMs roomId userId websocket sequence notAPlayer duplicate =>
      { service with
        manager := service.manager.step
          (.claimSequence nowMs roomId userId websocket sequence notAPlayer duplicate) }
  | .roomChanged room => service.changeRoom room
  | .finish task =>
      match service.finishTasks[task]? with
      | some roomId =>
          { service with finishTasks := service.finishTasks.eraseIdx task }.pop roomId
            (finishPhase service.hasSessions)
      | none => service
  | .cleanup roomId disconnectedUserId nowMs =>
      service.pop roomId fun ended =>
        cleanupPhase service.hasSessions ended disconnectedUserId nowMs
  | .persist ending commits =>
      match service.endings[ending]? with
      | some ⟨ended, .rating change⟩ =>
          { service.setEnding ending .finishing with
            store := service.store.persist updateRatings ended.start ended.room.roomId change
              commits }
      | _ => service
  | .proceed ending raises =>
      match service.endings[ending]? with
      | some ⟨_, .finishing⟩ => service.setEnding ending (if raises then .failed else .closing)
      | _ => service
  | .closeEnding ending =>
      match service.endings[ending]? with
      | some ⟨ended, .closing⟩ =>
          let (isDynamic, released) := service.callRelease ended.start ended.shard
          released.setEnding ending (if isDynamic then .retiring else .returning)
      | _ => service
  | .stopEnding ending stopped =>
      match service.endings[ending]? with
      | some ⟨_, .retiring⟩ => service.setEnding ending (if stopped then .retired else .failed)
      | _ => service
  | .leave ending =>
      match service.endings[ending]? with
      | some ⟨_, .retired⟩ =>
          { service.setEnding ending .done with allocator := service.allocator.lowerCount }
      | some ⟨ended, .returning⟩ =>
          { service.setEnding ending .done with
            allocator := service.allocator.giveBack ended.shard }
      | _ => service

/-! ## Looking up tasks -/

theorem getElem?_setStart (service : MatchService) (start other : StartId)
    (phase : StartPhase) :
    (service.setStart start phase).starts[other]? =
      if start = other then service.starts[other]?.map fun task => { task with phase := phase }
      else service.starts[other]? := by
  rw [setStart, List.getElem?_modify]
  split
  · rfl
  · exact Option.map_id'

theorem getElem?_setEnding (service : MatchService) (ending other : Nat)
    (phase : EndingPhase) :
    (service.setEnding ending phase).endings[other]? =
      if ending = other then
        service.endings[other]?.map fun task => { task with phase := phase }
      else service.endings[other]? := by
  rw [setEnding, List.getElem?_modify]
  split
  · rfl
  · exact Option.map_id'

theorem startPhase_setStart (service : MatchService) {start : StartId} {old : StartPhase}
    (at_ : service.startPhase start = some old) (new : StartPhase) (other : StartId) :
    (service.setStart start new).startPhase other =
      if start = other then some new else service.startPhase other := by
  rw [startPhase, getElem?_setStart]
  split
  · next same =>
      subst same
      obtain ⟨task, found, -⟩ := Option.map_eq_some_iff.mp at_
      rw [found]
      rfl
  · rfl

end MatchService

end KungFuChess

import KungFuChess.Gateway.Loops

/-!
# Matches that nobody ends

A match is ended by the game server, or by the loop of a player who disconnects:
the room is removed first, and then the match is taken off the table. A loop that
comes before the match is stored finds no match to end, and `start_match` does not
look whether the room still exists. When it stores the match all the same, the match
stays in the table after every handler and task has ended.
-/

set_option autoImplicit false

namespace KungFuChess

namespace StartPhase

/-- Both players are connected, and the match is about to be stored. -/
def isConnected : StartPhase → Bool
  | .connected .. => true
  | _ => false

/-- The call has returned or raised. -/
def isOver : StartPhase → Bool
  | .returned | .raised .. => true
  | _ => false

end StartPhase

def EndingPhase.isOver : EndingPhase → Bool
  | .done | .failed => true
  | _ => false

namespace MatchService

variable {service after : MatchService} {start : StartId} {roomId : RoomId}

/-! ## Calls of `start_match` -/

theorem Serving.open (serving : service.Serving start roomId) : service.Open start roomId :=
  serving.imp fun _ here => ⟨here.1, here.2.1, StartPhase.isRaised_of_isServing here.2.2⟩

/-- A call goes on serving its match if the messages to the players are sent. -/
theorem Onward.serving {input : ServiceStep} (onward : service.Onward input after)
    (sends : ∀ other, input ≠ .send other false) (serving : service.Serving start roomId) :
    after.Serving start roomId := by
  obtain ⟨was, before, room, serves⟩ := serving
  obtain ⟨task, found, same, next⟩ := onward.goes before
  refine ⟨_, found, same ▸ room, ?_⟩
  rcases next with same | next
  · rw [same]
    exact serves
  · generalize task.phase = new at next ⊢
    generalize was.phase = old at next serves
    cases next with
    | sendWhite shard sent =>
        cases sent with
        | true => rfl
        | false => exact absurd rfl (sends start)
    | sendBlack shard sent =>
        cases sent with
        | true => rfl
        | false => exact absurd rfl (sends start)
    | _ => cases serves

theorem Serving.beginStart (serving : service.Serving start roomId) (room : GameRoom) :
    (service.beginStart room).Serving start roomId := by
  obtain ⟨task, entered, -⟩ := service.beginStart_entered room
  obtain ⟨known, found, rest⟩ := serving
  rw [Serving, entered]
  exact ⟨known, (List.getElem?_append_left (List.getElem?_eq_some_iff.mp found).1).trans found,
    rest⟩

end MatchService

/-- The call of `start_match` that a handler waits for. -/
def SocketPhase.start? : SocketPhase → Option StartId
  | .starting start _ _ => some start
  | _ => none

namespace Gateway

/-! ## What a run preserves -/

/-- A room is stored with both of its players. -/
def Seated (gateway : Gateway) (roomId : RoomId) : Prop :=
  ∃ room, gateway.rooms.rooms.lookup roomId = some room ∧ room.white ≠ none ∧ room.black ≠ none

/-- No handler and no task is in progress. -/
structure Quiescent (gateway : Gateway) : Prop where
  loops : ∀ connection ∈ gateway.connections, connection.phase.isIdle = true
  starts : ∀ task ∈ gateway.service.starts, task.phase.isOver = true
  endings : ∀ task ∈ gateway.service.endings, task.phase.isOver = true
  finished : gateway.service.finishTasks = []

/-- **Every match of the table belongs to a room** that is stored with both of its players. -/
def NoLeak (gateway : Gateway) : Prop :=
  ∀ roomId found, gateway.service.manager.matches_.lookup roomId = some found →
    gateway.Seated roomId

/-- What a run needs to leak no match: the messages that tell the players that a match is ready
are sent, and when `start_match` stores a match, its room is stored with both players or is
about to be cleaned up. -/
def InTime (gateway : Gateway) : GatewayStep → Prop
  | .service (.send _ sent) => sent = true
  | .service (.register start _) =>
      ∀ task ∈ gateway.service.starts[start]?, task.phase.isConnected = true →
        gateway.Seated task.room.roomId ∨ ∃ websocket, gateway.Cleans websocket task.room.roomId
  | _ => True

/-- **One handler at a time starts a room**, and each match of the table belongs to a room with
both players, or to one that is about to be cleaned up. -/
structure Kept (gateway : Gateway) : Prop where
  keyed : ∀ roomId room, gateway.rooms.rooms.lookup roomId = some room → room.roomId = roomId
  unique : ∀ first second roomId, gateway.Claims first roomId → gateway.Claims second roomId →
    first = second
  owned : ∀ websocket phase roomId start, gateway.phase websocket = some phase →
    phase.room? = some roomId → gateway.service.Open start roomId → phase.start? = some start
  waiting : ∀ roomId room, gateway.rooms.rooms.lookup roomId = some room →
    room.status = .waiting → gateway.Free roomId
  stored : ∀ roomId found, gateway.service.manager.matches_.lookup roomId = some found →
    gateway.service.Serving found.start roomId
  seated : ∀ roomId found, gateway.service.manager.matches_.lookup roomId = some found →
    gateway.Seated roomId ∨ ∃ websocket, gateway.Cleans websocket roomId

namespace Kept

variable {gateway : Gateway} (kept : gateway.Kept)

include kept

/-- The loops change, and claim nothing new. -/
theorem changeLoops {connections : List Connection}
    (claims : ∀ other phase roomId,
      { gateway with connections := connections }.phase other = some phase →
        phase.room? = some roomId → ∃ was, gateway.phase other = some was ∧
          was.room? = some roomId ∧ phase.start? = was.start?)
    (cleans : ∀ websocket roomId found,
      gateway.service.manager.matches_.lookup roomId = some found →
        gateway.Cleans websocket roomId →
          { gateway with connections := connections }.Cleans websocket roomId) :
    { gateway with connections := connections }.Kept := by
  have claimed : ∀ other roomId, { gateway with connections := connections }.Claims other roomId →
      gateway.Claims other roomId := by
    rintro other roomId ⟨phase, here, own⟩
    obtain ⟨was, before, same, -⟩ := claims other phase roomId here own
    exact ⟨was, before, same⟩
  exact {
    keyed := kept.keyed
    unique := fun first second roomId one two =>
      kept.unique first second roomId (claimed first roomId one) (claimed second roomId two)
    owned := by
      intro other phase roomId start here own open_
      obtain ⟨was, before, same, starts⟩ := claims other phase roomId here own
      rw [starts]
      exact kept.owned other was roomId start before same open_
    waiting := by
      intro roomId room stored waits
      have free := kept.waiting roomId room stored waits
      exact ⟨fun other claim => free.unclaimed other (claimed other roomId claim), free.failed⟩
    stored := kept.stored
    seated := by
      intro roomId found here
      refine (kept.seated roomId found here).imp_right fun ⟨other, own⟩ => ?_
      exact ⟨other, cleans other roomId found here own⟩ }

/-- A loop goes on, and claims nothing new. -/
theorem setPhase {websocket : ConnectionId} {old : SocketPhase}
    (at_ : gateway.phase websocket = some old) (new : SocketPhase)
    (room : new.room? = none ∨ new.room? = old.room? ∧ new.start? = old.start?)
    (cleans : ∀ roomId, old.cleans? = some roomId →
      gateway.service.manager.matches_.lookup roomId = none) :
    (gateway.setPhase websocket new).Kept := by
  refine kept.changeLoops (fun other phase roomId here own => ?_)
    fun other roomId found here own => ?_
  · rcases of_phase_setPhase at_ here with ⟨rfl, rfl⟩ | ⟨-, before⟩
    · rcases room with none | ⟨same, start⟩
      · rw [none] at own
        cases own
      · exact ⟨old, at_, same ▸ own, start⟩
    · exact ⟨phase, before, own, rfl⟩
  · rcases cleans_setPhase at_ new own with still | ⟨-, before⟩
    · exact still
    · rw [cleans roomId before] at here
      cases here

/-- A new connection. -/
theorem connect {connection : Connection} (receiving : connection.phase = .receiving) :
    { gateway with connections := gateway.connections ++ [connection] }.Kept := by
  have added := phase_connect gateway connection
  refine kept.changeLoops (fun other phase roomId here own => ?_)
    fun other roomId found here own => ?_
  · rcases added other with same | ⟨-, new⟩
    · exact ⟨phase, same ▸ here, own, rfl⟩
    · rw [new, receiving, Option.some.injEq] at here
      rw [← here] at own
      cases own
  · obtain ⟨phase, before, cleans⟩ := own
    rcases added other with same | ⟨none, -⟩
    · exact ⟨phase, same ▸ before, cleans⟩
    · rw [none] at before
      cases before

/-- The queue and what is sent are nothing to it. -/
theorem changeQueue (queue : PlayQueue) (sent : List (ConnectionId × Notice)) :
    { gateway with queue := queue, sent := sent }.Kept :=
  { kept with
    waiting := fun roomId room here waits =>
      have free := kept.waiting roomId room here waits
      ⟨free.unclaimed, free.failed⟩ }

/-- The rooms change: a room that waits is free, and a match keeps its players or its loop. -/
theorem changeRooms {rooms : RoomManager}
    (stored : ∀ roomId room, rooms.rooms.lookup roomId = some room → room.roomId = roomId ∧
      (room.status = .waiting →
        (∃ was, gateway.rooms.rooms.lookup roomId = some was ∧ was.status = .waiting) ∨
          gateway.Free roomId))
    (seated : ∀ roomId found,
      gateway.service.manager.matches_.lookup roomId = some found → gateway.Seated roomId →
        { gateway with rooms := rooms }.Seated roomId ∨
          ∃ websocket, gateway.Cleans websocket roomId) :
    { gateway with rooms := rooms }.Kept :=
  { kept with
    keyed := fun roomId room here => (stored roomId room here).1
    waiting := by
      intro roomId room here waits
      rcases (stored roomId room here).2 waits with ⟨was, before, waited⟩ | free
      · have free := kept.waiting roomId was before waited
        exact ⟨free.unclaimed, free.failed⟩
      · exact ⟨free.unclaimed, free.failed⟩
    seated := by
      intro roomId found here
      rcases kept.seated roomId found here with both | cleans
      · exact seated roomId found here both
      · exact .inr cleans }

/-- The tasks of the match manager go on. -/
theorem changeService {service : MatchService}
    (open_ : ∀ start roomId, service.Open start roomId → gateway.service.Open start roomId)
    (stored : ∀ roomId found, service.manager.matches_.lookup roomId = some found →
      service.Serving found.start roomId ∧
        ((∃ was, gateway.service.manager.matches_.lookup roomId = some was) ∨
          gateway.Seated roomId ∨ ∃ websocket, gateway.Cleans websocket roomId)) :
    { gateway with service := service }.Kept :=
  { kept with
    owned := fun websocket phase roomId start here own still =>
      kept.owned websocket phase roomId start here own (open_ start roomId still)
    waiting := by
      intro roomId room here waits
      have free := kept.waiting roomId room here waits
      exact ⟨free.unclaimed, fun start still => free.failed start (open_ start roomId still)⟩
    stored := fun roomId found here => (stored roomId found here).1
    seated := by
      intro roomId found here
      rcases (stored roomId found here).2 with ⟨was, before⟩ | both
      · exact kept.seated roomId was before
      · exact both }

/-- The match manager sees a change of a room. -/
theorem changeRoom (room : GameRoom) :
    { gateway with service := gateway.service.changeRoom room }.Kept := by
  refine kept.changeService (fun start roomId => ?_) fun roomId found here => ?_
  · exact (MatchService.call_changeRoom room (fun phase => phase.isRaised = false)).mp
  · obtain ⟨was, before, start, -⟩ := MatchService.lookup_changeRoom room here
    refine ⟨?_, .inl ⟨was, before⟩⟩
    exact (MatchService.call_changeRoom room (fun phase => phase.isServing = true)).mpr
      (start ▸ kept.stored roomId was before)

/-- A loop gets a room that is free, and no longer waits. -/
theorem claim {websocket : ConnectionId} {old : SocketPhase}
    (at_ : gateway.phase websocket = some old) (cleans : old.cleans? = none) (room : GameRoom)
    (undo : StartUndo) (free : gateway.Free room.roomId)
    (active : ∀ stored, gateway.rooms.rooms.lookup room.roomId = some stored →
      stored.status ≠ .waiting) :
    (gateway.setPhase websocket (.joined room undo)).Kept := by
  have claims : ∀ other roomId,
      (gateway.setPhase websocket (.joined room undo)).Claims other roomId →
        other = websocket ∧ roomId = room.roomId ∨ gateway.Claims other roomId := by
    rintro other roomId ⟨phase, here, own⟩
    rcases of_phase_setPhase at_ here with ⟨same, rfl⟩ | ⟨-, before⟩
    · exact .inl ⟨same, (Option.some.inj own).symm⟩
    · exact .inr ⟨phase, before, own⟩
  exact {
    keyed := kept.keyed
    unique := by
      intro first second roomId one two
      rcases claims first roomId one with ⟨rfl, rfl⟩ | before
      · rcases claims second room.roomId two with ⟨rfl, -⟩ | before
        · rfl
        · exact absurd before (free.unclaimed second)
      · rcases claims second roomId two with ⟨rfl, rfl⟩ | before'
        · exact absurd before (free.unclaimed first)
        · exact kept.unique first second roomId before before'
    owned := by
      intro other phase roomId start here own open_
      rcases of_phase_setPhase at_ here with ⟨-, rfl⟩ | ⟨-, before⟩
      · cases own
        exact absurd open_ (free.failed start)
      · exact kept.owned other phase roomId start before own open_
    waiting := by
      intro roomId stored here waits
      have before := kept.waiting roomId stored here waits
      refine ⟨fun other claim => ?_, before.failed⟩
      rcases claims other roomId claim with ⟨-, rfl⟩ | claimed
      · exact active stored here waits
      · exact before.unclaimed other claimed
    stored := kept.stored
    seated := by
      intro roomId found here
      refine (kept.seated roomId found here).imp_right fun ⟨other, own⟩ => ?_
      rcases cleans_setPhase at_ (.joined room undo) own with still | ⟨-, before⟩
      · exact ⟨other, still⟩
      · rw [cleans] at before
        cases before }

/-- A room is started by the loop that has it. -/
theorem startMatch {websocket : ConnectionId} {room : GameRoom} {undo : StartUndo}
    (at_ : gateway.phase websocket = some (.joined room undo)) :
    ({ gateway with service := gateway.service.beginStart room }.setPhase websocket
      (.starting gateway.service.starts.length room.roomId undo)).Kept := by
  have mine : gateway.Claims websocket room.roomId := ⟨_, at_, rfl⟩
  have claims : ∀ other phase roomId, (gateway.setPhase websocket
      (.starting gateway.service.starts.length room.roomId undo)).phase other = some phase →
        phase.room? = some roomId → gateway.Claims other roomId := by
    intro other phase roomId here own
    rcases of_phase_setPhase at_ here with ⟨rfl, rfl⟩ | ⟨-, before⟩
    · cases own
      exact mine
    · exact ⟨phase, before, own⟩
  obtain ⟨-, -, -, manager, -⟩ := gateway.service.beginStart_entered room
  exact {
    keyed := kept.keyed
    unique := by
      rintro first second roomId ⟨one, here, own⟩ ⟨two, here', own'⟩
      exact kept.unique first second roomId (claims first one roomId here own)
        (claims second two roomId here' own')
    owned := by
      intro other phase roomId start here own open_
      have claimed := claims other phase roomId here own
      rcases MatchService.open_beginStart open_ with earlier | ⟨rfl, rfl⟩
      · rcases of_phase_setPhase at_ here with ⟨rfl, rfl⟩ | ⟨-, before⟩
        · cases own
          have none := kept.owned other _ room.roomId start at_ rfl earlier
          cases none
        · exact kept.owned other phase roomId start before own earlier
      · obtain rfl := kept.unique other websocket room.roomId claimed mine
        rcases of_phase_setPhase at_ here with ⟨-, rfl⟩ | ⟨distinct, -⟩
        · rfl
        · exact absurd rfl distinct
    waiting := by
      intro roomId stored here waits
      have before := kept.waiting roomId stored here waits
      constructor
      · rintro other ⟨phase, here, own⟩
        exact before.unclaimed other (claims other phase roomId here own)
      · intro start open_
        rcases MatchService.open_beginStart open_ with earlier | ⟨-, rfl⟩
        · exact before.failed start earlier
        · exact before.unclaimed websocket mine
    stored := by
      intro roomId found here
      rw [Gateway.setPhase, manager] at here
      exact (kept.stored roomId found here).beginStart room
    seated := by
      intro roomId found here
      rw [Gateway.setPhase, manager] at here
      refine (kept.seated roomId found here).imp_right ?_
      rintro ⟨other, own⟩
      rcases cleans_setPhase at_ (.starting gateway.service.starts.length room.roomId undo) own
        with still | ⟨-, before⟩
      · exact ⟨other, still⟩
      · cases before }

omit kept in
/-- Rooms are stored, of which the match manager has the same object. -/
theorem storeRooms {rooms : RoomManager} (changed : { gateway with rooms := rooms }.Kept)
    (roomId : RoomId) : (gateway.storeRooms rooms roomId).Kept := by
  rw [Gateway.storeRooms]
  split
  · exact changed
  · next room _ => exact changed.changeRoom room

/-- A room that is free gets two players and a loop. -/
theorem enter {websocket : ConnectionId} {old : SocketPhase} {rooms : RoomManager}
    {room : GameRoom} (at_ : gateway.phase websocket = some old) (cleans : old.cleans? = none)
    (undo : StartUndo) (free : gateway.Free room.roomId) (white : room.white ≠ none)
    (black : room.black ≠ none) (active : room.status = .active)
    (inserted : rooms.rooms = gateway.rooms.rooms.insert room.roomId room) :
    (gateway.enter websocket (.ok (room, rooms)) undo).Kept := by
  have changed : { gateway with rooms := rooms }.Kept := by
    refine kept.changeRooms (fun roomId other stored => ?_) fun roomId found here both => ?_
    · rw [inserted, ReverseIndex.lookup_insert] at stored
      split at stored
      · next same =>
          cases stored
          exact ⟨same.symm, fun waits => absurd (active.symm.trans waits) RoomStatus.noConfusion⟩
      · exact ⟨kept.keyed roomId other stored, fun waits => .inl ⟨other, stored, waits⟩⟩
    · refine .inl ?_
      by_cases same : roomId = room.roomId
      · exact ⟨room, by rw [inserted, ReverseIndex.lookup_insert, if_pos same], white, black⟩
      · obtain ⟨other, stored, players⟩ := both
        exact ⟨other, by rw [inserted, ReverseIndex.lookup_insert, if_neg same, stored], players⟩
  refine (storeRooms changed room.roomId).claim at_ cleans room undo ?_ fun stored here => ?_
  · refine ⟨free.unclaimed, fun start open_ => free.failed start ?_⟩
    rw [Gateway.storeRooms] at open_
    split at open_
    · exact open_
    · exact (MatchService.call_changeRoom _ (fun phase => phase.isRaised = false)).mp open_
  · rw [Gateway.storeRooms, inserted, ReverseIndex.lookup_insert, if_pos rfl] at here
    cases here
    rw [active]
    exact RoomStatus.noConfusion

/-- A room is created. -/
theorem createRoom {roomId : RoomId} (unknown : gateway.Unknown roomId) (host : ConnectedUser)
    (name : Option String) (visibility : String) (draws : List String) :
    { gateway with
      rooms := gateway.rooms.step
        (.createRoom host name visibility roomId draws) }.Kept := by
  rcases gateway.rooms.lookup_createRoom host name visibility roomId draws
    with same | ⟨room, own, inserted⟩
  · refine kept.changeRooms (fun other room stored => ?_) fun other found here both => ?_
    · rw [same] at stored
      exact ⟨kept.keyed other room stored, fun waits => .inl ⟨room, stored, waits⟩⟩
    · refine .inl ?_
      rw [Seated, same]
      exact both
  · refine kept.changeRooms (fun other stored here => ?_) fun other found here both => ?_
    · rw [inserted, ReverseIndex.lookup_insert] at here
      split at here
      · next same =>
          cases here
          exact ⟨own.trans same.symm, fun _ => .inr (same ▸ unknown.free)⟩
      · exact ⟨kept.keyed other stored here, fun waits => .inl ⟨stored, here, waits⟩⟩
    · obtain ⟨stored, before, players⟩ := both
      refine .inl ⟨stored, ?_, players⟩
      rw [inserted, ReverseIndex.lookup_insert, if_neg]
      · exact before
      · rintro rfl
        rw [AList.lookup_eq_none.mpr unknown.rooms] at before
        cases before

/-- A room that a loop has tried to start is free after the loop, and has no match. -/
theorem free_of_raised {websocket : ConnectionId} {start : StartId} {roomId : RoomId}
    {undo : StartUndo} {acquired : Option GameServerShard} {error : StartError}
    (at_ : gateway.phase websocket = some (.starting start roomId undo))
    (raised : gateway.service.startPhase start = some (.raised acquired error)) :
    (∀ other, ¬ gateway.service.Open other roomId) ∧
      gateway.service.manager.matches_.lookup roomId = none := by
  have failed : ∀ other, ¬ gateway.service.Open other roomId := by
    intro other open_
    have same := kept.owned websocket _ roomId other at_ rfl open_
    cases same
    obtain ⟨task, found, -, live⟩ := open_
    rw [MatchService.startPhase, found, Option.map_some, Option.some.injEq] at raised
    rw [raised] at live
    cases live
  refine ⟨failed, Option.eq_none_iff_forall_ne_some.mpr fun found here => ?_⟩
  exact failed found.start (kept.stored roomId found here).open

/-- A handler whose start has failed undoes what it did. -/
theorem undoStart {websocket : ConnectionId} {start : StartId} {roomId : RoomId}
    {undo : StartUndo} {acquired : Option GameServerShard} {raisedError : StartError}
    (at_ : gateway.phase websocket = some (.starting start roomId undo))
    (raised : gateway.service.startPhase start = some (.raised acquired raisedError))
    (error : MatchOperationError) : (gateway.undoStart websocket roomId error undo).Kept := by
  obtain ⟨failed, absent⟩ := kept.free_of_raised at_ raised
  cases undo with
  | rollbackJoin guestId =>
      have moved : (gateway.setPhase websocket .receiving).Kept :=
        kept.setPhase at_ .receiving (.inl rfl) (by rintro _ ⟨⟩)
      have keyed := kept.keyed roomId
      have free : (gateway.setPhase websocket .receiving).Free roomId := by
        refine ⟨?_, failed⟩
        rintro other ⟨phase, here, own⟩
        rcases of_phase_setPhase at_ here with ⟨-, rfl⟩ | ⟨distinct, before⟩
        · cases own
        · exact distinct (kept.unique other websocket roomId ⟨phase, before, own⟩ ⟨_, at_, rfl⟩)
      refine storeRooms (moved.changeRooms (fun other room stored => ?_)
        fun other found here both => ?_) roomId
      · rcases RoomManager.lookup_rollbackJoin keyed stored with same | ⟨rfl, own⟩
        · exact ⟨kept.keyed other room same, fun waits => .inl ⟨room, same, waits⟩⟩
        · exact ⟨own, fun _ => .inr free⟩
      · refine .inl ?_
        obtain ⟨was, before, white, black⟩ := both
        have distinct : other ≠ roomId := by
          rintro rfl
          exact Option.some_ne_none found (here.symm.trans absent)
        obtain ⟨room, stored, spectators, rfl⟩ :=
          (RoomManager.rollbackJoin_leaves guestId keyed distinct).kept before
        exact ⟨_, stored, white, black⟩
  | discardRoom opponent =>
      have changed : { gateway with rooms := gateway.rooms.discardRoom roomId }.Kept := by
        refine kept.changeRooms (fun other room stored => ?_) fun other found here both => ?_
        · rw [RoomManager.lookup_discardRoom] at stored
          split at stored
          · cases stored
          · exact ⟨kept.keyed other room stored, fun waits => .inl ⟨room, stored, waits⟩⟩
        · refine .inl ?_
          have distinct : other ≠ roomId := by
            rintro rfl
            exact Option.some_ne_none found (here.symm.trans absent)
          rw [Seated, RoomManager.lookup_discardRoom, if_neg distinct]
          exact both
      exact changed.setPhase at_ (.informing opponent error) (.inl rfl) (by rintro _ ⟨⟩)

/-- A loop removes its user's connection, and the room if the user plays with it. -/
theorem removeConnection {websocket : ConnectionId} (userId : UserId)
    (at_ : gateway.phase websocket = some .removing) :
    ({ gateway with rooms := (gateway.rooms.removeConnection userId websocket).2 }.setPhase
      websocket (.afterRemoval (gateway.rooms.removeConnection userId websocket).1)).Kept := by
  have removal : gateway.rooms.Removal userId websocket _ _ :=
    gateway.rooms.removeConnection_removal userId websocket
  generalize gateway.rooms.removeConnection userId websocket = result at removal ⊢
  obtain ⟨cleanup, rooms⟩ := result
  cases removal with
  | none removed quiet leaves =>
      rw [SocketPhase.afterRemoval, removed]
      have changed : { gateway with rooms := rooms }.Kept := by
        refine kept.changeRooms (fun other room stored => ?_) fun other found here both => ?_
        · obtain ⟨was, before, spectators, rfl⟩ := (leaves other).stored stored
          exact ⟨kept.keyed other was before, fun waits => .inl ⟨was, before, waits⟩⟩
        · obtain ⟨was, before, white, black⟩ := both
          obtain ⟨room, stored, spectators, rfl⟩ := (leaves other).kept before
          exact .inl ⟨_, stored, white, black⟩
      exact changed.setPhase at_ (.notifying cleanup.notifications) (.inl rfl) (by rintro _ ⟨⟩)
  | @some roomId room closed stored alike owns removed notifications gone leaves =>
      rw [SocketPhase.afterRemoval, removed]
      have moved := kept.setPhase at_ (.cleaning room.roomId cleanup.notifications) (.inl rfl)
        (by rintro _ ⟨⟩)
      refine moved.changeRooms (fun other found here => ?_) fun other found here both => ?_
      · have distinct : other ≠ room.roomId := by
          rintro rfl
          rw [gone] at here
          cases here
        obtain ⟨was, before, spectators, rfl⟩ := (leaves other distinct).stored here
        exact ⟨kept.keyed other was before, fun waits => .inl ⟨was, before, waits⟩⟩
      · by_cases same : other = room.roomId
        · refine .inr ⟨websocket, .cleaning room.roomId cleanup.notifications, ?_,
            congrArg _ same.symm⟩
          rw [phase_setPhase at_, if_pos rfl]
        · obtain ⟨was, before, white, black⟩ := both
          obtain ⟨left, kept', spectators, rfl⟩ := (leaves other same).kept before
          exact .inl ⟨_, kept', white, black⟩

/-- A task of the match manager goes on. -/
theorem service (updateRatings : Int → Int → Int × Int) {input : ServiceStep}
    (internal : input.isInternal = true) (inTime : gateway.InTime (.service input)) :
    { gateway with service := gateway.service.step updateRatings input }.Kept := by
  have onward := gateway.service.onward updateRatings internal
  refine kept.changeService (fun start roomId => onward.open) fun roomId found here => ?_
  rcases onward.stored roomId found here with ⟨was, before, start, -⟩ |
    ⟨room, shard, snapshot, nowMs, rfl, -, rfl, before, sending⟩
  · refine ⟨start ▸ onward.serving ?_ (kept.stored roomId was before), .inl ⟨was, before⟩⟩
    rintro other rfl
    exact Bool.false_ne_true inTime
  · refine ⟨⟨_, sending, rfl, rfl⟩, .inr ?_⟩
    exact inTime _ before rfl

/-- A loop cleans up the room it has removed. -/
theorem cleanupRoom (updateRatings : Int → Int → Int × Int) {websocket : ConnectionId}
    {roomId : RoomId} {notifications : List CleanupNotification}
    (at_ : gateway.phase websocket = some (.cleaning roomId notifications))
    (disconnectedUserId : Option UserId) (nowMs : Int) {new : SocketPhase}
    (idle : new.room? = none) :
    ({ gateway with
      service := gateway.service.step updateRatings
        (.cleanup roomId disconnectedUserId nowMs) }.setPhase websocket new).Kept := by
  have popped : { gateway with
      service := gateway.service.step updateRatings
        (.cleanup roomId disconnectedUserId nowMs) }.Kept := by
    refine kept.changeService (fun start other open_ => ?_) fun other found here => ?_
    · rw [MatchService.step, MatchService.Open, MatchService.starts_pop] at open_
      exact open_
    · rw [MatchService.step, MatchService.lookup_pop] at here
      split at here
      · cases here
      · have serving := kept.stored other found here
        rw [MatchService.step, MatchService.Serving, MatchService.starts_pop]
        exact ⟨serving, .inl ⟨found, here⟩⟩
  refine popped.setPhase at_ new (.inl idle) ?_
  rintro _ ⟨⟩
  rw [MatchService.step, MatchService.lookup_pop, if_pos rfl]

/-- A room is finished. -/
theorem finishRoom (roomId : RoomId) :
    (gateway.storeRooms (gateway.rooms.finishRoom roomId) roomId).Kept := by
  refine storeRooms (kept.changeRooms (fun other room stored => ?_)
    fun other found here both => ?_) roomId
  · rw [RoomManager.lookup_finishRoom (kept.keyed roomId)] at stored
    split at stored
    · obtain ⟨was, before, rfl⟩ := Option.map_eq_some_iff.mp stored
      exact ⟨kept.keyed other was before, fun waits => RoomStatus.noConfusion waits⟩
    · exact ⟨kept.keyed other room stored, fun waits => .inl ⟨room, stored, waits⟩⟩
  · obtain ⟨was, before, players⟩ := both
    refine .inl ?_
    rw [Seated, RoomManager.lookup_finishRoom (kept.keyed roomId)]
    split
    · exact ⟨_, congrArg _ before, players⟩
    · exact ⟨was, before, players⟩

/-- A join has found a room, or has failed. -/
theorem join {websocket : ConnectionId} {guest : ConnectedUser}
    {result : Except RoomOperationError (GameRoom × RoomManager)}
    (at_ : gateway.phase websocket = some .receiving) (undo : StartUndo)
    (joins : ∀ joined after, result = .ok (joined, after) →
      gateway.rooms.Joins guest joined after) :
    (gateway.enter websocket result undo).Kept := by
  cases result with
  | error raised => exact kept.setPhase at_ .receiving (.inl rfl) (by rintro _ ⟨⟩)
  | ok found =>
      obtain ⟨joined, after⟩ := found
      have joins := joins joined after rfl
      obtain ⟨roomId, room, stored, waits, same⟩ := joins.waiting
      have free := kept.waiting roomId room stored waits
      rw [← kept.keyed roomId room stored, same] at free
      refine kept.enter at_ rfl undo free ?_ ?_ joins.status joins.rooms
      · rw [joins.white]
        exact Option.some_ne_none _
      · rw [joins.black]
        exact Option.some_ne_none _

theorem step (updateRatings : Int → Int → Int × Int) {input : GatewayStep}
    (fresh : gateway.Fresh input) (inTime : gateway.InTime input) :
    (gateway.step updateRatings input).Kept := by
  cases input with
  | connect userId username => exact kept.connect rfl
  | createRoom websocket rating name visibility roomId draws =>
      simp only [Gateway.step]
      split
      · exact kept.createRoom fresh _ name visibility draws
      · exact kept
  | joinRoom websocket rating roomId =>
      simp only [Gateway.step]
      split
      · next found =>
          exact kept.join (phase_of_connection found) _ fun _ _ => RoomManager.joinPublicRoom_ok
      · exact kept
  | joinHiddenRoom websocket rating normalizedCode =>
      simp only [Gateway.step]
      split
      · next found =>
          exact kept.join (phase_of_connection found) _ fun _ _ => RoomManager.joinHiddenRoom_ok
      · exact kept
  | search websocket =>
      simp only [Gateway.step]
      split
      · next found =>
          split
          · exact kept
          · exact kept.setPhase (phase_of_connection found) .searching (.inl rfl)
              (by rintro _ ⟨⟩)
      · exact kept
  | findMatch websocket rating =>
      simp only [Gateway.step]
      split
      · next found =>
          have at_ := phase_of_connection found
          split
          · next opponent queue _ =>
              have taken := kept.changeQueue queue gateway.sent
              exact taken.setPhase at_ (.paired opponent _) (.inl rfl) (by rintro _ ⟨⟩)
          · next queue _ =>
              have queued := kept.changeQueue queue gateway.sent
              exact queued.setPhase at_ .receiving (.inl rfl) (by rintro _ ⟨⟩)
      · exact kept
  | matchPlayers websocket roomId suffix =>
      simp only [Gateway.step]
      split
      · next opponent user at_ =>
          have unknown : gateway.Unknown roomId := fresh
          cases result : gateway.rooms.matchPlayers opponent user roomId suffix with
          | error raised => exact kept.setPhase at_ .receiving (.inl rfl) (by rintro _ ⟨⟩)
          | ok found =>
              obtain ⟨room, after⟩ := found
              obtain ⟨rfl, isMatch, inserted⟩ := RoomManager.matchPlayers_ok result
              refine kept.enter at_ rfl _ unknown.free ?_ ?_ isMatch.status inserted
              · rw [isMatch.white]
                exact Option.some_ne_none _
              · rw [isMatch.black]
                exact Option.some_ne_none _
      · exact kept
  | cancelFindMatch websocket =>
      simp only [Gateway.step]
      split
      · exact kept.changeQueue _ gateway.sent
      · exact kept
  | expire task => exact kept.changeQueue _ _
  | startMatch websocket =>
      simp only [Gateway.step]
      split
      · next at_ => exact kept.startMatch at_
      · exact kept
  | service input =>
      simp only [Gateway.step]
      split
      · next allowed =>
          have goes := kept.service updateRatings (isInternal_of_allows allowed) inTime
          exact goes.changeQueue gateway.queue _
      · exact kept
  | startEnds websocket =>
      simp only [Gateway.step]
      split
      · next at_ =>
          split
          · exact kept.setPhase at_ .receiving (.inl rfl) (by rintro _ ⟨⟩)
          · next raised => exact kept.undoStart at_ raised _
          · exact kept.setPhase at_ .leaving (.inl rfl) (by rintro _ ⟨⟩)
          · exact kept
      · exact kept
  | inform websocket =>
      simp only [Gateway.step]
      split
      · next opponent error at_ =>
          have told := kept.changeQueue gateway.queue
            (gateway.sent ++ [(opponent.websocket, Notice.error error)])
          exact told.setPhase at_ .receiving (.inl rfl) (by rintro _ ⟨⟩)
      · exact kept
  | drop websocket =>
      simp only [Gateway.step]
      split
      · next at_ => exact kept.setPhase at_ .leaving (.inl rfl) (by rintro _ ⟨⟩)
      · exact kept
  | leaveQueue websocket =>
      simp only [Gateway.step]
      split
      · next userId _ found =>
          have left := kept.changeQueue (gateway.queue.leave userId).2 gateway.sent
          exact left.setPhase (phase_of_connection found) .removing (.inl rfl) (by rintro _ ⟨⟩)
      · exact kept
  | removeConnection websocket =>
      simp only [Gateway.step]
      split
      · next found => exact kept.removeConnection _ (phase_of_connection found)
      · exact kept
  | cleanupRoom websocket nowMs =>
      simp only [Gateway.step]
      split
      · next found =>
          exact kept.cleanupRoom updateRatings (phase_of_connection found) _ nowMs
            (by split <;> rfl)
      · exact kept
  | cleanupEnds websocket =>
      simp only [Gateway.step]
      split
      · next at_ =>
          split
          · exact kept.setPhase at_ _ (.inl rfl) (by rintro _ ⟨⟩)
          · exact kept.setPhase at_ .closed (.inl rfl) (by rintro _ ⟨⟩)
          · exact kept
      · exact kept
  | notify websocket =>
      simp only [Gateway.step]
      split
      · next notification rest at_ =>
          have told := kept.changeQueue gateway.queue
            (gateway.sent ++ [(notification.websocket, Notice.cleanup notification.message)])
          exact told.setPhase at_ (.notifying rest) (.inl rfl) (by rintro _ ⟨⟩)
      · next at_ => exact kept.setPhase at_ .closed (.inl rfl) (by rintro _ ⟨⟩)
      · exact kept
  | matchEnded ending =>
      simp only [Gateway.step]
      split
      · exact kept.finishRoom _
      · exact kept

end Kept

/-- When all is quiet, nobody is about to clean up a room. -/
theorem Kept.noLeak {gateway : Gateway} (kept : gateway.Kept) (quiescent : gateway.Quiescent) :
    gateway.NoLeak := by
  intro roomId found here
  refine (kept.seated roomId found here).resolve_right fun ⟨websocket, phase, at_, own⟩ => ?_
  obtain ⟨connection, member, rfl⟩ := Option.map_eq_some_iff.mp at_
  rw [SocketPhase.cleans?_of_isIdle (quiescent.loops _ (List.mem_of_getElem? member))] at own
  cases own

/-- Before anybody connects nothing is stored. -/
theorem kept_opened (allocator : ShardPoolAllocator) (store : RatingStore) :
    (opened allocator store).Kept where
  keyed := fun _ room none => absurd none (Option.some_ne_none room).symm
  unique := fun _ _ _ ⟨phase, impossible, _⟩ =>
    absurd impossible (Option.some_ne_none phase).symm
  owned := fun _ phase _ _ none => absurd none (Option.some_ne_none phase).symm
  waiting := fun _ room none => absurd none (Option.some_ne_none room).symm
  stored := fun _ found none => absurd none (Option.some_ne_none found).symm
  seated := fun _ found none => absurd none (Option.some_ne_none found).symm

instance (gateway : Gateway) (roomId : RoomId) : Decidable (gateway.Seated roomId) :=
  decidable_of_iff (∃ room ∈ gateway.rooms.rooms.lookup roomId,
    room.white ≠ none ∧ room.black ≠ none) Iff.rfl

instance (gateway : Gateway) (roomId : RoomId) :
    Decidable (∃ websocket, gateway.Cleans websocket roomId) :=
  decidable_of_iff (∃ connection ∈ gateway.connections, connection.phase.cleans? = some roomId)
    (by
      simp only [Cleans, phase, List.mem_iff_getElem?, Option.map_eq_some_iff]
      constructor
      · rintro ⟨connection, ⟨websocket, found⟩, own⟩
        exact ⟨websocket, _, ⟨connection, found, rfl⟩, own⟩
      · rintro ⟨websocket, _, ⟨connection, found, rfl⟩, own⟩
        exact ⟨connection, ⟨websocket, found⟩, own⟩)

instance (gateway : Gateway) : ∀ input, Decidable (gateway.InTime input)
  | .service (.send _ sent) => inferInstanceAs (Decidable (sent = true))
  | .service (.register start _) => inferInstanceAs (Decidable
      (∀ task ∈ gateway.service.starts[start]?, task.phase.isConnected = true →
        gateway.Seated task.room.roomId ∨ ∃ websocket, gateway.Cleans websocket task.room.roomId))
  | .service (.start _) | .service (.spawn ..) | .service (.failSpawn ..)
  | .service (.acquired _) | .service (.connect ..) | .service (.failConnect _)
  | .service (.close _) | .service (.stop ..) | .service (.raise _) | .service (.bridgeEvent ..)
  | .service (.claimSequence ..) | .service (.roomChanged _) | .service (.finish _)
  | .service (.cleanup ..) | .service (.persist ..) | .service (.proceed ..)
  | .service (.closeEnding _) | .service (.stopEnding ..) | .service (.leave _)
  | .connect .. | .createRoom .. | .joinRoom .. | .joinHiddenRoom .. | .search _ | .findMatch ..
  | .matchPlayers .. | .cancelFindMatch _ | .expire _ | .startMatch _ | .startEnds _ | .inform _
  | .drop _ | .leaveQueue _ | .removeConnection _ | .cleanupRoom .. | .cleanupEnds _ | .notify _
  | .matchEnded _ => .isTrue trivial

instance (gateway : Gateway) : Decidable gateway.Quiescent :=
  decidable_of_iff
    ((∀ connection ∈ gateway.connections, connection.phase.isIdle = true) ∧
      (∀ task ∈ gateway.service.starts, task.phase.isOver = true) ∧
      (∀ task ∈ gateway.service.endings, task.phase.isOver = true) ∧
      gateway.service.finishTasks = [])
    ⟨fun ⟨loops, starts, endings, finished⟩ => ⟨loops, starts, endings, finished⟩,
      fun ⟨loops, starts, endings, finished⟩ => ⟨loops, starts, endings, finished⟩⟩

/-- Ann opens a room and Bob joins it. -/
def annHostsBob : List GatewayStep :=
  [.connect 1 "ann", .connect 2 "bob", .createRoom 0 1200 (some "Table") "public" 7 [],
    .joinRoom 1 1200 7, .startMatch 1]

/-- Ann leaves while the game server is being connected: her loop removes the room, finds no
match and ends. -/
def annLeaves : List GatewayStep :=
  [.drop 0, .leaveQueue 0, .removeConnection 0, .cleanupRoom 0 900, .notify 0, .notify 0]

end Gateway

end KungFuChess

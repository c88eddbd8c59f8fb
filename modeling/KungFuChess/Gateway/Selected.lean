import KungFuChess.Gateway.Loops

/-!
# A player who is taken off the queue

A search that finds an opponent takes the player off the play queue, and from then on
the handler of the search alone knows of the player. What the handler holds for the
player is said here (`Minded`), and that the other loops and the tasks of the match
manager leave it alone.
-/

set_option autoImplicit false

namespace KungFuChess

/-- The phases in which a loop knows of a selected player. -/
def SocketPhase.minds : SocketPhase → Bool
  | .paired .. | .joined .. | .starting .. | .informing .. | .cleaning .. | .notifying _ => true
  | _ => false

namespace Gateway

/-! ## Identifiers -/

/-- Rooms and matches are stored under the identifiers of the rooms. -/
structure Keyed (gateway : Gateway) : Prop where
  rooms : gateway.rooms.Keyed
  matches_ : ∀ roomId found, gateway.service.manager.matches_.lookup roomId = some found →
    found.room.roomId = roomId

namespace Keyed

variable {gateway : Gateway} (keyed : gateway.Keyed)

include keyed

theorem storeRooms {rooms : RoomManager} (rooms_ : rooms.Keyed) (roomId : RoomId) :
    (gateway.storeRooms rooms roomId).Keyed := by
  rw [Gateway.storeRooms]
  split
  · exact ⟨rooms_, keyed.matches_⟩
  · next room _ =>
      refine ⟨rooms_, fun other found here => ?_⟩
      obtain ⟨was, before, -, same | own⟩ := MatchService.lookup_changeRoom room here
      · rw [same]
        exact keyed.matches_ other was before
      · exact own

theorem setPhase (websocket : ConnectionId) (phase : SocketPhase) :
    (gateway.setPhase websocket phase).Keyed :=
  ⟨keyed.rooms, keyed.matches_⟩

theorem enter (websocket : ConnectionId) (undo : StartUndo)
    {result : Except RoomOperationError (GameRoom × RoomManager)}
    (rooms_ : ∀ room after, result = .ok (room, after) → after.Keyed) :
    (gateway.enter websocket result undo).Keyed := by
  cases result with
  | error raised => exact keyed.setPhase ..
  | ok found =>
      obtain ⟨room, after⟩ := found
      exact (keyed.storeRooms (rooms_ room after rfl) room.roomId).setPhase ..

theorem joins {rooms : RoomManager} {joined : GameRoom} {guest : ConnectedUser}
    (joins : gateway.rooms.Joins guest joined rooms) : rooms.Keyed :=
  keyed.rooms.insert joins.rooms rfl

theorem undoStart (websocket : ConnectionId) (roomId : RoomId) (error : MatchOperationError)
    (undo : StartUndo) : (gateway.undoStart websocket roomId error undo).Keyed := by
  cases undo with
  | rollbackJoin guestId =>
      exact (keyed.storeRooms (keyed.rooms.rollbackJoin roomId guestId) roomId).setPhase ..
  | discardRoom opponent => exact ⟨keyed.rooms.discardRoom roomId, keyed.matches_⟩

theorem service (updateRatings : Int → Int → Int × Int) {input : ServiceStep}
    (internal : input.isInternal = true) (sent : List (ConnectionId × Notice)) :
    { gateway with
      service := gateway.service.step updateRatings input
      sent := sent }.Keyed := by
  refine ⟨keyed.rooms, fun roomId found here => ?_⟩
  rcases (gateway.service.onward updateRatings internal).stored roomId found here with
    ⟨was, before, -, same⟩ | ⟨room, -, -, -, -, same, own, -⟩
  · rw [← same]
    exact keyed.matches_ roomId was before
  · rw [same]
    exact own

theorem startMatch (room : GameRoom) :
    { gateway with service := gateway.service.beginStart room }.Keyed := by
  obtain ⟨-, -, -, manager, -⟩ := gateway.service.beginStart_entered room
  exact ⟨keyed.rooms, by
    rw [manager]
    exact keyed.matches_⟩

theorem pop (roomId : RoomId) (phase : ActiveMatch → EndingPhase) :
    { gateway with service := gateway.service.pop roomId phase }.Keyed := by
  refine ⟨keyed.rooms, fun other found here => ?_⟩
  rw [MatchService.lookup_pop] at here
  split at here
  · cases here
  · exact keyed.matches_ other found here

theorem step (updateRatings : Int → Int → Int × Int) (input : GatewayStep) :
    (gateway.step updateRatings input).Keyed := by
  cases input with
  | connect userId username => exact { keyed with }
  | createRoom websocket rating name visibility roomId draws =>
      simp only [Gateway.step]
      split
      · exact ⟨keyed.rooms.createRoom _ name visibility roomId draws, keyed.matches_⟩
      · exact keyed
  | joinRoom websocket rating roomId =>
      simp only [Gateway.step]
      split
      · exact keyed.enter _ _ fun _ _ ok => keyed.joins (RoomManager.joinPublicRoom_ok ok)
      · exact keyed
  | joinHiddenRoom websocket rating normalizedCode =>
      simp only [Gateway.step]
      split
      · exact keyed.enter _ _ fun _ _ ok => keyed.joins (RoomManager.joinHiddenRoom_ok ok)
      · exact keyed
  | search websocket =>
      simp only [Gateway.step]
      split
      · split
        · exact keyed
        · exact keyed.setPhase ..
      · exact keyed
  | findMatch websocket rating =>
      simp only [Gateway.step]
      split
      · split
        · exact { keyed with }
        · exact { keyed with }
      · exact keyed
  | matchPlayers websocket roomId suffix =>
      simp only [Gateway.step]
      split
      · refine keyed.enter _ _ fun room after ok => ?_
        obtain ⟨own, -, inserted⟩ := RoomManager.matchPlayers_ok ok
        exact keyed.rooms.insert inserted own
      · exact keyed
  | cancelFindMatch websocket =>
      simp only [Gateway.step]
      split
      · exact { keyed with }
      · exact keyed
  | expire task => exact { keyed with }
  | startMatch websocket =>
      simp only [Gateway.step]
      split
      · exact (keyed.startMatch _).setPhase ..
      · exact keyed
  | service input =>
      simp only [Gateway.step]
      split
      · next allowed => exact keyed.service updateRatings (isInternal_of_allows allowed) _
      · exact keyed
  | startEnds websocket =>
      simp only [Gateway.step]
      split
      · split
        · exact keyed.setPhase ..
        · exact keyed.undoStart ..
        · exact keyed.setPhase ..
        · exact keyed
      · exact keyed
  | inform websocket =>
      simp only [Gateway.step]
      split
      · exact { keyed with }
      · exact keyed
  | drop websocket =>
      simp only [Gateway.step]
      split
      · exact keyed.setPhase ..
      · exact keyed
  | leaveQueue websocket =>
      simp only [Gateway.step]
      split
      · exact { keyed with }
      · exact keyed
  | removeConnection websocket =>
      simp only [Gateway.step]
      split
      · exact ⟨keyed.rooms.removeConnection _ websocket, keyed.matches_⟩
      · exact keyed
  | cleanupRoom websocket nowMs =>
      simp only [Gateway.step]
      split
      · exact (keyed.pop _ _).setPhase ..
      · exact keyed
  | cleanupEnds websocket =>
      simp only [Gateway.step]
      split
      · split
        · exact keyed.setPhase ..
        · exact keyed.setPhase ..
        · exact keyed
      · exact keyed
  | notify websocket =>
      simp only [Gateway.step]
      split
      · exact { keyed with }
      · exact keyed.setPhase ..
      · exact keyed
  | matchEnded ending =>
      simp only [Gateway.step]
      split
      · exact keyed.storeRooms (keyed.rooms.finishRoom _) _
      · exact keyed

end Keyed

/-! ## Where a selected player is -/

section Selected

variable (opponent : ConnectedUser) (websocket : ConnectionId) (since : Nat)

/-- Something was sent to the player since the selection. -/
def Told (gateway : Gateway) : Prop :=
  ∃ entry ∈ gateway.sent.drop since, entry.1 = opponent.websocket

/-- The loop of a web socket has ended. -/
def HasLeft (gateway : Gateway) (websocket : ConnectionId) : Prop :=
  ∃ phase, gateway.phase websocket = some phase ∧ phase.hasLeft = true

/-- The room of the two players is active, and its match is not stored. -/
structure Table (user : ConnectedUser) (gateway : Gateway) (roomId : RoomId) : Prop where
  distinct : user.userId ≠ opponent.userId
  own : user.websocket = websocket
  room : ∃ room, gateway.rooms.rooms.lookup roomId = some room ∧
    RoomManager.IsMatch room opponent user
  absent : gateway.service.manager.matches_.lookup roomId = none
  unended : ∀ task ∈ gateway.service.endings, task.ended.room.roomId ≠ roomId

/-- Someone of these is about to be told. -/
def Notifies (notifications : List CleanupNotification) : Prop :=
  ∃ notification ∈ notifications, notification.websocket = opponent.websocket

/-- The handler knows of the player, and has no room. -/
inductive Alone (gateway : Gateway) : Prop where
  | paired {user : ConnectedUser} (at_ : gateway.phase websocket = some (.paired opponent user))
      (distinct : user.userId ≠ opponent.userId) (own : user.websocket = websocket)
  | informing {error : MatchOperationError}
      (at_ : gateway.phase websocket = some (.informing opponent error))
  | notifying {notifications : List CleanupNotification}
      (at_ : gateway.phase websocket = some (.notifying notifications))
      (notifies : Notifies opponent notifications)

/-- **How far the room of the two has come.** -/
inductive Stage (gateway : Gateway) (roomId : RoomId) : Prop where
  | joined {user : ConnectedUser} {room : GameRoom}
      (at_ : gateway.phase websocket = some (.joined room (.discardRoom opponent)))
      (same : room.roomId = roomId) (isMatch : RoomManager.IsMatch room opponent user)
      (table : Table opponent websocket user gateway roomId)
      (unstarted : ∀ task ∈ gateway.service.starts, task.room.roomId ≠ roomId)
  | starting {user : ConnectedUser} {start : StartId} {task : StartTask}
      (at_ : gateway.phase websocket = some (.starting start roomId (.discardRoom opponent)))
      (found : gateway.service.starts[start]? = some task) (same : task.room.roomId = roomId)
      (white : task.room.white = some opponent)
      (only : ∀ (other : StartId) (task : StartTask),
        gateway.service.starts[other]? = some task → task.room.roomId = roomId → other = start)
      (idle : task.phase.isServing = false)
      (table : Table opponent websocket user gateway roomId)
  | ready {start : StartId} {task : StartTask} {shard : GameServerShard}
      (at_ : gateway.phase websocket = some (.starting start roomId (.discardRoom opponent)))
      (found : gateway.service.starts[start]? = some task) (same : task.room.roomId = roomId)
      (white : task.room.white = some opponent) (sending : task.phase = .sendingWhite shard)
      (held : ∀ room, gateway.rooms.rooms.lookup roomId = some room →
        room.white = some opponent ∧ room.status ≠ .waiting)
  | cleaning {notifications : List CleanupNotification}
      (at_ : gateway.phase websocket = some (.cleaning roomId notifications))
      (notifies : Notifies opponent notifications)
      (gone : gateway.rooms.rooms.lookup roomId = none)
      (absent : gateway.service.manager.matches_.lookup roomId = none)
      (free : gateway.Free roomId)

/-- **A selected player is minded**: told, or gone, or in a room that nobody starts, or known to
the handler. -/
inductive Minded (gateway : Gateway) : Prop where
  | told (told : gateway.Told opponent since)
  | left (left : gateway.HasLeft opponent.websocket)
  | abandoned {user : ConnectedUser} {roomId : RoomId}
      (table : Table opponent websocket user gateway roomId) (free : gateway.Free roomId)
  | alone (alone : Alone opponent websocket gateway)
  | room {roomId : RoomId} (stage : Stage opponent websocket gateway roomId)
      (mine : ∀ other, gateway.Claims other roomId → other = websocket)

end Selected

/-- A room that a handler may come to claim. -/
def Claimable (gateway : Gateway) (roomId : RoomId) : Prop :=
  gateway.Unknown roomId ∨
    ∃ room, gateway.rooms.rooms.lookup roomId = some room ∧ room.status = .waiting

/-! ## What the other loops leave alone -/

/-- A step leaves a handler alone that knows of a selected player, and takes nothing back. -/
structure Aside (websocket : ConnectionId) (before after : Gateway) : Prop where
  phase : ∀ phase, before.phase websocket = some phase → phase.minds = true →
    after.phase websocket = some phase
  left : ∀ other, before.HasLeft other → after.HasLeft other
  sent : before.sent <+: after.sent

/-- A step leaves a room alone, with its starts and its match. -/
structure Spares (before after : Gateway) (roomId : RoomId) : Prop where
  claims : ∀ other, after.Claims other roomId → before.Claims other roomId
  rooms : before.rooms.Leaves after.rooms roomId
  starts : ∀ (start : StartId) (task : StartTask), task.room.roomId = roomId →
    (after.service.starts[start]? = some task ↔ before.service.starts[start]? = some task)
  absent : before.service.manager.matches_.lookup roomId = none →
    after.service.manager.matches_.lookup roomId = none
  unended : before.service.manager.matches_.lookup roomId = none →
    (∀ task ∈ before.service.endings, task.ended.room.roomId ≠ roomId) →
      ∀ task ∈ after.service.endings, task.ended.room.roomId ≠ roomId

section Frames

variable {opponent : ConnectedUser} {websocket : ConnectionId} {since : Nat}
  {before after : Gateway} {roomId : RoomId}

theorem Spares.open (spares : before.Spares after roomId) {start : StartId}
    (open_ : after.service.Open start roomId) : before.service.Open start roomId := by
  obtain ⟨task, found, same, live⟩ := open_
  exact ⟨task, (spares.starts start task same).mp found, same, live⟩

theorem Spares.free (spares : before.Spares after roomId) (free : before.Free roomId) :
    after.Free roomId where
  unclaimed := fun other claims => free.unclaimed other (spares.claims other claims)
  failed := fun start open_ => free.failed start (spares.open open_)

theorem Spares.table {user : ConnectedUser} (spares : before.Spares after roomId)
    (table : Table opponent websocket user before roomId) :
    Table opponent websocket user after roomId where
  distinct := table.distinct
  own := table.own
  room := by
    obtain ⟨room, stored, isMatch⟩ := table.room
    obtain ⟨kept, there, alike⟩ := spares.rooms.kept stored
    exact ⟨kept, there, isMatch.alike alike⟩
  absent := spares.absent table.absent
  unended := spares.unended table.absent table.unended

/-- The room of the two stays where it is while others go on. -/
theorem Spares.stage (aside : Aside websocket before after) (spares : before.Spares after roomId)
    (stage : Stage opponent websocket before roomId) : Stage opponent websocket after roomId := by
  cases stage with
  | joined at_ same isMatch table unstarted =>
      refine .joined (aside.phase _ at_ rfl) same isMatch (spares.table table) ?_
      intro task member own
      obtain ⟨start, found⟩ := List.mem_iff_getElem?.mp member
      have was := (spares.starts start task own).mp found
      exact unstarted task (List.mem_of_getElem? was) own
  | starting at_ found same white only idle table =>
      refine .starting (aside.phase _ at_ rfl) ((spares.starts _ _ same).mpr found) same white ?_
        idle (spares.table table)
      exact fun other task found own => only other task ((spares.starts other task own).mp found)
        own
  | ready at_ found same white sending held =>
      refine .ready (aside.phase _ at_ rfl) ((spares.starts _ _ same).mpr found) same white sending
        ?_
      intro room stored
      obtain ⟨was, there, spectators, rfl⟩ := spares.rooms.stored stored
      exact held was there
  | cleaning at_ notifies gone absent free =>
      refine .cleaning (aside.phase _ at_ rfl) notifies ?_ (spares.absent absent) (spares.free free)
      refine Option.eq_none_iff_forall_ne_some.mpr fun room stored => ?_
      obtain ⟨was, there, -⟩ := spares.rooms.stored stored
      rw [gone] at there
      cases there

/-- A room that has its players is nobody's to claim. -/
theorem Table.not_claimable {user : ConnectedUser}
    (table : Table opponent websocket user before roomId) : ¬ before.Claimable roomId := by
  obtain ⟨room, found, isMatch⟩ := table.room
  rintro (unknown | ⟨waiting, there, waits⟩)
  · rw [AList.lookup_eq_none.mpr unknown.rooms] at found
    cases found
  · rw [found, Option.some.injEq] at there
    rw [← there, isMatch.status] at waits
    cases waits

/-- Neither is a room with a stage. -/
theorem Stage.not_claimable (stage : Stage opponent websocket before roomId) :
    ¬ before.Claimable roomId := by
  cases stage with
  | joined _ _ _ table | starting _ _ _ _ _ _ table => exact table.not_claimable
  | ready at_ _ _ _ _ held =>
      rintro (unknown | ⟨waiting, there, waits⟩)
      · exact unknown.free.unclaimed websocket ⟨_, at_, rfl⟩
      · exact (held waiting there).2 waits
  | cleaning at_ _ gone _ _ =>
      rintro (unknown | ⟨waiting, there, -⟩)
      · obtain ⟨connection, found, same⟩ := Option.map_eq_some_iff.mp at_
        exact (unknown.loops connection (List.mem_of_getElem? found)).2 (same ▸ rfl)
      · rw [gone] at there
        cases there

theorem Told.mono (told : before.Told opponent since) (sent : before.sent <+: after.sent) :
    after.Told opponent since := by
  obtain ⟨entry, member, own⟩ := told
  exact ⟨entry, (sent.drop since).subset member, own⟩

/-- What the handler knows stays when the handler does. -/
theorem Alone.aside (alone : Alone opponent websocket before)
    (aside : Aside websocket before after) : Alone opponent websocket after := by
  cases alone with
  | paired at_ distinct own => exact .paired (aside.phase _ at_ rfl) distinct own
  | informing at_ => exact .informing (aside.phase _ at_ rfl)
  | notifying at_ notifies => exact .notifying (aside.phase _ at_ rfl) notifies

/-- **What others do leaves a selected player minded.** -/
theorem Minded.aside (minded : Minded opponent websocket since before)
    (aside : Aside websocket before after)
    (spares : ∀ roomId, ¬ before.Claimable roomId →
      (∀ other, before.Claims other roomId → other = websocket) → before.Spares after roomId) :
    Minded opponent websocket since after := by
  cases minded with
  | told told => exact .told (told.mono aside.sent)
  | left gone => exact .left (aside.left _ gone)
  | @abandoned user roomId table free =>
      have spares := spares roomId table.not_claimable fun other claims =>
        absurd claims (free.unclaimed other)
      exact .abandoned (spares.table table) (spares.free free)
  | alone alone => exact .alone (alone.aside aside)
  | @room roomId stage mine =>
      have spares := spares roomId stage.not_claimable mine
      exact .room (spares.stage aside stage) fun other claims =>
        mine other (spares.claims other claims)

/-! ### Rules -/

theorem Aside.trans {middle : Gateway} (first : Aside websocket before middle)
    (second : Aside websocket middle after) : Aside websocket before after where
  phase := fun phase at_ minds => second.phase phase (first.phase phase at_ minds) minds
  left := fun other gone => second.left other (first.left other gone)
  sent := first.sent.trans second.sent

/-- The loops stay where they are. -/
theorem Aside.of_connections (same : after.connections = before.connections)
    (sent : before.sent <+: after.sent) : Aside websocket before after where
  phase := fun phase at_ _ => by rw [Gateway.phase, same]; exact at_
  left := fun other ⟨phase, at_, gone⟩ => ⟨phase, by rw [Gateway.phase, same]; exact at_, gone⟩
  sent := sent

/-- A loop that has ended does not come back. -/
theorem HasLeft.setPhase {third : ConnectionId} (gone : before.HasLeft third)
    {other : ConnectionId} {old : SocketPhase} (at_ : before.phase other = some old)
    (new : SocketPhase) (left : old.hasLeft = true → new.hasLeft = true) :
    (before.setPhase other new).HasLeft third := by
  obtain ⟨phase, here, ended⟩ := gone
  rw [HasLeft, phase_setPhase at_]
  split
  · next same =>
      subst same
      rw [at_, Option.some.injEq] at here
      exact ⟨new, rfl, left (here ▸ ended)⟩
  · exact ⟨phase, here, ended⟩

/-- A loop goes on that knows of no selected player, or another one. -/
theorem Aside.setPhase {other : ConnectionId} {old : SocketPhase}
    (at_ : before.phase other = some old) (new : SocketPhase)
    (quiet : other = websocket → old.minds = false)
    (left : old.hasLeft = true → new.hasLeft = true) :
    Aside websocket before (before.setPhase other new) where
  phase := by
    intro phase here minds
    rw [phase_setPhase at_]
    split
    · next same =>
        subst same
        rw [at_, Option.some.injEq] at here
        rw [← here, quiet rfl] at minds
        cases minds
    · exact here
  left := fun _ gone => gone.setPhase at_ new left
  sent := List.prefix_rfl

theorem Spares.trans {middle : Gateway} (first : before.Spares middle roomId)
    (second : middle.Spares after roomId) : before.Spares after roomId where
  claims := fun other claims => first.claims other (second.claims other claims)
  rooms := first.rooms.trans second.rooms
  starts := fun start task own => (second.starts start task own).trans (first.starts start task own)
  absent := fun none => second.absent (first.absent none)
  unended := fun none endings => second.unended (first.absent none) (first.unended none endings)

/-- The loops and the rooms change, and the match manager does not. -/
theorem Spares.of_service (service : after.service = before.service)
    (claims : ∀ other, after.Claims other roomId → before.Claims other roomId)
    (rooms : before.rooms.Leaves after.rooms roomId) : before.Spares after roomId where
  claims := claims
  rooms := rooms
  starts := fun start task _ => by rw [service]
  absent := fun none => by rw [service]; exact none
  unended := fun _ endings => by rw [service]; exact endings

/-- A loop goes on, and does not come to claim the room. -/
theorem Spares.setPhase {other : ConnectionId} {old : SocketPhase}
    (at_ : before.phase other = some old) (new : SocketPhase)
    (claims : new.room? = some roomId → old.room? = some roomId) :
    before.Spares (before.setPhase other new) roomId := by
  refine .of_service rfl ?_ (.of_eq rfl)
  rintro third ⟨phase, here, own⟩
  rcases of_phase_setPhase at_ here with ⟨rfl, rfl⟩ | ⟨-, was⟩
  · exact ⟨old, at_, claims own⟩
  · exact ⟨phase, was, own⟩

/-- A loop goes on after something else has changed. -/
theorem Spares.andSetPhase {middle : Gateway} (first : before.Spares middle roomId)
    (connections : middle.connections = before.connections) {other : ConnectionId}
    {old : SocketPhase} (at_ : before.phase other = some old) (new : SocketPhase)
    (claims : new.room? = some roomId → old.room? = some roomId) :
    before.Spares (middle.setPhase other new) roomId := by
  have there : middle.phase other = some old := by
    rw [Gateway.phase, connections]
    exact at_
  exact first.trans (.setPhase there new claims)

theorem Aside.andSetPhase {middle : Gateway} (first : Aside websocket before middle)
    (connections : middle.connections = before.connections) {other : ConnectionId}
    {old : SocketPhase} (at_ : before.phase other = some old) (new : SocketPhase)
    (quiet : other = websocket → old.minds = false)
    (left : old.hasLeft = true → new.hasLeft = true) :
    Aside websocket before (middle.setPhase other new) := by
  have there : middle.phase other = some old := by
    rw [Gateway.phase, connections]
    exact at_
  exact first.trans (.setPhase there new quiet left)

theorem HasLeft.andSetPhase {middle : Gateway} {third : ConnectionId}
    (gone : before.HasLeft third) (connections : middle.connections = before.connections)
    {other : ConnectionId} {old : SocketPhase} (at_ : before.phase other = some old)
    (new : SocketPhase) (left : old.hasLeft = true → new.hasLeft = true) :
    (middle.setPhase other new).HasLeft third := by
  have there : middle.phase other = some old := by
    rw [Gateway.phase, connections]
    exact at_
  refine HasLeft.setPhase ?_ there new left
  obtain ⟨phase, here, ended⟩ := gone
  refine ⟨phase, ?_, ended⟩
  rw [Gateway.phase, connections]
  exact here

/-- Another room is changed. -/
theorem Spares.storeRooms {rooms : RoomManager} {other : RoomId} (keyed : rooms.Keyed)
    (distinct : roomId ≠ other) (leaves : before.rooms.Leaves rooms roomId) :
    before.Spares (before.storeRooms rooms other) roomId := by
  rw [Gateway.storeRooms]
  split
  · exact .of_service rfl (fun _ claims => claims) leaves
  · next room stored =>
      have named := keyed other room stored
      refine ⟨fun _ claims => claims, leaves, fun start task own => ?_, fun none => ?_,
        fun _ endings => endings⟩
      · simp only [MatchService.changeRoom, List.getElem?_map, Option.map_eq_some_iff]
        constructor
        · rintro ⟨was, found, same⟩
          split at same
          · rw [← same, named] at own
            exact absurd own.symm distinct
          · exact same ▸ found
        · intro found
          refine ⟨task, found, if_neg ?_⟩
          rw [own, named]
          exact distinct
      · refine Option.eq_none_iff_forall_ne_some.mpr fun found here => ?_
        obtain ⟨was, there, -⟩ := MatchService.lookup_changeRoom room here
        rw [none] at there
        cases there

/-- Another room is started. -/
theorem Spares.beginStart {room : GameRoom} (distinct : roomId ≠ room.roomId) :
    before.Spares { before with service := before.service.beginStart room } roomId := by
  obtain ⟨added, entered, own, manager, -, endings, -⟩ := before.service.beginStart_entered room
  refine ⟨fun _ claims => claims, .of_eq rfl, fun start task here => ?_, fun none => ?_,
    fun _ unended => ?_⟩
  · simp only [entered]
    rcases Nat.lt_or_ge start before.service.starts.length with inside | behind
    · rw [List.getElem?_append_left inside]
    · rw [List.getElem?_append_right behind, List.getElem?_eq_none behind,
        List.getElem?_singleton]
      refine iff_of_false (fun found => ?_) (by rintro ⟨⟩)
      split at found
      · cases found
        rw [own] at here
        exact distinct here.symm
      · cases found
  · rw [manager]
    exact none
  · rw [endings]
    exact unended

/-- A match is taken off the table. -/
theorem Spares.pop (keyed : before.Keyed) (other : RoomId) (phase : ActiveMatch → EndingPhase) :
    before.Spares { before with service := before.service.pop other phase } roomId := by
  refine ⟨fun _ claims => claims, .of_eq rfl, fun start task _ => ?_, fun none => ?_,
    fun none endings task member => ?_⟩
  · rw [MatchService.starts_pop]
  · rw [MatchService.lookup_pop]
    split
    · rfl
    · exact none
  · rw [MatchService.pop, MatchManager.pop] at member
    cases here : before.service.manager.matches_.lookup other with
    | none =>
        rw [here] at member
        exact endings task member
    | some ended =>
        rw [here] at member
        rcases List.mem_append.mp member with earlier | last
        · exact endings task earlier
        · rw [List.mem_singleton.mp last, keyed.matches_ other ended here]
          rintro rfl
          rw [none] at here
          cases here

end Frames

/-! ## The match manager goes on -/

/-- A call that serves no match comes to serve it by storing it. -/
theorem idle_next {start : StartId} {input : ServiceStep} {old new : StartPhase}
    (next : StartPhase.Next start input old new) (idle : old.isServing = false) :
    new.isServing = false ∨ ∃ shard, new = .sendingWhite shard := by
  cases next with
  | register shard => exact .inr ⟨shard, rfl⟩
  | sendWhite | sendBlack => cases idle
  | close shard isDynamic => exact .inl (by split <;> rfl)
  | stop shard stopped => exact .inl (by split <;> rfl)
  | spawn | failSpawn | acquired | unspawned | connect | failConnect | retired | returning =>
      exact .inl rfl

/-- Only the message to the player takes a call on that is about to send it. -/
theorem sends_of_next {start : StartId} {input : ServiceStep} {shard : GameServerShard}
    {new : StartPhase} (next : StartPhase.Next start input (.sendingWhite shard) new) :
    ∃ sends, input = .send start sends := by
  cases next with
  | sendWhite _ sends => exact ⟨sends, rfl⟩

section Service

variable {opponent : ConnectedUser} {websocket : ConnectionId} {since : Nat}
  {gateway : Gateway} {roomId : RoomId} {service : MatchService} {input : ServiceStep}
  {sent : List (ConnectionId × Notice)}

/-- The room of the two has no match until its own start stores one. -/
theorem Table.onward {user : ConnectedUser} (table : Table opponent websocket user gateway roomId)
    (keyed : gateway.Keyed) (onward : gateway.service.Onward input service)
    (unregistered : ∀ (start : StartId) room shard snapshot,
      gateway.service.starts[start]? = some ⟨room, .connected shard snapshot⟩ →
        room.roomId = roomId → service.starts[start]? ≠ some ⟨room, .sendingWhite shard⟩) :
    Table opponent websocket user { gateway with service := service, sent := sent } roomId where
  distinct := table.distinct
  own := table.own
  room := table.room
  absent := by
    refine Option.eq_none_iff_forall_ne_some.mpr fun found here => ?_
    rcases onward.stored roomId found here with ⟨was, before, -⟩ |
      ⟨room, shard, snapshot, nowMs, -, -, own, before, after⟩
    · rw [table.absent] at before
      cases before
    · exact unregistered _ room shard snapshot before own after
  unended := by
    intro task member
    rcases onward.ending task member with ⟨was, before, same⟩ | ⟨other, before⟩
    · rw [← same]
      exact table.unended was before
    · rw [keyed.matches_ other _ before]
      rintro rfl
      rw [table.absent] at before
      cases before

/-- A room that is free stays free, and gets no match. -/
theorem Free.onward (free : gateway.Free roomId) (onward : gateway.service.Onward input service) :
    { gateway with service := service, sent := sent }.Free roomId where
  unclaimed := free.unclaimed
  failed := fun start open_ => free.failed start (onward.open open_)

theorem Free.unregistered (free : gateway.Free roomId) {start : StartId} {room : GameRoom}
    {shard : GameServerShard} {snapshot : GameStateSnapshot}
    (before : gateway.service.starts[start]? = some ⟨room, .connected shard snapshot⟩)
    (own : room.roomId = roomId) :
    service.starts[start]? ≠ some ⟨room, .sendingWhite shard⟩ :=
  fun _ => free.failed start ⟨_, before, own, rfl⟩

/-- The message that tells the player that the match is ready. -/
theorem tells_ready {start : StartId} {room : GameRoom} {shard : GameServerShard} {sends : Bool}
    (found : gateway.service.starts[start]? = some ⟨room, .sendingWhite shard⟩)
    (white : room.white = some opponent) :
    (opponent.websocket, Notice.matchReady room.roomId) ∈ gateway.tells (.send start sends) := by
  rw [tells, found]
  simp only [white, Option.toList_some, List.map_cons, List.map_nil, List.mem_singleton]

/-- The room of the two goes on with its start, until the player is told that the match is ready. -/
theorem Stage.onward (stage : Stage opponent websocket gateway roomId) (keyed : gateway.Keyed)
    (early : since ≤ gateway.sent.length) (onward : gateway.service.Onward input service)
    (mine : ∀ other, gateway.Claims other roomId → other = websocket) :
    Minded opponent websocket since
      { gateway with service := service, sent := gateway.sent ++ gateway.tells input } := by
  cases stage with
  | joined at_ same isMatch table unstarted =>
      refine .room (.joined at_ same isMatch (table.onward keyed onward ?_) ?_) mine
      · intro start room shard snapshot before own
        exact absurd own (unstarted _ (List.mem_of_getElem? before))
      · intro task member
        obtain ⟨start, found⟩ := List.mem_iff_getElem?.mp member
        obtain ⟨was, before, room, -⟩ := onward.start start task found
        rw [← room]
        exact unstarted was (List.mem_of_getElem? before)
  | @starting user start task at_ found same white only idle table =>
      obtain ⟨next, here, room, goes⟩ := onward.goes found
      have idleOrReady : next.phase.isServing = false ∨
          ∃ shard, next.phase = .sendingWhite shard := by
        rcases goes with same | next
        · exact .inl (same ▸ idle)
        · exact idle_next next idle
      rcases idleOrReady with idle | ⟨shard, sending⟩
      · refine .room (.starting at_ here (room ▸ same) (room ▸ white) ?_ idle
          (table.onward keyed onward ?_)) mine
        · intro other task found own
          obtain ⟨was, before, room, -⟩ := onward.start other task found
          exact only other was before (room ▸ own)
        · intro other room shard snapshot before own after
          obtain rfl := only other _ before own
          rw [here, Option.some.injEq] at after
          rw [after] at idle
          cases idle
      · refine .room (.ready at_ here (room ▸ same) (room ▸ white) sending ?_) mine
        intro stored there
        obtain ⟨held, kept, isMatch⟩ := table.room
        obtain rfl := Option.some.inj (kept.symm.trans there)
        exact ⟨isMatch.white, by rw [isMatch.status]; exact RoomStatus.noConfusion⟩
  | @ready start task shard at_ found same white sending held =>
      obtain ⟨next, here, room, goes⟩ := onward.goes found
      rcases goes with stays | goes
      · exact .room (.ready at_ here (room ▸ same) (room ▸ white) (stays.trans sending) held) mine
      · obtain ⟨own, phase⟩ := task
        subst sending
        obtain ⟨sends, rfl⟩ := sends_of_next goes
        refine .told ⟨(opponent.websocket, .matchReady own.roomId), ?_, rfl⟩
        rw [List.drop_append_of_le_length early]
        exact List.mem_append_right _ (tells_ready found white)
  | cleaning at_ notifies gone absent free =>
      refine .room (.cleaning at_ notifies gone ?_ (free.onward onward)) mine
      refine Option.eq_none_iff_forall_ne_some.mpr fun found here => ?_
      rcases onward.stored roomId found here with ⟨was, before, -⟩ |
        ⟨room, shard, snapshot, nowMs, -, -, own, before, after⟩
      · rw [absent] at before
        cases before
      · exact free.unregistered before own after

/-- **The tasks of the match manager leave a selected player minded.** -/
theorem Minded.onward (minded : Minded opponent websocket since gateway)
    (keyed : gateway.Keyed) (early : since ≤ gateway.sent.length)
    (onward : gateway.service.Onward input service) :
    Minded opponent websocket since
      { gateway with service := service, sent := gateway.sent ++ gateway.tells input } := by
  have aside : Aside websocket gateway
      { gateway with service := service, sent := gateway.sent ++ gateway.tells input } :=
    .of_connections rfl (List.prefix_append ..)
  cases minded with
  | told told => exact .told (told.mono aside.sent)
  | left gone => exact .left (aside.left _ gone)
  | abandoned table free =>
      exact .abandoned (table.onward keyed onward
        fun _ _ _ _ before own => free.unregistered before own) (free.onward onward)
  | alone alone => exact .alone (alone.aside aside)
  | @room roomId stage mine => exact stage.onward keyed early onward mine

end Service

/-! ## A match ends, and a connection goes -/

section Ends

variable {opponent : ConnectedUser} {websocket : ConnectionId} {since : Nat} {gateway : Gateway}

/-- **The end of a match leaves a selected player minded.** -/
theorem Minded.finishRoom (minded : Minded opponent websocket since gateway)
    (keyed : gateway.Keyed) {ending : EndingTask} (member : ending ∈ gateway.service.endings) :
    Minded opponent websocket since
      (gateway.storeRooms (gateway.rooms.finishRoom ending.ended.room.roomId)
        ending.ended.room.roomId) := by
  generalize same : ending.ended.room.roomId = finished
  have aside : Aside websocket gateway
      (gateway.storeRooms (gateway.rooms.finishRoom finished) finished) :=
    .of_connections rfl List.prefix_rfl
  have found : ∀ roomId, (gateway.rooms.finishRoom finished).rooms.lookup roomId = _ :=
    fun roomId => RoomManager.lookup_finishRoom (keyed.rooms finished)
  have spares : ∀ roomId, roomId ≠ finished → gateway.Spares
      (gateway.storeRooms (gateway.rooms.finishRoom finished) finished) roomId :=
    fun roomId distinct => .storeRooms (keyed.rooms.finishRoom finished) distinct
      (.of_eq (by rw [found, if_neg distinct]))
  have other : ∀ {user : ConnectedUser} {roomId : RoomId},
      Table opponent websocket user gateway roomId → roomId ≠ finished := by
    rintro user roomId table rfl
    exact table.unended ending member same
  cases minded with
  | told told => exact .told (told.mono aside.sent)
  | left gone => exact .left (aside.left _ gone)
  | abandoned table free =>
      have spares := spares _ (other table)
      exact .abandoned (spares.table table) (spares.free free)
  | alone alone => exact .alone (alone.aside aside)
  | @room roomId stage mine =>
      by_cases own : roomId = finished
      · subst own
        cases stage with
        | joined _ _ _ table | starting _ _ _ _ _ _ table => exact absurd rfl (other table)
        | @ready start task shard at_ here named white sending held =>
            cases before : gateway.rooms.rooms.lookup roomId with
            | none =>
                simp only [Gateway.storeRooms, found, if_true, before, Option.map_none]
                refine .room (.ready at_ here named white sending fun room stored => ?_) mine
                simp only [found, if_true, before, Option.map_none, reduceCtorEq] at stored
            | some room =>
                simp only [Gateway.storeRooms, found, if_true, before, Option.map_some]
                -- the call has the room of which the status changes
                have changed : (gateway.service.changeRoom
                    { room with status := .finished }).starts[start]? =
                      some { task with room := { room with status := .finished } } := by
                  rw [MatchService.changeRoom, List.getElem?_map, here, Option.map_some, if_pos]
                  exact named.trans (keyed.rooms roomId room before).symm
                refine .room (.ready at_ changed (keyed.rooms roomId room before)
                  (held room before).1 sending fun stored there => ?_) mine
                simp only [found, if_true, before, Option.map_some, Option.some.injEq] at there
                rw [← there]
                exact ⟨(held room before).1, RoomStatus.noConfusion⟩
        | cleaning at_ notifies gone absent free =>
            simp only [Gateway.storeRooms, found, if_true, gone, Option.map_none]
            refine .room (.cleaning at_ notifies ?_ absent ⟨free.unclaimed, free.failed⟩) mine
            simp only [found, if_true, gone, Option.map_none]
      · have spares := spares roomId own
        exact .room (spares.stage aside stage) fun other claims =>
          mine other (spares.claims other claims)

/-- The connection of one of the two is that of the room. -/
theorem owns_isMatch {room : GameRoom} {user : ConnectedUser} {userId : UserId}
    {connection : ConnectionId} (isMatch : RoomManager.IsMatch room opponent user)
    (owns : RoomManager.ownsConnection room userId connection = true) :
    opponent.websocket = connection ∨ user.userId = userId ∧ user.websocket = connection := by
  simp only [RoomManager.ownsConnection, isMatch.host, isMatch.guest, Option.any_some,
    decide_eq_true_eq] at owns
  exact owns.imp_left And.right

/-- The player is told that the other one is gone. -/
theorem notifies_removal {room : GameRoom} {user : ConnectedUser}
    (isMatch : RoomManager.IsMatch room opponent user) (distinct : user.userId ≠ opponent.userId) :
    Notifies opponent (RoomManager.removalNotifications room user.userId) := by
  have other : room.opponent user.userId = some opponent := by
    simp only [GameRoom.opponent, GameRoom.isUser, isMatch.white, isMatch.black, Option.any_some,
      decide_eq_true_eq]
    rw [if_neg (Ne.symm distinct), if_true]
  rw [RoomManager.removalNotifications, if_neg (fun inactive => inactive isMatch.status), other]
  exact ⟨_, List.mem_append_left _ (List.mem_singleton.mpr rfl), rfl⟩

theorem afterRemoval_hasLeft (cleanup : CleanupResult) :
    (SocketPhase.afterRemoval cleanup).hasLeft = true := by
  rw [SocketPhase.afterRemoval]
  split <;> rfl

theorem afterRemoval_room (cleanup : CleanupResult) :
    (SocketPhase.afterRemoval cleanup).room? = none := by
  rw [SocketPhase.afterRemoval]
  split <;> rfl

/-- **The end of a connection leaves a selected player minded**, or is the player's own. -/
theorem Minded.removeConnection (minded : Minded opponent websocket since gateway)
    (keyed : gateway.Keyed) {other : ConnectionId} {userId : UserId} {cleanup : CleanupResult}
    {rooms : RoomManager} (at_ : gateway.phase other = some .removing)
    (removal : gateway.rooms.Removal userId other cleanup rooms) :
    Minded opponent websocket since
      ({ gateway with rooms := rooms }.setPhase other (.afterRemoval cleanup)) := by
  have there : { gateway with rooms := rooms }.phase other = some .removing := at_
  have aside : Aside websocket gateway
      ({ gateway with rooms := rooms }.setPhase other (.afterRemoval cleanup)) :=
    have same : Aside websocket gateway { gateway with rooms := rooms } :=
      .of_connections rfl List.prefix_rfl
    same.trans (.setPhase there _ (fun _ => rfl) fun _ => afterRemoval_hasLeft cleanup)
  have claims : ∀ third minds, ({ gateway with rooms := rooms }.setPhase other
      (.afterRemoval cleanup)).Claims third minds → gateway.Claims third minds := by
    rintro third minds ⟨phase, here, same⟩
    rcases of_phase_setPhase there here with ⟨-, rfl⟩ | ⟨-, before⟩
    · rw [afterRemoval_room] at same
      cases same
    · exact ⟨phase, before, same⟩
  have spares : ∀ roomId, gateway.rooms.Leaves rooms roomId →
      gateway.Spares ({ gateway with rooms := rooms }.setPhase other (.afterRemoval cleanup))
        roomId :=
    fun roomId leaves => .of_service rfl (fun third => claims third roomId) leaves
  cases removal with
  | none removed quiet leaves => exact minded.aside aside fun roomId _ _ => spares roomId (leaves _)
  | @some roomId room closed stored alike owns removed notifications gone leaves =>
      -- the connection is the player's, or the loop's whose search it was
      have owner : ∀ {user : ConnectedUser} {minds : RoomId},
          Table opponent websocket user gateway minds → minds = room.roomId →
            opponent.websocket = other ∨ websocket = other ∧ user.userId = userId ∧
              RoomManager.IsMatch room opponent user := by
        intro user minds table own
        obtain rfl : minds = roomId := own.trans (keyed.rooms roomId room stored)
        obtain ⟨held, found, isMatch⟩ := table.room
        rw [stored, Option.some.injEq] at found
        rw [← found] at isMatch
        refine (owns_isMatch isMatch owns).imp_right fun ⟨same, connection⟩ => ?_
        exact ⟨table.own.symm.trans connection, same, isMatch⟩
      have left : opponent.websocket = other → Minded opponent websocket since
          ({ gateway with rooms := rooms }.setPhase other (.afterRemoval cleanup)) := by
        intro same
        refine .left ⟨.afterRemoval cleanup, ?_, afterRemoval_hasLeft cleanup⟩
        rw [phase_setPhase there, if_pos same.symm]
      have apart : ∀ {phase : SocketPhase}, gateway.phase websocket = some phase →
          phase.minds = true → websocket ≠ other := by
        rintro phase here minds rfl
        rw [at_, Option.some.injEq] at here
        rw [← here] at minds
        cases minds
      cases minded with
      | told told => exact .told (told.mono aside.sent)
      | left gone => exact .left (aside.left _ gone)
      | @abandoned user minds table free =>
          by_cases own : minds = room.roomId
          · rcases owner table own with same | ⟨rfl, same, isMatch⟩
            · exact left same
            · have cleans : ({ gateway with rooms := rooms }.setPhase websocket
                  (.afterRemoval cleanup)).phase websocket =
                    some (.cleaning minds cleanup.notifications) := by
                rw [phase_setPhase there, if_pos rfl, SocketPhase.afterRemoval, removed, own]
              have notifies : Notifies opponent cleanup.notifications := by
                rw [notifications, ← same]
                exact notifies_removal (isMatch.alike alike) table.distinct
              refine .room (.cleaning cleans notifies (own ▸ gone) table.absent ?_)
                fun third claim => absurd (claims third minds claim) (free.unclaimed third)
              exact ⟨fun third claim => free.unclaimed third (claims third minds claim),
                free.failed⟩
          · have spares := spares minds (leaves minds own)
            exact .abandoned (spares.table table) (spares.free free)
      | alone alone => exact .alone (alone.aside aside)
      | @room minds stage mine =>
          by_cases own : minds = room.roomId
          · cases stage with
            | joined here _ _ table _ =>
                exact (owner table own).elim left fun same => absurd same.1 (apart here rfl)
            | starting here _ _ _ _ _ table =>
                exact (owner table own).elim left fun same => absurd same.1 (apart here rfl)
            | ready here found named white sending held =>
                refine .room (.ready (aside.phase _ here rfl) found named white sending ?_)
                  fun third claim => mine third (claims third minds claim)
                intro kept found
                have none : rooms.rooms.lookup minds = none := own ▸ gone
                rw [Gateway.setPhase, none] at found
                cases found
            | cleaning _ _ none _ _ =>
                rw [own.trans (keyed.rooms roomId room stored), stored] at none
                cases none
          · have spares := spares minds (leaves minds own)
            exact .room (spares.stage aside stage) fun third claim =>
              mine third (claims third minds claim)

end Ends

end Gateway

end KungFuChess

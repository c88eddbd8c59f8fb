import KungFuChess.Gateway.Selected

/-!
# No selected player is lost

The handler of a search asks for a room for the two and starts a match there. When
the match is ready the player is told so, and also when the start fails; and when
the loop ends early, the player is told that the opponent is gone. But when one of
the two has got into another room no room is made, and nobody tells the player, who
is not put back into the queue either.
-/

set_option autoImplicit false

namespace KungFuChess

/-- The two players of a search. -/
def SocketPhase.pair? : SocketPhase → Option (ConnectedUser × ConnectedUser)
  | .paired opponent user => some (opponent, user)
  | _ => none

namespace Gateway

/-- What a run needs to lose nobody: when the handler of a search asks for a room, neither of
the two players is in another one. -/
def PairsUp (gateway : Gateway) : GatewayStep → Prop
  | .matchPlayers websocket _ _ =>
      ∀ pair ∈ (gateway.phase websocket).bind SocketPhase.pair?,
        pair.1.userId ∉ gateway.rooms.playerRoomByUser ∧
          pair.2.userId ∉ gateway.rooms.playerRoomByUser
  | _ => True

/-! ## The handler goes on -/

section Handler

variable {opponent : ConnectedUser} {websocket : ConnectionId} {since : Nat}
  {gateway after : Gateway} {roomId : RoomId} {other : ConnectionId} {old : SocketPhase}

/-- A handler has got a room, which is not this one. -/
theorem Spares.enter {room : GameRoom} {rooms : RoomManager}
    (at_ : gateway.phase other = some old) (keyed : gateway.Keyed) (undo : StartUndo)
    (inserted : rooms.rooms = gateway.rooms.rooms.insert room.roomId room)
    (distinct : roomId ≠ room.roomId) :
    gateway.Spares (gateway.enter other (.ok (room, rooms)) undo) roomId := by
  have stored : gateway.Spares (gateway.storeRooms rooms room.roomId) roomId :=
    .storeRooms (keyed.rooms.insert inserted rfl) distinct
      (.of_eq (by rw [inserted, ReverseIndex.lookup_insert, if_neg distinct]))
  exact stored.andSetPhase rfl at_ _ fun claims => absurd (Option.some.inj claims).symm distinct

/-- A handler starts a room, which is not this one. -/
theorem Spares.startMatch {room : GameRoom} {undo : StartUndo}
    (at_ : gateway.phase other = some (.joined room undo)) (distinct : roomId ≠ room.roomId) :
    gateway.Spares ({ gateway with service := gateway.service.beginStart room }.setPhase other
      (.starting gateway.service.starts.length room.roomId undo)) roomId :=
  have begun : gateway.Spares { gateway with service := gateway.service.beginStart room } roomId :=
    .beginStart distinct
  begun.andSetPhase rfl at_ _ fun claims => claims

/-- A handler undoes a room, which is not this one. -/
theorem Spares.undoStart {start : StartId} {undone : RoomId} {undo : StartUndo}
    (at_ : gateway.phase other = some (.starting start undone undo)) (keyed : gateway.Keyed)
    (error : MatchOperationError) (distinct : roomId ≠ undone) :
    gateway.Spares (gateway.undoStart other undone error undo) roomId := by
  cases undo with
  | rollbackJoin guestId =>
      have stored : gateway.Spares
          (gateway.storeRooms (gateway.rooms.rollbackJoin undone guestId) undone) roomId :=
        .storeRooms (keyed.rooms.rollbackJoin undone guestId) distinct
          (RoomManager.rollbackJoin_leaves guestId (keyed.rooms undone) distinct)
      exact stored.andSetPhase rfl at_ _ (by rintro ⟨⟩)
  | discardRoom discarded =>
      have stored : gateway.Spares
          { gateway with rooms := gateway.rooms.discardRoom undone } roomId :=
        .of_service rfl (fun _ claims => claims)
          (.of_eq (by rw [RoomManager.lookup_discardRoom, if_neg distinct]))
      exact stored.andSetPhase rfl at_ _ (by rintro ⟨⟩)

theorem HasLeft.undoStart {third : ConnectionId} (gone : gateway.HasLeft third)
    {start : StartId} {undone : RoomId} {undo : StartUndo}
    (at_ : gateway.phase other = some (.starting start undone undo))
    (error : MatchOperationError) : (gateway.undoStart other undone error undo).HasLeft third := by
  cases undo with
  | rollbackJoin guestId =>
      exact gone.andSetPhase rfl at_ _ (by rintro ⟨⟩)
  | discardRoom discarded =>
      exact gone.andSetPhase rfl at_ _ (by rintro ⟨⟩)

/-- A player stays minded when the handler of the search goes on, if what the handler knew is
still seen to. -/
theorem Minded.own (minded : Minded opponent websocket since gateway)
    (left : ∀ other, gateway.HasLeft other → after.HasLeft other)
    (sent : gateway.sent <+: after.sent)
    (spares : ∀ roomId, ¬ gateway.Claimable roomId → gateway.Free roomId →
      gateway.Spares after roomId)
    (alone : Alone opponent websocket gateway → Minded opponent websocket since after)
    (rooms : ∀ roomId, Stage opponent websocket gateway roomId →
      (∀ other, gateway.Claims other roomId → other = websocket) →
        Minded opponent websocket since after) : Minded opponent websocket since after := by
  cases minded with
  | told told => exact .told (told.mono sent)
  | left gone => exact .left (left _ gone)
  | @abandoned user roomId table free =>
      have spares := spares roomId table.not_claimable free
      exact .abandoned (spares.table table) (spares.free free)
  | alone known => exact alone known
  | @room roomId stage mine => exact rooms roomId stage mine

/-- The handler has asked for a room for the two. -/
theorem Minded.matchPlayers (minded : Minded opponent websocket since gateway)
    (keyed : gateway.Keyed) {first second : ConnectedUser}
    (at_ : gateway.phase websocket = some (.paired first second)) (unknown : gateway.Unknown roomId)
    (suffix : String) (free : first.userId ∉ gateway.rooms.playerRoomByUser ∧
      second.userId ∉ gateway.rooms.playerRoomByUser) :
    Minded opponent websocket since (gateway.enter websocket
      (gateway.rooms.matchPlayers first second roomId suffix) (.discardRoom first)) := by
  obtain ⟨room, rooms, made⟩ := RoomManager.exists_matchPlayers roomId suffix free
  obtain ⟨rfl, isMatch, inserted⟩ := RoomManager.matchPlayers_ok made
  rw [made]
  have there : (gateway.storeRooms rooms room.roomId).phase websocket =
    some (.paired first second) := at_
  have stored : rooms.rooms.lookup room.roomId = some room := by
    rw [inserted, ReverseIndex.lookup_insert, if_pos rfl]
  refine minded.own (fun third gone => gone.andSetPhase rfl at_ _ (by rintro ⟨⟩)) List.prefix_rfl
    (fun roomId apart _ => .enter at_ keyed _ inserted ?_) (fun alone => ?_)
    fun roomId stage mine => ?_
  · rintro rfl
    exact apart (.inl unknown)
  · cases alone with
    | paired here distinct own =>
        rw [at_, Option.some.injEq] at here
        cases here
        refine .room (.joined ((phase_setPhase there _ _).trans (if_pos rfl)) rfl isMatch
          ⟨distinct, own, ⟨room, stored, isMatch⟩, ?_, ?_⟩ ?_) ?_
        · refine Option.eq_none_iff_forall_ne_some.mpr fun found here => ?_
          simp only [Gateway.enter, Gateway.storeRooms, Gateway.setPhase, stored] at here
          obtain ⟨was, before, -⟩ := MatchService.lookup_changeRoom room here
          rw [AList.lookup_eq_none.mpr unknown.matches_] at before
          cases before
        · simp only [Gateway.enter, Gateway.storeRooms, Gateway.setPhase, stored]
          exact unknown.endings
        · simp only [Gateway.enter, Gateway.storeRooms, Gateway.setPhase, stored]
          intro task member named
          obtain ⟨start, found⟩ := List.mem_iff_getElem?.mp member
          obtain ⟨was, before, same, -⟩ := (MatchService.call_changeRoom room
            (fun _ => True)).mp ⟨task, found, named, trivial⟩
          exact unknown.starts was (List.mem_of_getElem? before) same
        · rintro other ⟨phase, here, claims⟩
          rcases of_phase_setPhase there here with ⟨same, -⟩ | ⟨-, before⟩
          · exact same
          · exact absurd ⟨phase, before, claims⟩ (unknown.free.unclaimed other)
    | informing here | notifying here _ =>
        rw [at_] at here
        cases here
  · cases stage with
    | joined here | starting here | ready here | cleaning here =>
        rw [at_] at here
        cases here

/-- The handler has called `start_match`. -/
theorem Minded.startMatch (minded : Minded opponent websocket since gateway) {room : GameRoom}
    {undo : StartUndo} (at_ : gateway.phase websocket = some (.joined room undo)) :
    Minded opponent websocket since
      ({ gateway with service := gateway.service.beginStart room }.setPhase websocket
        (.starting gateway.service.starts.length room.roomId undo)) := by
  obtain ⟨added, entered, own, manager, -, endings, -, idle, -⟩ :=
    gateway.service.beginStart_entered room
  have there : { gateway with service := gateway.service.beginStart room }.phase websocket =
    some (.joined room undo) := at_
  refine minded.own (fun third gone => gone.andSetPhase rfl at_ _ (by rintro ⟨⟩)) List.prefix_rfl
    (fun roomId _ free => .startMatch at_ ?_) (fun alone => ?_) fun roomId stage mine => ?_
  · rintro rfl
    exact free.unclaimed websocket ⟨_, at_, rfl⟩
  · cases alone with
    | paired here | informing here | notifying here =>
        rw [at_] at here
        cases here
  · cases stage with
    | joined here same isMatch table unstarted =>
        rw [at_, Option.some.injEq] at here
        cases here
        subst same
        have found : (gateway.service.beginStart room).starts[gateway.service.starts.length]? =
            some added := by
          rw [entered, List.getElem?_concat_length]
        refine .room (.starting ((phase_setPhase there _ _).trans (if_pos rfl)) found
          (congrArg _ own) (own ▸ isMatch.white) ?_ idle
          ⟨table.distinct, table.own, table.room, ?_, ?_⟩) ?_
        · intro other task here named
          simp only [Gateway.setPhase, entered] at here
          rcases Nat.lt_or_ge other gateway.service.starts.length with inside | behind
          · rw [List.getElem?_append_left inside] at here
            exact absurd named (unstarted task (List.mem_of_getElem? here))
          · rw [List.getElem?_append_right behind, List.getElem?_singleton] at here
            split at here
            · next first => exact Nat.le_antisymm (Nat.sub_eq_zero_iff_le.mp first) behind
            · cases here
        · simp only [Gateway.setPhase, manager]
          exact table.absent
        · simp only [Gateway.setPhase, endings]
          exact table.unended
        · rintro other ⟨phase, here, claims⟩
          rcases of_phase_setPhase there here with ⟨same, -⟩ | ⟨-, before⟩
          · exact same
          · exact mine other ⟨phase, before, claims⟩
    | starting here | ready here | cleaning here =>
        rw [at_] at here
        cases here

/-- `start_match` has returned: the player was told that the match is ready. -/
theorem Minded.startReturns (minded : Minded opponent websocket since gateway) {start : StartId}
    {undo : StartUndo} (at_ : gateway.phase websocket = some (.starting start roomId undo))
    (returned : gateway.service.startPhase start = some .returned) :
    Minded opponent websocket since (gateway.setPhase websocket .receiving) := by
  refine minded.own (fun third gone => gone.setPhase at_ _ (by rintro ⟨⟩)) List.prefix_rfl
    (fun roomId _ free => .setPhase at_ _ (by rintro ⟨⟩)) (fun alone => ?_)
    fun roomId stage mine => ?_
  · cases alone with
    | paired here | informing here | notifying here =>
        rw [at_] at here
        cases here
  · cases stage with
    | starting here found _ _ _ idle =>
        rw [at_, Option.some.injEq] at here
        cases here
        rw [MatchService.startPhase, found, Option.map_some, Option.some.injEq] at returned
        rw [returned] at idle
        cases idle
    | ready here found _ _ sending =>
        rw [at_, Option.some.injEq] at here
        cases here
        rw [MatchService.startPhase, found, Option.map_some, Option.some.injEq] at returned
        rw [returned] at sending
        cases sending
    | joined here | cleaning here =>
        rw [at_] at here
        cases here

/-- `start_match` has raised, and the handler undoes what it did: it discards the room and is
about to tell the player. -/
theorem Minded.undoStart (minded : Minded opponent websocket since gateway)
    (keyed : gateway.Keyed) {start : StartId} {undo : StartUndo}
    {acquired : Option GameServerShard} {raisedError : StartError}
    (at_ : gateway.phase websocket = some (.starting start roomId undo))
    (raised : gateway.service.startPhase start = some (.raised acquired raisedError))
    (error : MatchOperationError) :
    Minded opponent websocket since (gateway.undoStart websocket roomId error undo) := by
  refine minded.own (fun third gone => gone.undoStart at_ error) ?_
    (fun other _ free => .undoStart at_ keyed error ?_) (fun alone => ?_)
    fun other stage mine => ?_
  · cases undo <;> exact List.prefix_rfl
  · rintro rfl
    exact free.unclaimed websocket ⟨_, at_, rfl⟩
  · cases alone with
    | paired here | informing here | notifying here =>
        rw [at_] at here
        cases here
  · cases stage with
    | starting here =>
        rw [at_, Option.some.injEq] at here
        cases here
        have there : { gateway with rooms := gateway.rooms.discardRoom roomId }.phase websocket =
          some (.starting start roomId (.discardRoom opponent)) := at_
        exact .alone (.informing ((phase_setPhase there _ _).trans (if_pos rfl)))
    | ready here found _ _ sending =>
        rw [at_, Option.some.injEq] at here
        cases here
        rw [MatchService.startPhase, found, Option.map_some, Option.some.injEq] at raised
        rw [raised] at sending
        cases sending
    | joined here | cleaning here =>
        rw [at_] at here
        cases here

/-- `start_match` has raised something else: the loop ends, and leaves the room. -/
theorem Minded.startCrashes (minded : Minded opponent websocket since gateway) {start : StartId}
    {undo : StartUndo} {acquired : Option GameServerShard} {error : StartError}
    (at_ : gateway.phase websocket = some (.starting start roomId undo))
    (raised : gateway.service.startPhase start = some (.raised acquired error)) :
    Minded opponent websocket since (gateway.setPhase websocket .leaving) := by
  refine minded.own (fun third gone => gone.setPhase at_ _ (by rintro ⟨⟩)) List.prefix_rfl
    (fun roomId _ free => .setPhase at_ _ (by rintro ⟨⟩)) (fun alone => ?_)
    fun other stage mine => ?_
  · cases alone with
    | paired here | informing here | notifying here =>
        rw [at_] at here
        cases here
  · cases stage with
    | starting here found same white only idle table =>
        rw [at_, Option.some.injEq] at here
        cases here
        refine .abandoned { table with } ⟨?_, ?_⟩
        · rintro other ⟨phase, here, claims⟩
          rcases of_phase_setPhase at_ here with ⟨-, rfl⟩ | ⟨distinct, before⟩
          · cases claims
          · exact distinct (mine other ⟨phase, before, claims⟩)
        · rintro other ⟨task, here, named, live⟩
          have known : gateway.service.starts[other]? = some task := here
          obtain rfl := only other task known named
          rw [MatchService.startPhase, known, Option.map_some, Option.some.injEq] at raised
          rw [raised] at live
          cases live
    | ready here found _ _ sending =>
        rw [at_, Option.some.injEq] at here
        cases here
        rw [MatchService.startPhase, found, Option.map_some, Option.some.injEq] at raised
        rw [raised] at sending
        cases sending
    | joined here | cleaning here =>
        rw [at_] at here
        cases here

/-- The handler tells the player that the start has failed. -/
theorem Minded.inform (minded : Minded opponent websocket since gateway)
    (early : since ≤ gateway.sent.length) {informed : ConnectedUser} {error : MatchOperationError}
    (at_ : gateway.phase websocket = some (.informing informed error)) :
    Minded opponent websocket since
      ({ gateway with
        sent := gateway.sent ++ [(informed.websocket, Notice.error error)] }.setPhase websocket
          .receiving) := by
  refine minded.own (fun third gone => gone.andSetPhase rfl at_ _ (by rintro ⟨⟩))
    (List.prefix_append ..) (fun roomId _ _ => ?_) (fun alone => ?_) fun roomId stage mine => ?_
  · have said : gateway.Spares { gateway with
        sent := gateway.sent ++ [(informed.websocket, Notice.error error)] } roomId :=
      .of_service rfl (fun _ claims => claims) (.of_eq rfl)
    exact said.andSetPhase rfl at_ _ (by rintro ⟨⟩)
  · cases alone with
    | informing here =>
        rw [at_, Option.some.injEq] at here
        cases here
        refine .told ⟨(opponent.websocket, .error error), ?_, rfl⟩
        rw [Gateway.setPhase, List.drop_append_of_le_length early]
        exact List.mem_append_right _ (List.mem_singleton.mpr rfl)
    | paired here | notifying here =>
        rw [at_] at here
        cases here
  · cases stage with
    | joined here | starting here | ready here | cleaning here =>
        rw [at_] at here
        cases here

/-- The loop cleans up the room, which has no match. -/
theorem Minded.cleanupRoom (minded : Minded opponent websocket since gateway)
    (keyed : gateway.Keyed) {notifications : List CleanupNotification}
    (at_ : gateway.phase websocket = some (.cleaning roomId notifications))
    (phase : ActiveMatch → EndingPhase) :
    Minded opponent websocket since
      ({ gateway with service := gateway.service.pop roomId phase }.setPhase websocket
        (if roomId ∈ gateway.service.manager.matches_ then
          .ending gateway.service.endings.length notifications
        else .notifying notifications)) := by
  refine minded.own (fun third gone => gone.andSetPhase rfl at_ _ fun _ => by split <;> rfl)
    List.prefix_rfl (fun other _ _ => ?_) (fun alone => ?_) fun other stage mine => ?_
  · have popped : gateway.Spares
        { gateway with service := gateway.service.pop roomId phase } other :=
          .pop keyed roomId phase
    refine popped.andSetPhase rfl at_ _ fun claims => ?_
    split at claims <;> cases claims
  · cases alone with
    | paired here | informing here | notifying here =>
        rw [at_] at here
        cases here
  · cases stage with
    | cleaning here notifies gone absent free =>
        rw [at_, Option.some.injEq] at here
        cases here
        have there : { gateway with service := gateway.service.pop roomId phase }.phase websocket =
          some (.cleaning roomId notifications) := at_
        rw [if_neg (AList.lookup_eq_none.mp absent)]
        exact .alone (.notifying ((phase_setPhase there _ _).trans (if_pos rfl)) notifies)
    | joined here | starting here | ready here =>
        rw [at_] at here
        cases here

/-- The loop tells the next one, among them the player. -/
theorem Minded.notify (minded : Minded opponent websocket since gateway)
    (early : since ≤ gateway.sent.length) {notification : CleanupNotification}
    {rest : List CleanupNotification}
    (at_ : gateway.phase websocket = some (.notifying (notification :: rest))) :
    Minded opponent websocket since
      ({ gateway with
        sent := gateway.sent ++
          [(notification.websocket, Notice.cleanup notification.message)] }.setPhase websocket
            (.notifying rest)) := by
  refine minded.own (fun third gone => gone.andSetPhase rfl at_ _ fun _ => rfl)
    (List.prefix_append ..) (fun roomId _ _ => ?_) (fun alone => ?_) fun roomId stage mine => ?_
  · have said : gateway.Spares { gateway with
        sent := gateway.sent ++
          [(notification.websocket, Notice.cleanup notification.message)] } roomId :=
      .of_service rfl (fun _ claims => claims) (.of_eq rfl)
    exact said.andSetPhase rfl at_ _ (by rintro ⟨⟩)
  · cases alone with
    | notifying here notifies =>
        rw [at_, Option.some.injEq] at here
        cases here
        obtain ⟨known, member, own⟩ := notifies
        rcases List.mem_cons.mp member with rfl | later
        · refine .told ⟨(known.websocket, .cleanup known.message), ?_, own⟩
          rw [Gateway.setPhase, List.drop_append_of_le_length early]
          exact List.mem_append_right _ (List.mem_singleton.mpr rfl)
        · have there : { gateway with
              sent := gateway.sent ++
                [(notification.websocket, Notice.cleanup notification.message)] }.phase websocket =
              some (.notifying (notification :: rest)) := at_
          exact .alone (.notifying ((phase_setPhase there _ _).trans (if_pos rfl))
            ⟨known, later, own⟩)
    | paired here | informing here =>
        rw [at_] at here
        cases here
  · cases stage with
    | joined here | starting here | ready here | cleaning here =>
        rw [at_] at here
        cases here

/-! ## Every step -/

/-- A loop goes on that is not the handler's, or that knows of no player. -/
theorem Minded.setPhase (minded : Minded opponent websocket since gateway)
    (at_ : gateway.phase other = some old) (new : SocketPhase)
    (quiet : other = websocket → old.minds = false) (room : new.room? = none)
    (left : old.hasLeft = true → new.hasLeft = true) :
    Minded opponent websocket since (gateway.setPhase other new) := by
  refine minded.aside (.setPhase at_ new quiet left) fun roomId _ _ => .setPhase at_ new ?_
  intro claims
  rw [room] at claims
  cases claims

/-- Such a loop sends something, or changes the queue. -/
theorem Minded.changeQueue (minded : Minded opponent websocket since gateway) (queue : PlayQueue)
    (sent : List (ConnectionId × Notice)) (more : gateway.sent <+: sent) :
    Minded opponent websocket since { gateway with queue := queue, sent := sent } :=
  minded.aside (.of_connections rfl more) fun _ _ _ =>
    .of_service rfl (fun _ claims => claims) (.of_eq rfl)

theorem Minded.connect (minded : Minded opponent websocket since gateway)
    {connection : Connection} (receiving : connection.phase = .receiving) :
    Minded opponent websocket since
      { gateway with connections := gateway.connections ++ [connection] } := by
  have added := phase_connect gateway connection
  have kept : ∀ third phase, gateway.phase third = some phase →
      { gateway with connections := gateway.connections ++ [connection] }.phase third =
        some phase := by
    intro third phase here
    rcases added third with same | ⟨none, -⟩
    · rw [same, here]
    · rw [none] at here
      cases here
  refine minded.aside ⟨fun phase here _ => kept websocket phase here, ?_, List.prefix_rfl⟩
    fun roomId _ _ => .of_service rfl ?_ (.of_eq rfl)
  · exact fun third ⟨phase, here, gone⟩ => ⟨phase, kept third phase here, gone⟩
  · rintro third ⟨phase, here, claims⟩
    rcases added third with same | ⟨-, new⟩
    · exact ⟨phase, same ▸ here, claims⟩
    · rw [new, receiving, Option.some.injEq] at here
      rw [← here] at claims
      cases claims

theorem Minded.createRoom (minded : Minded opponent websocket since gateway)
    (unknown : gateway.Unknown roomId) (host : ConnectedUser) (name : Option String)
    (visibility : String) (draws : List String) :
    Minded opponent websocket since
      { gateway with
        rooms := gateway.rooms.step (.createRoom host name visibility roomId draws) } := by
  refine minded.aside (.of_connections rfl List.prefix_rfl) fun other apart _ =>
    .of_service rfl (fun _ claims => claims) (.of_eq ?_)
  rcases gateway.rooms.lookup_createRoom host name visibility roomId draws with
    same | ⟨room, -, inserted⟩
  · rw [same]
  · rw [inserted, ReverseIndex.lookup_insert, if_neg]
    rintro rfl
    exact apart (.inl unknown)

/-- A handler gets a room that was waiting or is new. -/
theorem Minded.enter (minded : Minded opponent websocket since gateway) (keyed : gateway.Keyed)
    (at_ : gateway.phase other = some old) (quiet : other = websocket → old.minds = false)
    (there : old.hasLeft = false) {result : Except RoomOperationError (GameRoom × RoomManager)}
    (undo : StartUndo)
    (claimable : ∀ room rooms, result = .ok (room, rooms) → gateway.Claimable room.roomId ∧
      rooms.rooms = gateway.rooms.rooms.insert room.roomId room) :
    Minded opponent websocket since (gateway.enter other result undo) := by
  have stays : old.hasLeft = true → ∀ new : SocketPhase, new.hasLeft = true := fun ended => by
    rw [there] at ended
    cases ended
  cases result with
  | error raised => exact minded.setPhase at_ .receiving quiet rfl fun ended => stays ended _
  | ok found =>
      obtain ⟨room, rooms⟩ := found
      obtain ⟨free, inserted⟩ := claimable room rooms rfl
      have stored : Aside websocket gateway (gateway.storeRooms rooms room.roomId) :=
        .of_connections rfl List.prefix_rfl
      refine minded.aside (stored.andSetPhase rfl at_ _ quiet fun ended => stays ended _)
        fun roomId apart _ => .enter at_ keyed undo inserted ?_
      rintro rfl
      exact apart free

/-- A join makes a waiting room active. -/
theorem claimable_of_joins (keyed : gateway.Keyed) {guest : ConnectedUser} {joined : GameRoom}
    {rooms : RoomManager} (joins : gateway.rooms.Joins guest joined rooms) :
    gateway.Claimable joined.roomId ∧
      rooms.rooms = gateway.rooms.rooms.insert joined.roomId joined := by
  obtain ⟨roomId, room, stored, waits, same⟩ := joins.waiting
  rw [← same, keyed.rooms roomId room stored]
  refine ⟨.inr ⟨room, stored, waits⟩, ?_⟩
  rw [joins.rooms, ← same, keyed.rooms roomId room stored]

theorem Minded.join (minded : Minded opponent websocket since gateway) (keyed : gateway.Keyed)
    (at_ : gateway.phase other = some .receiving) {guest : ConnectedUser}
    {result : Except RoomOperationError (GameRoom × RoomManager)} (undo : StartUndo)
    (joins : ∀ joined rooms, result = .ok (joined, rooms) →
      gateway.rooms.Joins guest joined rooms) :
    Minded opponent websocket since (gateway.enter other result undo) :=
  minded.enter keyed at_ (fun _ => rfl) rfl undo fun joined rooms ok =>
    claimable_of_joins keyed (joins joined rooms ok)

/-- A loop has told everyone it was to tell. -/
theorem Minded.notified (minded : Minded opponent websocket since gateway)
    (at_ : gateway.phase other = some (.notifying [])) :
    Minded opponent websocket since (gateway.setPhase other .closed) := by
  by_cases own : other = websocket
  · subst own
    refine minded.own (fun third gone => gone.setPhase at_ _ fun _ => rfl) List.prefix_rfl
      (fun roomId _ free => .setPhase at_ _ (by rintro ⟨⟩)) (fun alone => ?_)
      fun roomId stage mine => ?_
    · cases alone with
      | notifying here notifies =>
          rw [at_, Option.some.injEq] at here
          cases here
          obtain ⟨known, member, -⟩ := notifies
          cases member
      | paired here | informing here =>
          rw [at_] at here
          cases here
    · cases stage with
      | joined here | starting here | ready here | cleaning here =>
          rw [at_] at here
          cases here
  · exact minded.setPhase at_ .closed (fun same => absurd same own) rfl fun _ => rfl

/-- A loop of another search, or of a join. -/
theorem Minded.startEnds (minded : Minded opponent websocket since gateway)
    (keyed : gateway.Keyed) {start : StartId} {undo : StartUndo}
    (at_ : gateway.phase other = some (.starting start roomId undo)) (distinct : other ≠ websocket)
    (error : MatchOperationError) :
    Minded opponent websocket since (gateway.undoStart other roomId error undo) := by
  refine minded.aside ?_ fun minds _ mine => .undoStart at_ keyed error ?_
  · have quiet : other = websocket →
      (SocketPhase.starting start roomId undo).minds = false := fun same => absurd same distinct
    cases undo with
    | rollbackJoin guestId =>
        have stored : Aside websocket gateway
            (gateway.storeRooms (gateway.rooms.rollbackJoin roomId guestId) roomId) :=
          .of_connections rfl List.prefix_rfl
        exact stored.andSetPhase rfl at_ _ quiet (by rintro ⟨⟩)
    | discardRoom discarded =>
        have stored : Aside websocket gateway
            { gateway with rooms := gateway.rooms.discardRoom roomId } :=
          .of_connections rfl List.prefix_rfl
        exact stored.andSetPhase rfl at_ _ quiet (by rintro ⟨⟩)
  · rintro rfl
    exact distinct (mine other ⟨_, at_, rfl⟩)

theorem Minded.step (updateRatings : Int → Int → Int × Int)
    (minded : Minded opponent websocket since gateway) (keyed : gateway.Keyed)
    (early : since ≤ gateway.sent.length) {input : GatewayStep} (fresh : gateway.Fresh input)
    (pairsUp : gateway.PairsUp input) :
    Minded opponent websocket since (gateway.step updateRatings input) := by
  cases input with
  | connect userId username => exact minded.connect rfl
  | createRoom other rating name visibility roomId draws =>
      simp only [Gateway.step]
      split
      · exact minded.createRoom fresh _ name visibility draws
      · exact minded
  | joinRoom other rating roomId =>
      simp only [Gateway.step]
      split
      · next found =>
          exact minded.join keyed (phase_of_connection found) _
            fun _ _ => RoomManager.joinPublicRoom_ok
      · exact minded
  | joinHiddenRoom other rating normalizedCode =>
      simp only [Gateway.step]
      split
      · next found =>
          exact minded.join keyed (phase_of_connection found) _
            fun _ _ => RoomManager.joinHiddenRoom_ok
      · exact minded
  | search other =>
      simp only [Gateway.step]
      split
      · next found =>
          split
          · exact minded
          · exact minded.setPhase (phase_of_connection found) .searching (fun _ => rfl) rfl
              (by rintro ⟨⟩)
      · exact minded
  | findMatch other rating =>
      simp only [Gateway.step]
      split
      · next found =>
          have at_ := phase_of_connection found
          split
          · next queue _ =>
              have taken := minded.changeQueue queue gateway.sent List.prefix_rfl
              exact taken.setPhase at_ _ (fun _ => rfl) rfl (by rintro ⟨⟩)
          · next queue _ =>
              have queued := minded.changeQueue queue gateway.sent List.prefix_rfl
              exact queued.setPhase at_ .receiving (fun _ => rfl) rfl (by rintro ⟨⟩)
      · exact minded
  | matchPlayers other roomId suffix =>
      simp only [Gateway.step]
      split
      · next first second at_ =>
          have unknown : gateway.Unknown roomId := fresh
          by_cases own : other = websocket
          · subst own
            refine minded.matchPlayers keyed at_ unknown suffix (pairsUp (first, second) ?_)
            rw [at_]
            rfl
          · refine minded.enter keyed at_ (fun same => absurd same own) rfl _ fun room rooms ok =>
              ?_
            obtain ⟨rfl, -, inserted⟩ := RoomManager.matchPlayers_ok ok
            exact ⟨.inl unknown, inserted⟩
      · exact minded
  | cancelFindMatch other =>
      simp only [Gateway.step]
      split
      · exact minded.changeQueue _ gateway.sent List.prefix_rfl
      · exact minded
  | expire task => exact minded.changeQueue _ _ (List.prefix_append ..)
  | startMatch other =>
      simp only [Gateway.step]
      split
      · next room undo at_ =>
          by_cases own : other = websocket
          · subst own
            exact minded.startMatch at_
          · have begun : Aside websocket gateway
                { gateway with service := gateway.service.beginStart room } :=
              .of_connections rfl List.prefix_rfl
            refine minded.aside (begun.andSetPhase rfl at_ _ (fun same => absurd same own)
              (by rintro ⟨⟩)) fun roomId _ mine => .startMatch at_ ?_
            rintro rfl
            exact own (mine other ⟨_, at_, rfl⟩)
      · exact minded
  | service input =>
      simp only [Gateway.step]
      split
      · next allowed =>
          exact minded.onward keyed early
            (gateway.service.onward updateRatings (isInternal_of_allows allowed))
      · exact minded
  | startEnds other =>
      simp only [Gateway.step]
      split
      · next start roomId undo at_ =>
          by_cases own : other = websocket
          · subst own
            split
            · next returned => exact minded.startReturns at_ returned
            · next raised => exact minded.undoStart keyed at_ raised _
            · next raised => exact minded.startCrashes at_ raised
            · exact minded
          · have quiet : other = websocket →
              (SocketPhase.starting start roomId undo).minds = false := fun same => absurd same own
            split
            · exact minded.setPhase at_ .receiving quiet rfl (by rintro ⟨⟩)
            · exact minded.startEnds keyed at_ own _
            · exact minded.setPhase at_ .leaving quiet rfl (by rintro ⟨⟩)
            · exact minded
      · exact minded
  | inform other =>
      simp only [Gateway.step]
      split
      · next informed error at_ =>
          by_cases own : other = websocket
          · subst own
            exact minded.inform early at_
          · have said := minded.changeQueue gateway.queue _ (List.prefix_append gateway.sent
              [(informed.websocket, Notice.error error)])
            exact said.setPhase at_ .receiving (fun same => absurd same own) rfl (by rintro ⟨⟩)
      · exact minded
  | drop other =>
      simp only [Gateway.step]
      split
      · next at_ => exact minded.setPhase at_ .leaving (fun _ => rfl) rfl (by rintro ⟨⟩)
      · exact minded
  | leaveQueue other =>
      simp only [Gateway.step]
      split
      · next userId _ found =>
          have left := minded.changeQueue (gateway.queue.leave userId).2 gateway.sent
            List.prefix_rfl
          exact left.setPhase (phase_of_connection found) .removing (fun _ => rfl) rfl fun _ => rfl
      · exact minded
  | removeConnection other =>
      simp only [Gateway.step]
      split
      · next userId _ found =>
          exact minded.removeConnection keyed (phase_of_connection found)
            (gateway.rooms.removeConnection_removal userId other)
      · exact minded
  | cleanupRoom other nowMs =>
      simp only [Gateway.step]
      split
      · next userId _ roomId notifications found =>
          have at_ := phase_of_connection found
          by_cases own : other = websocket
          · subst own
            exact minded.cleanupRoom keyed at_ _
          · have popped : Aside websocket gateway
                { gateway with
                  service := gateway.service.step updateRatings
                    (.cleanup roomId (some userId) nowMs) } :=
              .of_connections rfl List.prefix_rfl
            refine minded.aside (popped.andSetPhase rfl at_ _ (fun same => absurd same own)
              fun _ => by split <;> rfl) fun minds _ _ => ?_
            refine Spares.andSetPhase (.pop keyed roomId _) rfl at_ _ fun claims => ?_
            split at claims <;> cases claims
      · exact minded
  | cleanupEnds other =>
      simp only [Gateway.step]
      split
      · next at_ =>
          split
          · exact minded.setPhase at_ _ (fun _ => rfl) rfl fun _ => rfl
          · exact minded.setPhase at_ .closed (fun _ => rfl) rfl fun _ => rfl
          · exact minded
      · exact minded
  | notify other =>
      simp only [Gateway.step]
      split
      · next notification rest at_ =>
          by_cases own : other = websocket
          · subst own
            exact minded.notify early at_
          · have said := minded.changeQueue gateway.queue _ (List.prefix_append gateway.sent
              [(notification.websocket, Notice.cleanup notification.message)])
            exact said.setPhase at_ (.notifying rest) (fun same => absurd same own) rfl fun _ => rfl
      · next at_ => exact minded.notified at_
      · exact minded
  | matchEnded ending =>
      simp only [Gateway.step]
      split
      · next found => exact minded.finishRoom keyed (List.mem_of_getElem? found)
      · exact minded

end Handler

/-! ## Nothing is taken back -/

section Sent

variable (updateRatings : Int → Int → Int × Int) (gateway : Gateway)

theorem sent_enter (websocket : ConnectionId)
    (result : Except RoomOperationError (GameRoom × RoomManager)) (undo : StartUndo) :
    (gateway.enter websocket result undo).sent = gateway.sent := by
  cases result <;> rfl

theorem sent_undoStart (websocket : ConnectionId) (roomId : RoomId) (error : MatchOperationError)
    (undo : StartUndo) : (gateway.undoStart websocket roomId error undo).sent = gateway.sent := by
  cases undo <;> rfl

/-- What was sent stays sent. -/
theorem sent_step (input : GatewayStep) :
    gateway.sent <+: (gateway.step updateRatings input).sent := by
  cases input with
  | connect | cancelFindMatch | leaveQueue | createRoom | drop | search | startMatch
  | removeConnection | cleanupRoom | cleanupEnds | findMatch | matchEnded =>
      simp only [Gateway.step]
      repeat' split
      all_goals exact List.prefix_rfl
  | expire => exact List.prefix_append ..
  | joinRoom | joinHiddenRoom | matchPlayers =>
      simp only [Gateway.step]
      split
      · rw [sent_enter]
      · exact List.prefix_rfl
  | startEnds =>
      simp only [Gateway.step]
      split
      · split
        · exact List.prefix_rfl
        · rw [sent_undoStart]
        · exact List.prefix_rfl
        · exact List.prefix_rfl
      · exact List.prefix_rfl
  | service | inform | notify =>
      simp only [Gateway.step]
      repeat' split
      all_goals first | exact List.prefix_append .. | exact List.prefix_rfl

end Sent

/-! ## Runs -/

/-- The loop of a web socket is not handling a message. -/
def Idle (gateway : Gateway) (websocket : ConnectionId) : Prop :=
  ∀ phase ∈ gateway.phase websocket, phase.isIdle = true

/-- The player whom a search takes off the queue. -/
def selects (gateway : Gateway) (websocket : ConnectionId) (rating : Int) :
    Option ConnectedUser :=
  match gateway.connections[websocket]? with
  | some ⟨userId, username, .searching⟩ =>
      (gateway.queue.findMatch ⟨userId, username, websocket, rating⟩).1
  | _ => none

/-- **What becomes of a selected player**: an active room, the queue again, or a message; or the
player's own connection has ended. -/
inductive Found (opponent : ConnectedUser) (since : Nat) (gateway : Gateway) : Prop where
  | plays {roomId : RoomId} {room : GameRoom}
      (stored : gateway.rooms.rooms.lookup roomId = some room) (active : room.status = .active)
      (player : opponent.userId ∈ room.players)
  | waits (waiting : gateway.queue.IsWaiting opponent.userId)
  | told (told : gateway.Told opponent since)
  | left (left : gateway.HasLeft opponent.websocket)

/-- Whoever is taken off the queue in a run has been found when the search is over. -/
def NoLostOpponent (updateRatings : Int → Int → Int × Int) (start : Gateway)
    (steps : List GatewayStep) : Prop :=
  ∀ (before after : List GatewayStep) (websocket : ConnectionId) (rating : Int)
    (opponent : ConnectedUser), steps = before ++ .findMatch websocket rating :: after →
      (Trace.run (step updateRatings) start before).selects websocket rating = some opponent →
      (Trace.run (step updateRatings) start steps).Idle websocket →
      (Trace.run (step updateRatings) start steps).Found opponent
        (Trace.run (step updateRatings) start before).sent.length

section Runs

variable {opponent : ConnectedUser} {websocket : ConnectionId} {since : Nat} {gateway : Gateway}

theorem Alone.minds (alone : Alone opponent websocket gateway) :
    ∃ phase, gateway.phase websocket = some phase ∧ phase.isIdle = false := by
  cases alone with
  | paired at_ | informing at_ | notifying at_ => exact ⟨_, at_, rfl⟩

theorem Stage.minds {roomId : RoomId} (stage : Stage opponent websocket gateway roomId) :
    ∃ phase, gateway.phase websocket = some phase ∧ phase.isIdle = false := by
  cases stage with
  | joined at_ | starting at_ | ready at_ | cleaning at_ => exact ⟨_, at_, rfl⟩

/-- When the handler of the search is done, the player has been found. -/
theorem Minded.found (minded : Minded opponent websocket since gateway)
    (idle : gateway.Idle websocket) : gateway.Found opponent since := by
  have ended : ¬ ∃ phase, gateway.phase websocket = some phase ∧ phase.isIdle = false := by
    rintro ⟨phase, at_, busy⟩
    exact absurd (idle phase at_) (by rw [busy]; exact Bool.noConfusion)
  cases minded with
  | told told => exact .told told
  | left gone => exact .left gone
  | abandoned table =>
      obtain ⟨room, stored, isMatch⟩ := table.room
      refine .plays stored isMatch.status ?_
      rw [GameRoom.players, isMatch.host]
      exact List.mem_cons_self ..
  | alone alone => exact absurd alone.minds ended
  | room stage => exact absurd stage.minds ended

/-- A search that takes a player off the queue knows of the player. -/
theorem minded_of_selects (updateRatings : Int → Int → Int × Int) {rating : Int}
    (selected : gateway.selects websocket rating = some opponent) :
    Minded opponent websocket since
      (gateway.step updateRatings (.findMatch websocket rating)) := by
  rw [selects] at selected
  split at selected
  · next userId username found =>
      simp only [Gateway.step, found]
      have distinct := PlayQueue.findMatch_distinct selected
      generalize gateway.queue.findMatch _ = result at selected
      obtain ⟨chosen, queue⟩ := result
      obtain rfl : chosen = some opponent := selected
      have at_ : { gateway with queue := queue }.phase websocket = some .searching :=
        phase_of_connection found
      exact .alone (.paired ((phase_setPhase at_ _ _).trans (if_pos rfl)) distinct rfl)
  · cases selected

/-- Before anybody connects no identifier is used. -/
theorem keyed_opened (allocator : ShardPoolAllocator) (store : RatingStore) :
    (opened allocator store).Keyed where
  rooms := fun _ room none => absurd none (Option.some_ne_none room).symm
  matches_ := fun _ found none => absurd none (Option.some_ne_none found).symm

/-- **No selected player is lost** by a run in which every search that has selected a player gets
its room. -/
theorem run_noLostOpponent (updateRatings : Int → Int → Int × Int)
    (allocator : ShardPoolAllocator) (store : RatingStore) (steps : List GatewayStep)
    (fresh : ∀ visit ∈ Trace.visits (step updateRatings) (opened allocator store) steps,
      visit.1.Fresh visit.2)
    (pairsUp : ∀ visit ∈ Trace.visits (step updateRatings) (opened allocator store) steps,
      visit.1.PairsUp visit.2) :
    NoLostOpponent updateRatings (opened allocator store) steps := by
  rintro before after websocket rating opponent rfl selected idle
  rw [Trace.visits_append] at fresh pairsUp
  rw [Trace.run_append, Trace.run_cons] at idle ⊢
  have keyed : (Trace.run (step updateRatings) (opened allocator store) before).Keyed :=
    Trace.run_invariant (motive := Keyed) (fun _ input keyed => keyed.step updateRatings input)
      before (keyed_opened allocator store)
  generalize Trace.run (step updateRatings) (opened allocator store) before = gateway at *
  have kept := Trace.run_rule
    (motive := fun reached => Minded opponent websocket gateway.sent.length reached ∧
      reached.Keyed ∧ gateway.sent.length ≤ reached.sent.length)
    (fun reached input => reached.Fresh input ∧ reached.PairsUp input)
    (fun reached input ⟨fresh, pairsUp⟩ ⟨minded, keyed, early⟩ =>
      ⟨minded.step updateRatings keyed early fresh pairsUp, keyed.step updateRatings input,
        early.trans (sent_step updateRatings reached input).length_le⟩)
    after (gateway.step updateRatings (.findMatch websocket rating))
    (fun visit member =>
      have later := List.mem_append_right _ (List.mem_cons_of_mem _ member)
      ⟨fresh visit later, pairsUp visit later⟩)
    ⟨minded_of_selects updateRatings selected, keyed.step updateRatings _,
      (sent_step updateRatings gateway _).length_le⟩
  exact kept.1.found idle

end Runs

instance (gateway : Gateway) : ∀ input, Decidable (gateway.PairsUp input)
  | .matchPlayers websocket _ _ => inferInstanceAs (Decidable
      (∀ pair ∈ (gateway.phase websocket).bind SocketPhase.pair?,
        pair.1.userId ∉ gateway.rooms.playerRoomByUser ∧
          pair.2.userId ∉ gateway.rooms.playerRoomByUser))
  | .connect .. | .createRoom .. | .joinRoom .. | .joinHiddenRoom .. | .search _ | .findMatch ..
  | .cancelFindMatch _ | .expire _ | .startMatch _ | .service _ | .startEnds _ | .inform _
  | .drop _ | .leaveQueue _ | .removeConnection _ | .cleanupRoom .. | .cleanupEnds _ | .notify _
  | .matchEnded _ => .isTrue trivial

instance (opponent : ConnectedUser) (since : Nat) (gateway : Gateway) :
    Decidable (gateway.Told opponent since) :=
  inferInstanceAs (Decidable (∃ entry ∈ gateway.sent.drop since, entry.1 = opponent.websocket))

instance (gateway : Gateway) (websocket : ConnectionId) : Decidable (gateway.HasLeft websocket) :=
  inferInstanceAs (Decidable (∃ phase ∈ gateway.phase websocket, phase.hasLeft = true))

instance (gateway : Gateway) (websocket : ConnectionId) : Decidable (gateway.Idle websocket) :=
  inferInstanceAs (Decidable (∀ phase ∈ gateway.phase websocket, phase.isIdle = true))

/-- Ann waits, and Bob's search selects her and gets a room for the two. -/
def bobFindsAnn : List GatewayStep :=
  [.connect 1 "ann", .connect 2 "bob", .search 0, .findMatch 0 1200, .search 1,
    .findMatch 1 1200, .matchPlayers 1 7 "a0b1c2", .startMatch 1]

theorem run_noLostOpponent_bobFindsAnn :
    ((∀ visit ∈ Trace.visits (step MatchService.sixteen) oneShard (bobFindsAnn ++ matchStarts),
        visit.1.Fresh visit.2) ∧
      (∀ visit ∈ Trace.visits (step MatchService.sixteen) oneShard (bobFindsAnn ++ matchStarts),
        visit.1.PairsUp visit.2)) ∧
      NoLostOpponent MatchService.sixteen oneShard (bobFindsAnn ++ matchStarts) := by
  have fresh : ∀ visit ∈ Trace.visits (step MatchService.sixteen) oneShard
      (bobFindsAnn ++ matchStarts), visit.1.Fresh visit.2 := by decide +kernel
  have pairsUp : ∀ visit ∈ Trace.visits (step MatchService.sixteen) oneShard
      (bobFindsAnn ++ matchStarts), visit.1.PairsUp visit.2 := by decide +kernel
  exact ⟨⟨fresh, pairsUp⟩,
    run_noLostOpponent MatchService.sixteen { available := [⟨"localhost", 9000⟩] } {} _ fresh
      pairsUp⟩

/-- Ann waits. Bob has two web sockets: while the first one's search fetches his rating, the
second one opens a room. -/
def bobOpensRoom : List GatewayStep :=
  [.connect 1 "ann", .connect 2 "bob", .connect 2 "bob", .search 0, .findMatch 0 1200,
    .search 1, .createRoom 2 1200 (some "Table") "public" 7 []]

/-- Bob's search selects Ann and gets no room. -/
def bobPairsUp : List GatewayStep := [.findMatch 1 1200, .matchPlayers 1 8 "a0b1c2"]

/-- Ann is in no room and not in the queue, and nobody tells her. -/
theorem bobPairsUp_losesAnn :
    (∀ visit ∈ Trace.visits (step MatchService.sixteen) oneShard (bobOpensRoom ++ bobPairsUp),
        visit.1.Fresh visit.2) ∧
      ¬ NoLostOpponent MatchService.sixteen oneShard (bobOpensRoom ++ bobPairsUp) := by
  refine ⟨by decide +kernel, fun noLost => ?_⟩
  have selected : (Trace.run (step MatchService.sixteen) oneShard bobOpensRoom).selects 1 1200 =
      some ⟨1, "ann", 0, 1200⟩ := by decide +kernel
  have idle : (Trace.run (step MatchService.sixteen) oneShard
      (bobOpensRoom ++ bobPairsUp)).Idle 1 := by decide +kernel
  have seats : ∀ entry ∈ (Trace.run (step MatchService.sixteen) oneShard
      (bobOpensRoom ++ bobPairsUp)).rooms.rooms.entries, 1 ∉ entry.2.players := by decide +kernel
  cases noLost _ _ _ _ _ rfl selected idle with
  | plays stored active player => exact seats _ (AList.mem_lookup_iff.mp stored) player
  | waits waiting => exact absurd waiting (by decide +kernel)
  | told told => exact absurd told (by decide +kernel)
  | left gone => exact absurd gone (by decide +kernel)

end Gateway

end KungFuChess

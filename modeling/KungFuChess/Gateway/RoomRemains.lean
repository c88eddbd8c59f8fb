import KungFuChess.Gateway.RoomCodes

/-!
# What is left of the rooms

Every entry of the tables of a `RoomManager` hangs on a connection that is still
to be closed: a room on the one of its host, a code and an entry of the player
index on a room, a spectator and a subscriber on their own. So a run that closes
every connection after its last use leaves nothing, as long as no room is finished.
A finished room has let go of its players, and the end of their connections no
longer finds it.
-/

set_option autoImplicit false

namespace KungFuChess

open ReverseIndex

/-! ## Runs that close their connections -/

namespace RoomStep

/-- The connections an operation adds to the spectators or to the subscribers. -/
def visitors : RoomStep → List ConnectionId
  | .watchRoom _ spectator => [spectator.websocket]
  | .subscribeLobby connection => [connection]
  | _ => []

/-- The operation is about a spectator, a subscriber or the end of a connection. -/
def isVisit : RoomStep → Bool
  | .watchRoom .. | .leaveSpectator .. | .subscribeLobby _ | .removeConnection .. => true
  | _ => false

/-- The operation is the end of a connection. -/
def closes (connection : ConnectionId) : RoomStep → Bool
  | .removeConnection _ closed => closed = connection
  | _ => false

theorem closes_of_not_isVisit {input : RoomStep} (other : input.isVisit = false)
    (connection : ConnectionId) : input.closes connection = false := by
  cases input with
  | removeConnection => cases other
  | createRoom | joinPublicRoom | joinHiddenRoom | matchPlayers | discardRoom | rollbackJoin
  | watchRoom | leaveSpectator | finishRoom | subscribeLobby => rfl

end RoomStep

namespace RoomManager

/-- Every connection that takes part in a run is closed later in it. -/
def Closed : List RoomStep → Prop
  | [] => True
  | input :: rest =>
      (∀ user ∈ input.players, .removeConnection user.userId user.websocket ∈ rest) ∧
        (∀ connection ∈ input.visitors, rest.any (RoomStep.closes connection) = true) ∧ Closed rest

instance decidableClosed : ∀ inputs, Decidable (Closed inputs)
  | [] => inferInstanceAs (Decidable True)
  | _ :: rest =>
      have := decidableClosed rest
      inferInstanceAs (Decidable (_ ∧ _ ∧ _))

/-- Nothing is left in the tables. -/
structure Cleared (manager : RoomManager) : Prop where
  rooms : manager.rooms = ∅
  hiddenCodes : manager.hiddenCodes = ∅
  playerRoomByUser : manager.playerRoomByUser = ∅
  spectatorRoomByConnection : manager.spectatorRoomByConnection = ∅
  lobbySubscribers : manager.lobbySubscribers = []

/-- The operation finishes a room. -/
def Finishes (manager : RoomManager) : RoomStep → Prop
  | .finishRoom roomId => ∃ room ∈ manager.rooms.lookup roomId, room.status ≠ .finished
  | _ => False

/-! ## Visitors -/

/-- What an operation does to the subscribers and to the spectator index. -/
structure Visits (before : RoomManager) (input : RoomStep) (after : RoomManager) : Prop where
  subscribers : ∀ connection ∈ after.lobbySubscribers,
    (connection ∈ before.lobbySubscribers ∧ input.closes connection = false) ∨
      connection ∈ input.visitors
  spectators : ∀ connection ∈ after.spectatorRoomByConnection,
    (connection ∈ before.spectatorRoomByConnection ∧ input.closes connection = false) ∨
      connection ∈ input.visitors
  once : after.lobbySubscribers.Nodup

namespace Visits

variable {manager after : RoomManager} {input : RoomStep}

/-- An operation that leaves both tables alone. -/
theorem of_eq (once : manager.lobbySubscribers.Nodup)
    (open_ : ∀ connection, input.closes connection = false)
    (subscribers : after.lobbySubscribers = manager.lobbySubscribers)
    (spectators : after.spectatorRoomByConnection = manager.spectatorRoomByConnection) :
    Visits manager input after where
  subscribers := fun connection here => .inl ⟨subscribers ▸ here, open_ connection⟩
  spectators := fun connection here => .inl ⟨spectators ▸ here, open_ connection⟩
  once := subscribers ▸ once

theorem watchRoom (once : manager.lobbySubscribers.Nodup) (roomId : RoomId)
    (spectator : ConnectedUser) :
    Visits manager (.watchRoom roomId spectator)
      (manager.settle (manager.watchRoom roomId spectator) Prod.snd) := by
  rw [RoomManager.watchRoom]
  split
  · exact .of_eq once (fun _ => rfl) rfl rfl
  · split
    · exact .of_eq once (fun _ => rfl) rfl rfl
    · split
      · exact .of_eq once (fun _ => rfl) rfl rfl
      · split
        · exact .of_eq once (fun _ => rfl) rfl rfl
        · refine ⟨fun connection here => .inl ⟨here, rfl⟩, fun connection here => ?_, once⟩
          rcases AList.mem_insert _ |>.mp here with rfl | before
          · exact .inr List.mem_cons_self
          · exact .inl ⟨before, rfl⟩

theorem leaveSpectator (once : manager.lobbySubscribers.Nodup) (connection : ConnectionId)
    (roomId : RoomId) :
    Visits manager (.leaveSpectator connection roomId)
      (manager.settle (manager.leaveSpectator connection roomId) id) := by
  rw [RoomManager.leaveSpectator]
  split
  · exact .of_eq once (fun _ => rfl) rfl rfl
  · exact ⟨fun _ here => .inl ⟨here, rfl⟩,
      fun _ here => .inl ⟨(AList.mem_erase.mp here).2, rfl⟩, once⟩

theorem subscribeLobby (once : manager.lobbySubscribers.Nodup) (connection : ConnectionId) :
    Visits manager (.subscribeLobby connection)
      (manager.settle (manager.subscribeLobby connection) id) := by
  rw [RoomManager.subscribeLobby]
  split
  · exact .of_eq once (fun _ => rfl) rfl rfl
  · next new =>
      refine ⟨fun other here => ?_, fun _ here => .inl ⟨here, rfl⟩, ?_⟩
      · rcases List.mem_append.mp here with before | added
        · exact .inl ⟨before, rfl⟩
        · exact .inr added
      · have longer := once.concat new
        rw [List.concat_eq_append] at longer
        exact longer

/-- A closed connection neither subscribes nor watches any more. -/
theorem closeSpectator (once : manager.lobbySubscribers.Nodup) (userId : UserId)
    (connection : ConnectionId) :
    Visits manager (.removeConnection userId connection)
      (manager.closeSpectator connection).2 := by
  have subscribers : (manager.closeSpectator connection).2.lobbySubscribers =
      manager.lobbySubscribers.erase connection := by
    rw [RoomManager.closeSpectator]
    split <;> rfl
  constructor
  case subscribers =>
    intro other here
    rw [subscribers, once.mem_erase_iff] at here
    exact .inl ⟨here.2, decide_eq_false here.1.symm⟩
  case spectators =>
    intro other here
    rw [RoomManager.closeSpectator] at here
    split at here
    · next absent =>
        refine .inl ⟨here, decide_eq_false ?_⟩
        rintro rfl
        exact AList.lookup_eq_none.mp absent here
    · have both := AList.mem_erase.mp here
      exact .inl ⟨both.2, decide_eq_false (Ne.symm both.1)⟩
  case once =>
    rw [subscribers]
    exact once.erase connection

theorem removeConnection (once : manager.lobbySubscribers.Nodup) (userId : UserId)
    (connection : ConnectionId) :
    Visits manager (.removeConnection userId connection)
      (manager.removeConnection userId connection).2 := by
  have closed := closeSpectator once userId connection
  simp only [RoomManager.removeConnection]
  split
  · exact closed
  · split
    · refine ⟨closed.subscribers, fun other here => closed.spectators other ?_, closed.once⟩
      rw [removeRoom, mem_eraseAll] at here
      exact here.1
    · exact closed

end Visits

/-- The other operations leave the subscribers and the spectator index alone. -/
theorem visitors_step {manager : RoomManager} {input : RoomStep} (other : input.isVisit = false) :
    (manager.step input).lobbySubscribers = manager.lobbySubscribers ∧
      (manager.step input).spectatorRoomByConnection = manager.spectatorRoomByConnection := by
  cases input with
  | createRoom host name visibility roomId draws =>
      rcases manager.createRoom_cases host name visibility roomId draws with
        same | ⟨-, validatedName, opened | ⟨code, -, opened⟩⟩
      · exact ⟨by rw [same], by rw [same]⟩
      · exact ⟨by rw [opened]; rfl, by rw [opened]; rfl⟩
      · exact ⟨by rw [opened]; rfl, by rw [opened]; rfl⟩
  | joinPublicRoom roomId guest =>
      rcases joinPublicRoom_cases roomId guest with same | ⟨room, vacancy, seated⟩
      · exact ⟨by rw [same], by rw [same]⟩
      · exact ⟨by rw [seated]; rfl, by rw [seated]; rfl⟩
  | joinHiddenRoom code guest =>
      rcases joinHiddenRoom_cases code guest with same | ⟨room, vacancy, seated⟩
      · exact ⟨by rw [same], by rw [same]⟩
      · exact ⟨by rw [seated]; rfl, by rw [seated]; rfl⟩
  | matchPlayers first second roomId suffix =>
      rw [step, matchPlayers]
      split <;> exact ⟨rfl, rfl⟩
  | discardRoom roomId =>
      rw [step, discardRoom]
      split <;> exact ⟨rfl, rfl⟩
  | rollbackJoin roomId guestId =>
      rw [step, rollbackJoin]
      split
      · exact ⟨rfl, rfl⟩
      · split <;> exact ⟨rfl, rfl⟩
  | finishRoom roomId =>
      rw [step, finishRoom]
      split
      · exact ⟨rfl, rfl⟩
      · split <;> exact ⟨rfl, rfl⟩
  | watchRoom | leaveSpectator | subscribeLobby | removeConnection => cases other

theorem step_visits {manager : RoomManager} (once : manager.lobbySubscribers.Nodup)
    (input : RoomStep) : Visits manager input (manager.step input) := by
  cases visit : input.isVisit with
  | false =>
      obtain ⟨subscribers, spectators⟩ := manager.visitors_step visit
      exact .of_eq once (RoomStep.closes_of_not_isVisit visit) subscribers spectators
  | true =>
      cases input with
      | watchRoom roomId spectator => exact .watchRoom once roomId spectator
      | leaveSpectator connection roomId => exact .leaveSpectator once connection roomId
      | subscribeLobby connection => exact .subscribeLobby once connection
      | removeConnection userId connection => exact .removeConnection once userId connection
      | createRoom | joinPublicRoom | joinHiddenRoom | matchPlayers | discardRoom | rollbackJoin
      | finishRoom => cases visit

/-! ## What holds the entries -/

/-- Every entry of the tables hangs on a connection that the rest of the run closes. -/
structure Held (manager : RoomManager) (rest : List RoomStep) : Prop where
  players : manager.PlayersAgree
  hosts : ∀ roomId room, manager.rooms.lookup roomId = some room → room.status ≠ .finished ∧
    .removeConnection room.host.userId room.host.websocket ∈ rest
  codes : ∀ code roomId, manager.hiddenCodes.lookup code = some roomId →
    ∃ room, manager.rooms.lookup roomId = some room ∧ room.roomCode = some code
  subscribers : ∀ connection ∈ manager.lobbySubscribers,
    rest.any (RoomStep.closes connection) = true
  spectators : ∀ connection ∈ manager.spectatorRoomByConnection,
    rest.any (RoomStep.closes connection) = true
  once : manager.lobbySubscribers.Nodup

theorem PlayersAgree.keyed {manager : RoomManager} (players : manager.PlayersAgree) :
    manager.Keyed := fun roomId room stored => (players.filed roomId room stored).1

/-- The end of the connection of a host removes the room. -/
theorem releases_removeConnection {manager : RoomManager} (players : manager.PlayersAgree)
    {roomId : RoomId} {room : GameRoom} (stored : manager.rooms.lookup roomId = some room)
    (unfinished : room.status ≠ .finished) :
    manager.releases (.removeConnection room.host.userId room.host.websocket) = some room := by
  have indexed : manager.playerRoomByUser.lookup room.host.userId = some roomId :=
    (players.indexed room.host.userId roomId).mpr
      ⟨room, stored, unfinished, GameRoom.mem_players.mpr (.inl rfl)⟩
  have owns : ownsConnection room room.host.userId room.host.websocket = true := by
    simp only [ownsConnection, and_self, true_or, decide_true]
  rw [releases, indexed, Option.bind_some, stored, Option.filter_some]
  exact if_pos owns

/-- A room that an operation leaves has a host whose connection is still open. -/
theorem Held.host {manager after : RoomManager} {input : RoomStep} {rest : List RoomStep}
    (held : manager.Held (input :: rest))
    (gone : ∀ removed, manager.releases input = some removed →
      after.rooms.lookup removed.roomId = none)
    {roomId : RoomId} {room was : GameRoom} (stored : after.rooms.lookup roomId = some room)
    (before : manager.rooms.lookup roomId = some was) :
    was.status ≠ .finished ∧ .removeConnection was.host.userId was.host.websocket ∈ rest := by
  obtain ⟨unfinished, later⟩ := held.hosts roomId was before
  refine ⟨unfinished, (List.mem_cons.mp later).resolve_left fun now => ?_⟩
  have released := releases_removeConnection held.players before unfinished
  rw [now] at released
  have absent := gone was released
  rw [held.players.keyed roomId was before, stored] at absent
  cases absent

theorem Held.hosts_step {manager : RoomManager} {input : RoomStep} {rest : List RoomStep}
    (held : manager.Held (input :: rest)) (closed : Closed (input :: rest))
    (unfinishing : ¬ manager.Finishes input) (roomId : RoomId) (room : GameRoom)
    (stored : (manager.step input).rooms.lookup roomId = some room) :
    room.status ≠ .finished ∧ .removeConnection room.host.userId room.host.websocket ∈ rest := by
  have taken := step_codeStep held.players.keyed input
  generalize manager.step input = after at taken stored
  have gone_of_idle : manager.releases input = none → ∀ removed,
      manager.releases input = some removed → after.rooms.lookup removed.roomId = none := by
    intro idle removed released
    rw [idle] at released
    cases released
  cases taken with
  | quiet idle leaves codes =>
      obtain ⟨was, before, spectators, rfl⟩ := (leaves roomId).stored stored
      have open_ := held.host (gone_of_idle idle) stored before
      exact open_
  | opened idle opened fresh host unfinished visible uncoded rooms codes
  | hidden idle opened code fresh host unfinished hidden coded unused rooms codes =>
      have found := stored
      rw [rooms, lookup_insert] at found
      split at found
      · obtain rfl := Option.some.inj found
        exact ⟨unfinished, closed.1 _ host⟩
      · exact held.host (gone_of_idle idle) stored found
  | finished idle was before finishing unfinished rooms codes =>
      rw [finishing] at unfinishing
      exact absurd ⟨was, before, unfinished⟩ unfinishing
  | joined idle was guest before joinable rooms codes =>
      have found := stored
      rw [rooms, lookup_insert] at found
      split at found
      · next same =>
          subst same
          obtain rfl := Option.some.inj found
          exact ⟨RoomStatus.noConfusion, (held.host (gone_of_idle idle) stored before).2⟩
      · exact held.host (gone_of_idle idle) stored found
  | removed removed before released gone leaves codes =>
      have distinct : roomId ≠ removed.roomId := by
        rintro rfl
        rw [gone] at stored
        cases stored
      obtain ⟨was, found, spectators, rfl⟩ := (leaves roomId distinct).stored stored
      have open_ := held.host (fun other released' => by
        obtain rfl := Option.some.inj (released.symm.trans released')
        exact gone) stored found
      exact open_
  | returned was before released rolling rooms codes =>
      obtain ⟨guestId, rolling⟩ := rolling
      have later : ∀ other, manager.rooms.lookup roomId = some other → other.status ≠ .finished ∧
          .removeConnection other.host.userId other.host.websocket ∈ rest := by
        intro other found
        obtain ⟨unfinished, member⟩ := held.hosts roomId other found
        rw [rolling] at member
        exact ⟨unfinished, (List.mem_cons.mp member).resolve_left RoomStep.noConfusion⟩
      rw [rooms, lookup_insert] at stored
      split at stored
      · next same =>
          subst same
          obtain rfl := Option.some.inj stored
          exact ⟨RoomStatus.noConfusion, (later was before).2⟩
      · exact later room stored

/-- A code that is left in the index leads to a room with this code. -/
theorem Held.codes_step {manager : RoomManager} {input : RoomStep} {rest : List RoomStep}
    (held : manager.Held (input :: rest)) (fresh : manager.Fresh input) (code : String)
    (roomId : RoomId) (indexed : (manager.step input).hiddenCodes.lookup code = some roomId) :
    ∃ room, (manager.step input).rooms.lookup roomId = some room ∧ room.roomCode = some code := by
  have taken := step_codeStep held.players.keyed input
  generalize manager.step input = after at taken indexed
  cases taken with
  | quiet idle leaves codes =>
      rw [codes] at indexed
      obtain ⟨was, before, coded⟩ := held.codes code roomId indexed
      obtain ⟨room, stored, spectators, rfl⟩ := (leaves roomId).kept before
      exact ⟨_, stored, coded⟩
  | opened idle opened new host unfinished visible uncoded rooms codes =>
      rw [codes] at indexed
      obtain ⟨was, before, coded⟩ := held.codes code roomId indexed
      refine ⟨was, ?_, coded⟩
      rw [rooms, lookup_insert, if_neg, before]
      rintro rfl
      rw [AList.lookup_eq_none.mpr (new fresh)] at before
      cases before
  | hidden idle opened drawn new host unfinished hidden coded unused rooms codes =>
      rw [codes, lookup_insert] at indexed
      rw [rooms]
      split at indexed
      · next same =>
          obtain rfl := Option.some.inj indexed
          exact ⟨opened, AList.lookup_insert _, same ▸ coded⟩
      · obtain ⟨was, before, coded⟩ := held.codes code roomId indexed
        refine ⟨was, ?_, coded⟩
        rw [lookup_insert, if_neg, before]
        rintro rfl
        rw [AList.lookup_eq_none.mpr (new fresh)] at before
        cases before
  | finished idle finished stored finishing unfinished rooms codes =>
      rw [codes] at indexed
      obtain ⟨was, before, coded⟩ := held.codes code roomId indexed
      rw [rooms, lookup_insert]
      split
      · next same =>
          obtain rfl := Option.some.inj ((same ▸ stored).symm.trans before)
          exact ⟨_, rfl, coded⟩
      · exact ⟨was, before, coded⟩
  | joined idle room guest stored joinable rooms codes =>
      rw [codes] at indexed
      split at indexed
      · cases indexed
      · obtain ⟨was, before, coded⟩ := held.codes code roomId indexed
        rw [rooms, lookup_insert]
        split
        · next same =>
            obtain rfl := Option.some.inj ((same ▸ stored).symm.trans before)
            exact ⟨_, rfl, coded⟩
        · exact ⟨was, before, coded⟩
  | removed removed stored released gone leaves codes =>
      rw [codes] at indexed
      split at indexed
      · cases indexed
      · next other =>
          obtain ⟨was, before, coded⟩ := held.codes code roomId indexed
          have distinct : roomId ≠ removed.roomId := by
            rintro rfl
            obtain rfl := Option.some.inj (stored.symm.trans before)
            exact other coded
          obtain ⟨room, kept, spectators, rfl⟩ := (leaves roomId distinct).kept before
          exact ⟨_, kept, coded⟩
  | returned room stored released rolling rooms codes =>
      rw [codes] at indexed
      rw [rooms, lookup_insert]
      split at indexed
      · next coded =>
          obtain rfl := Option.some.inj indexed
          exact ⟨_, if_pos rfl, coded⟩
      · obtain ⟨was, before, coded⟩ := held.codes code roomId indexed
        split
        · next same =>
            obtain rfl := Option.some.inj ((same ▸ stored).symm.trans before)
            exact ⟨_, rfl, coded⟩
        · exact ⟨was, before, coded⟩

/-- In a run that finishes no room there is no finished room to discard. -/
theorem Held.sparesFinished {manager : RoomManager} {rest : List RoomStep}
    (held : manager.Held rest) (input : RoomStep) : manager.SparesFinished input := by
  cases input with
  | discardRoom roomId => exact fun room stored => (held.hosts roomId room stored).1
  | rollbackJoin roomId guestId => exact fun room stored => (held.hosts roomId room stored).1
  | createRoom | joinPublicRoom | joinHiddenRoom | matchPlayers | watchRoom | leaveSpectator
  | finishRoom | subscribeLobby | removeConnection => trivial

theorem Held.step {manager : RoomManager} {input : RoomStep} {rest : List RoomStep}
    (held : manager.Held (input :: rest)) (closed : Closed (input :: rest))
    (fresh : manager.Fresh input) (pairs : PairsUsers input)
    (unfinishing : ¬ manager.Finishes input) : (manager.step input).Held rest := by
  have visits := step_visits held.once input
  -- What was held by this very operation is gone after it.
  have later : ∀ connection, (input :: rest).any (RoomStep.closes connection) = true →
      input.closes connection = false → rest.any (RoomStep.closes connection) = true := by
    intro connection held open_
    rw [List.any_cons, open_, Bool.false_or] at held
    exact held
  constructor
  case players => exact step_playersAgree held.players fresh pairs (held.sparesFinished input)
  case hosts => exact held.hosts_step closed unfinishing
  case codes => exact held.codes_step fresh
  case subscribers =>
    intro connection here
    rcases visits.subscribers connection here with ⟨before, open_⟩ | new
    · exact later connection (held.subscribers connection before) open_
    · exact closed.2.1 connection new
  case spectators =>
    intro connection here
    rcases visits.spectators connection here with ⟨before, open_⟩ | new
    · exact later connection (held.spectators connection before) open_
    · exact closed.2.1 connection new
  case once => exact visits.once

/-- When no connection is left to be closed, nothing is left. -/
theorem Held.cleared {manager : RoomManager} (held : manager.Held []) : manager.Cleared := by
  have roomless : manager.rooms = ∅ := by
    refine eq_empty_of_forall_not_mem fun roomId member => ?_
    obtain ⟨room, stored⟩ := Option.isSome_iff_exists.mp (AList.lookup_isSome.mpr member)
    exact absurd (held.hosts roomId room stored).2 List.not_mem_nil
  have absent : ∀ roomId room, manager.rooms.lookup roomId ≠ some room := by
    intro roomId room stored
    rw [roomless, AList.lookup_empty] at stored
    cases stored
  constructor
  case rooms => exact roomless
  case hiddenCodes =>
    refine eq_empty_of_forall_not_mem fun code member => ?_
    obtain ⟨roomId, indexed⟩ := Option.isSome_iff_exists.mp (AList.lookup_isSome.mpr member)
    obtain ⟨room, stored, -⟩ := held.codes code roomId indexed
    exact absent roomId room stored
  case playerRoomByUser =>
    refine eq_empty_of_forall_not_mem fun userId member => ?_
    obtain ⟨roomId, indexed⟩ := Option.isSome_iff_exists.mp (AList.lookup_isSome.mpr member)
    obtain ⟨room, stored, -⟩ := (held.players.indexed userId roomId).mp indexed
    exact absent roomId room stored
  case spectatorRoomByConnection =>
    exact eq_empty_of_forall_not_mem fun connection member =>
      Bool.false_ne_true (held.spectators connection member)
  case lobbySubscribers =>
    exact List.eq_nil_iff_forall_not_mem.mpr fun connection member =>
      Bool.false_ne_true (held.subscribers connection member)

theorem Held.run {inputs : List RoomStep} : ∀ {manager : RoomManager},
    manager.Held inputs → Closed inputs →
    (∀ visit ∈ Trace.visits RoomManager.step manager inputs, visit.1.Fresh visit.2 ∧
      PairsUsers visit.2 ∧ ¬ visit.1.Finishes visit.2) →
      (Trace.run RoomManager.step manager inputs).Cleared := by
  induction inputs with
  | nil => exact fun held _ _ => held.cleared
  | cons input rest ih =>
      intro manager held closed guarded
      obtain ⟨fresh, pairs, unfinishing⟩ := guarded (manager, input) List.mem_cons_self
      exact ih (held.step closed fresh pairs unfinishing) closed.2.2 fun visit member =>
        guarded visit (List.mem_cons_of_mem _ member)

/-! ## Finished rooms stay -/

/-- A finished room is stored under an identifier. -/
def KeepsFinished (roomId : RoomId) (manager : RoomManager) : Prop :=
  ∃ room, manager.rooms.lookup roomId = some room ∧ room.status = .finished

/-- **A finished room stays finished, and stays**, unless it is discarded or a join of
it is rolled back. -/
theorem KeepsFinished.step {manager : RoomManager} {roomId : RoomId}
    (kept : manager.KeepsFinished roomId) (players : manager.PlayersAgree) {input : RoomStep}
    (fresh : manager.Fresh input) (spares : manager.SparesFinished input) :
    (manager.step input).KeepsFinished roomId := by
  obtain ⟨room, stored, finished⟩ := kept
  have named := players.keyed roomId room stored
  have taken := step_codeStep players.keyed input
  generalize manager.step input = after at taken
  -- A room that is released is not finished.
  have playing : ∀ released, manager.releases input = some released →
      released.status ≠ .finished := by
    intro released here
    cases input with
    | discardRoom discarded => exact spares released here
    | rollbackJoin rolled guestId =>
        exact spares released (Option.eq_some_of_filter_eq_some here)
    | removeConnection userId connection =>
        obtain ⟨indexed, seated, there⟩ :=
          Option.bind_eq_some_iff.mp (Option.eq_some_of_filter_eq_some here)
        obtain ⟨_, same, seats⟩ := (players.indexed userId indexed).mp seated
        obtain rfl := Option.some.inj (same.symm.trans there)
        exact seats.1
    | createRoom | joinPublicRoom | joinHiddenRoom | matchPlayers | watchRoom | leaveSpectator
    | finishRoom | subscribeLobby => cases here
  have elsewhere : ∀ other, manager.rooms.lookup other.roomId = some other →
      other.status ≠ .finished → roomId ≠ other.roomId := by
    rintro other there unfinished rfl
    obtain rfl := Option.some.inj (stored.symm.trans there)
    exact unfinished finished
  cases taken with
  | quiet idle leaves codes =>
      obtain ⟨later, kept, spectators, rfl⟩ := (leaves roomId).kept stored
      exact ⟨_, kept, finished⟩
  | opened idle opened new host unfinished visible uncoded rooms codes
  | hidden idle opened drawn new host unfinished hidden coded unused rooms codes =>
      refine ⟨room, ?_, finished⟩
      rw [rooms, lookup_insert, if_neg, stored]
      rintro rfl
      rw [AList.lookup_eq_none.mpr (new fresh)] at stored
      cases stored
  | finished idle other there finishing unfinished rooms codes =>
      refine ⟨room, ?_, finished⟩
      rw [rooms, lookup_insert, if_neg (elsewhere other there unfinished), stored]
  | joined idle other guest there joinable rooms codes =>
      refine ⟨room, ?_, finished⟩
      have waiting : other.status ≠ .finished := by
        rw [joinable.1]
        exact RoomStatus.noConfusion
      rw [rooms, lookup_insert, if_neg (elsewhere other there waiting), stored]
  | removed other there released gone leaves codes =>
      obtain ⟨later, kept, spectators, rfl⟩ :=
        (leaves roomId (elsewhere other there (playing other released))).kept stored
      exact ⟨_, kept, finished⟩
  | returned other there released rolling rooms codes =>
      refine ⟨room, ?_, finished⟩
      rw [rooms, lookup_insert, if_neg (elsewhere other there (playing other released)), stored]

/-- What keeps the player index exact. -/
def Careful (manager : RoomManager) (input : RoomStep) : Prop :=
  manager.Fresh input ∧ PairsUsers input ∧ manager.SparesFinished input

theorem PlayersAgree.run {manager : RoomManager} (players : manager.PlayersAgree)
    {inputs : List RoomStep}
    (careful : ∀ visit ∈ Trace.visits step manager inputs, visit.1.Careful visit.2) :
    (Trace.run step manager inputs).PlayersAgree :=
  Trace.run_rule (motive := PlayersAgree) Careful
    (fun _ _ guarded agrees => step_playersAgree agrees guarded.1 guarded.2.1 guarded.2.2)
    inputs manager careful players

theorem KeepsFinished.run {roomId : RoomId} {inputs : List RoomStep} : ∀ {manager : RoomManager},
    manager.KeepsFinished roomId → manager.PlayersAgree →
    (∀ visit ∈ Trace.visits RoomManager.step manager inputs, visit.1.Careful visit.2) →
      (Trace.run RoomManager.step manager inputs).KeepsFinished roomId := by
  induction inputs with
  | nil => exact fun kept _ _ => kept
  | cons input rest ih =>
      intro manager kept players careful
      obtain ⟨fresh, pairs, spares⟩ := careful (manager, input) List.mem_cons_self
      exact ih (kept.step players fresh spares) (step_playersAgree players fresh pairs spares)
        fun visit member => careful visit (List.mem_cons_of_mem _ member)

/-! ## What a run leaves -/

/-- **When nothing outlives its connection.** A run that closes every connection after
its last use leaves all tables empty if it finishes no room. A run that finishes a
room, and does not discard or roll back a finished one, leaves a room. -/
theorem run_cleared (inputs : List RoomStep)
    (fresh : ∀ visit ∈ Trace.visits step {} inputs, visit.1.Fresh visit.2)
    (pairs : ∀ visit ∈ Trace.visits step {} inputs, PairsUsers visit.2)
    (closed : Closed inputs) :
    ((∀ visit ∈ Trace.visits step {} inputs, ¬ visit.1.Finishes visit.2) →
      (Trace.run step {} inputs).Cleared) ∧
    ((∀ visit ∈ Trace.visits step {} inputs, visit.1.SparesFinished visit.2) →
      (Trace.run step {} inputs).Cleared →
        ∀ visit ∈ Trace.visits step {} inputs, ¬ visit.1.Finishes visit.2) := by
  have started : ({} : RoomManager).PlayersAgree :=
    ⟨Filed.empty, Indexes.empty fun _ roomId => not_located (AList.notMem_empty roomId) _⟩
  constructor
  · intro unfinishing
    have held : ({} : RoomManager).Held inputs :=
      { players := started
        hosts := Filed.empty
        codes := Filed.empty
        subscribers := fun _ here => absurd here List.not_mem_nil
        spectators := fun connection here => absurd here (AList.notMem_empty connection)
        once := List.nodup_nil }
    exact held.run closed fun visit member =>
      ⟨fresh visit member, pairs visit member, unfinishing visit member⟩
  · intro spares cleared visit member finishes
    have careful : ∀ visit ∈ Trace.visits step {} inputs, visit.1.Careful visit.2 :=
      fun visit member => ⟨fresh visit member, pairs visit member, spares visit member⟩
    obtain ⟨before, after, split, state⟩ := Trace.visits_split member
    obtain ⟨manager, input⟩ := visit
    rw [split, Trace.visits_append, ← state] at careful
    rw [split, Trace.run_append, ← state] at cleared
    have players : manager.PlayersAgree := by
      have reached : manager = Trace.run step {} before := state
      rw [reached]
      exact started.run fun visit early => careful visit (List.mem_append_left _ early)
    cases input with
    | finishRoom roomId =>
        obtain ⟨room, stored, unfinished⟩ := finishes
        have kept : (manager.step (.finishRoom roomId)).KeepsFinished roomId := by
          refine ⟨{ room with status := .finished }, ?_, rfl⟩
          rw [step, lookup_finishRoom (players.keyed roomId), if_pos rfl, Option.mem_def.mp stored]
          rfl
        have later : ∀ visit ∈ Trace.visits step (manager.step (.finishRoom roomId)) after,
            visit.1.Careful visit.2 := fun visit late =>
          careful visit (List.mem_append_right _ (List.mem_cons_of_mem _ late))
        obtain ⟨finished, there, -⟩ := kept.run (players.finishRoom roomId) later
        have roomless : (Trace.run step (manager.step (.finishRoom roomId)) after).rooms = ∅ :=
          cleared.rooms
        rw [roomless, AList.lookup_empty] at there
        cases there
    | createRoom | joinPublicRoom | joinHiddenRoom | matchPlayers | discardRoom | rollbackJoin
    | watchRoom | leaveSpectator | subscribeLobby | removeConnection => exact finishes

/-- A hidden room is joined and watched, a subscriber looks on, and all go. -/
def allGone : List RoomStep :=
  [.subscribeLobby 14,
    .createRoom { userId := 1, websocket := 11 } (some "Table") "hidden" 100 ["ABC234"],
    .joinHiddenRoom "ABC234" { userId := 2, websocket := 12 },
    .watchRoom 100 { userId := 3, websocket := 13 },
    .removeConnection 2 12, .removeConnection 1 11, .removeConnection 3 13,
    .removeConnection 4 14]

theorem run_cleared_allGone :
    ((∀ visit ∈ Trace.visits step {} allGone, ¬ visit.1.Finishes visit.2) →
      (Trace.run step {} allGone).Cleared) ∧
    ((∀ visit ∈ Trace.visits step {} allGone, visit.1.SparesFinished visit.2) →
      (Trace.run step {} allGone).Cleared →
        ∀ visit ∈ Trace.visits step {} allGone, ¬ visit.1.Finishes visit.2) :=
  run_cleared allGone (by decide +kernel) (by decide +kernel) (by decide +kernel)

/-- A matched game ends, and both players go. -/
def finishedGame : List RoomStep :=
  [.matchPlayers { userId := 1, websocket := 11 } { userId := 2, websocket := 12 } 100 "a0b1c2",
    .finishRoom 100, .removeConnection 1 11, .removeConnection 2 12]

/-- The finished room is stored for good. -/
theorem finishedGame_remains :
    Closed finishedGame ∧ ¬ (Trace.run step {} finishedGame).Cleared := by
  refine ⟨by decide +kernel, fun cleared => ?_⟩
  have remains : 100 ∈ (Trace.run step {} finishedGame).rooms := by decide +kernel
  rw [cleared.rooms] at remains
  exact AList.notMem_empty 100 remains

end RoomManager

end KungFuChess

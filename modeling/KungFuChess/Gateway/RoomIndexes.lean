import KungFuChess.Gateway.RoomManager
import KungFuChess.Library.Trace

/-!
# The indexes of the rooms

The player index of a `RoomManager` holds exactly the players of the rooms that
are not finished, and the spectator index the spectators of the stored rooms. The
first holds after any operations; the second fails after `discardRoom` of a room
that is watched, which removes the room and leaves its spectators in the index.
-/

set_option autoImplicit false

namespace KungFuChess

open ReverseIndex

namespace GameRoom

/-- A user plays in a room that is not finished. -/
def Seats (room : GameRoom) (userId : UserId) : Prop :=
  room.status ≠ .finished ∧ userId ∈ room.players

/-- A connection is among the spectators. -/
def Watched (room : GameRoom) (connection : ConnectionId) : Prop := connection ∈ room.spectators

/-- A room is stored under its own identifier, and its players are two users. -/
def Proper (roomId : RoomId) (room : GameRoom) : Prop :=
  room.roomId = roomId ∧ ∀ guest ∈ room.guest, guest.userId ≠ room.host.userId

theorem mem_players {room : GameRoom} {userId : UserId} :
    userId ∈ room.players ↔
      userId = room.host.userId ∨ ∃ guest ∈ room.guest, guest.userId = userId := by
  simp only [players, List.mem_cons, Option.mem_toList, Option.mem_def, Option.map_eq_some_iff]

end GameRoom

namespace RoomManager

/-! ## The player index -/

/-- A user plays in an unfinished room that is stored under this identifier. -/
def Plays (manager : RoomManager) : UserId → RoomId → Prop := Located manager.rooms GameRoom.Seats

/-- The rooms and the player index are as they should be. -/
structure PlayersAgree (manager : RoomManager) : Prop where
  filed : Filed manager.rooms fun roomId room => room.Proper roomId
  indexed : Indexes manager.playerRoomByUser manager.Plays

namespace PlayersAgree

variable {manager : RoomManager} {room : GameRoom} {roomId : RoomId}

/-- What the invariant says depends on two of the tables. -/
theorem of_tables {next : RoomManager} (agrees : manager.PlayersAgree)
    (rooms : next.rooms = manager.rooms)
    (players : next.playerRoomByUser = manager.playerRoomByUser) : next.PlayersAgree :=
  ⟨rooms ▸ agrees.filed, by rw [Plays, rooms, players]; exact agrees.indexed⟩

/-- A room is stored again with the same players. -/
theorem restored (agrees : manager.PlayersAgree) (stored : manager.rooms.lookup roomId = some room)
    (changed : GameRoom) (id : changed.roomId = room.roomId) (host : changed.host = room.host)
    (guest : changed.guest = room.guest) (status : changed.status = room.status) :
    { manager with rooms := manager.rooms.insert roomId changed : RoomManager }.PlayersAgree where
  filed := agrees.filed.insert (by
    have proper := agrees.filed _ _ stored
    exact ⟨id.trans proper.1, by rw [host, guest]; exact proper.2⟩)
  indexed := agrees.indexed.keep fun key => by
    rw [located_of_lookup stored]
    simp only [GameRoom.Seats, GameRoom.players, host, guest, status]

theorem openRoom (agrees : manager.PlayersAgree) (host : ConnectedUser) (name : String)
    (visibility : RoomVisibility) (roomCode : Option String) (fresh : roomId ∉ manager.rooms)
    (free : host.userId ∉ manager.playerRoomByUser) :
    (manager.openRoom host name visibility roomId roomCode).2.PlayersAgree where
  filed := agrees.filed.insert ⟨rfl, fun _ none => absurd none.symm (Option.some_ne_none _)⟩
  indexed := agrees.indexed.grow free fun key => by
    rw [or_iff_right (not_located fresh key)]
    simp only [GameRoom.Seats, GameRoom.players, ne_eq, reduceCtorEq, not_false_eq_true, true_and,
      Option.map_none, Option.toList_none, List.mem_singleton]

theorem seatGuest (agrees : manager.PlayersAgree) {guest : ConnectedUser}
    (vacancy : manager.Vacancy room guest) : (manager.seatGuest room guest).2.PlayersAgree := by
  obtain ⟨⟨roomId, stored⟩, other, free, waiting, vacant⟩ := vacancy
  have named : room.roomId = roomId := (agrees.filed _ _ stored).1
  subst named
  constructor
  case filed =>
    exact agrees.filed.insert ⟨rfl, fun _ same => Option.some.inj same ▸ other.symm⟩
  case indexed =>
    refine agrees.indexed.grow free fun key => ?_
    rw [located_of_lookup stored]
    simp only [GameRoom.Seats, GameRoom.players, waiting, vacant, ne_eq, reduceCtorEq,
      not_false_eq_true, true_and, Option.map_none, Option.toList_none, Option.map_some,
      Option.toList_some, List.mem_cons, List.not_mem_nil, or_false]

theorem matchPlayers (agrees : manager.PlayersAgree) {first second : ConnectedUser}
    (suffix : String)
    (fresh : roomId ∉ manager.rooms) (distinct : first.userId ≠ second.userId) :
    (manager.settle (manager.matchPlayers first second roomId suffix) Prod.snd).PlayersAgree := by
  rw [RoomManager.matchPlayers]
  split
  · exact agrees
  · next free =>
      rw [not_or] at free
      constructor
      case filed =>
        exact agrees.filed.insert ⟨rfl, fun _ same => Option.some.inj same ▸ distinct.symm⟩
      case indexed =>
        -- The room is first seen with its host alone, then with both players.
        let alone : GameRoom :=
          { roomId := roomId, name := "Quick Match " ++ suffix, visibility := .visible
            host := first, status := .active }
        have hosted : Indexes (manager.playerRoomByUser.insert first.userId roomId)
            (Located (manager.rooms.insert roomId alone) GameRoom.Seats) :=
          agrees.indexed.grow free.1 fun key => by
            rw [or_iff_right (not_located fresh key)]
            simp only [alone, GameRoom.Seats, GameRoom.players, ne_eq, reduceCtorEq,
              not_false_eq_true, true_and, Option.map_none, Option.toList_none, List.mem_singleton]
        have unseated : second.userId ∉ manager.playerRoomByUser.insert first.userId roomId := by
          rw [AList.mem_insert, not_or]
          exact ⟨distinct.symm, free.2⟩
        let both : GameRoom :=
          { alone with guest := some second, white := some first, black := some second }
        have seated : Indexes
            ((manager.playerRoomByUser.insert first.userId roomId).insert second.userId roomId)
            (Located ((manager.rooms.insert roomId alone).insert roomId both) GameRoom.Seats) :=
          hosted.grow unseated fun key => by
            rw [located_of_lookup (AList.lookup_insert _)]
            simp only [both, alone, GameRoom.Seats, GameRoom.players, ne_eq, reduceCtorEq,
              not_false_eq_true, true_and, Option.map_none, Option.toList_none, Option.map_some,
              Option.toList_some, List.mem_cons, List.not_mem_nil, or_false]
        rw [AList.insert_insert] at seated
        exact seated

theorem discardRoom (agrees : manager.PlayersAgree)
    (unfinished : ∀ room ∈ manager.rooms.lookup roomId, room.status ≠ .finished) :
    (manager.discardRoom roomId).PlayersAgree := by
  rw [RoomManager.discardRoom]
  split
  · exact agrees
  · next room stored =>
      refine ⟨agrees.filed.erase roomId, agrees.indexed.drop room.players fun key => ?_⟩
      rw [located_of_lookup stored, GameRoom.Seats, and_iff_right (unfinished room stored)]

theorem rollbackJoin (agrees : manager.PlayersAgree) {guestId : UserId}
    (unfinished : ∀ room ∈ manager.rooms.lookup roomId, room.status ≠ .finished) :
    (manager.rollbackJoin roomId guestId).PlayersAgree := by
  rw [RoomManager.rollbackJoin]
  split
  · exact agrees
  · next room stored =>
      have proper := agrees.filed _ _ stored
      have playing := unfinished room stored
      split
      · next joined =>
          obtain ⟨guest, seated, named⟩ :
              ∃ guest, room.guest = some guest ∧ guest.userId = guestId := by
            simpa only [GameRoom.isUser, Option.any_eq_true, decide_eq_true_eq] using joined
          have apart := proper.2 guest seated
          rw [named] at apart
          obtain rfl := proper.1
          constructor
          case filed =>
            exact agrees.filed.insert ⟨rfl, fun _ none => absurd none.symm (Option.some_ne_none _)⟩
          case indexed =>
            refine agrees.indexed.shrink [guestId] (fun key only => ?_) fun key => ?_
            · rw [located_of_lookup stored, List.mem_singleton.mp only]
              exact ⟨playing, GameRoom.mem_players.mpr (.inr ⟨guest, seated, named⟩)⟩
            · rw [located_of_lookup stored]
              simp only [GameRoom.Seats, GameRoom.players, playing, seated, named, ne_eq,
                reduceCtorEq,
                not_false_eq_true, true_and, Option.map_none, Option.toList_none, Option.map_some,
                Option.toList_some, List.mem_cons, List.not_mem_nil, or_false]
              constructor
              · rintro rfl
                exact ⟨.inl rfl, apart.symm⟩
              · exact fun ⟨either, other⟩ => either.resolve_right other
      · exact agrees

theorem watchRoom (agrees : manager.PlayersAgree) (spectator : ConnectedUser) :
    (manager.settle (manager.watchRoom roomId spectator) Prod.snd).PlayersAgree := by
  rw [RoomManager.watchRoom]
  split
  · exact agrees
  · next room stored =>
      split
      · exact agrees
      · split
        · exact agrees
        · split
          · exact agrees
          · obtain rfl := (agrees.filed _ _ stored).1
            exact (agrees.restored stored
              { room with spectators := room.spectators.insert spectator.websocket spectator }
              rfl rfl rfl rfl).of_tables rfl rfl

theorem dropSpectator (agrees : manager.PlayersAgree) (roomId : RoomId)
    (connection : ConnectionId) :
    (manager.dropSpectator roomId connection).PlayersAgree := by
  cases stored : manager.rooms.lookup roomId with
  | none => exact agrees.of_tables (by rw [RoomManager.dropSpectator, stored]) rfl
  | some room =>
      exact (agrees.restored stored
          { room with spectators := room.spectators.erase connection } rfl rfl rfl rfl).of_tables
        (by rw [RoomManager.dropSpectator, stored]) rfl

theorem finishRoom (agrees : manager.PlayersAgree) (roomId : RoomId) :
    (manager.finishRoom roomId).PlayersAgree := by
  rw [RoomManager.finishRoom]
  split
  · exact agrees
  · next room stored =>
      split
      · exact agrees
      · next unfinished =>
          have proper := agrees.filed _ _ stored
          obtain rfl := proper.1
          refine ⟨agrees.filed.insert ⟨rfl, proper.2⟩,
            agrees.indexed.shrink room.players (fun key seated => ?_) fun key => ?_⟩
          · rw [located_of_lookup stored]
            exact ⟨unfinished, seated⟩
          · rw [located_of_lookup stored]
            exact iff_of_false (fun seated => seated.1 rfl) fun left => left.2 left.1.2

/-- A room that is not finished is removed. -/
theorem removeRoom (agrees : manager.PlayersAgree)
    (stored : manager.rooms.lookup roomId = some room)
    (unfinished : room.status ≠ .finished) : (manager.removeRoom room).PlayersAgree := by
  obtain rfl := (agrees.filed _ _ stored).1
  refine ⟨agrees.filed.erase room.roomId, agrees.indexed.drop room.players fun key => ?_⟩
  rw [located_of_lookup stored, GameRoom.Seats, and_iff_right unfinished]

theorem closeSpectator (agrees : manager.PlayersAgree) (connection : ConnectionId) :
    (manager.closeSpectator connection).2.PlayersAgree := by
  rw [RoomManager.closeSpectator]
  split
  · exact agrees.of_tables rfl rfl
  · next roomId _ =>
      have quiet : { manager with
          lobbySubscribers := manager.lobbySubscribers.erase connection :
            RoomManager }.PlayersAgree :=
        agrees.of_tables rfl rfl
      exact quiet.dropSpectator roomId connection

theorem removeConnection (agrees : manager.PlayersAgree) (userId : UserId)
    (connection : ConnectionId) : (manager.removeConnection userId connection).2.PlayersAgree := by
  have agrees := agrees.closeSpectator connection
  simp only [RoomManager.removeConnection]
  split
  · exact agrees
  · next room found =>
      obtain ⟨roomId, indexed, stored⟩ := Option.bind_eq_some_iff.mp found
      split
      · have seated := (agrees.indexed userId roomId).mp indexed
        rw [Plays, located_of_lookup stored] at seated
        exact agrees.removeRoom stored seated.1
      · exact agrees

theorem createRoom (agrees : manager.PlayersAgree) (host : ConnectedUser) (name : Option String)
    (visibility : String) (draws : List String) (fresh : roomId ∉ manager.rooms) :
    (manager.step (.createRoom host name visibility roomId draws)).PlayersAgree := by
  rcases manager.createRoom_cases host name visibility roomId draws with
    same | ⟨free, validatedName, opened | ⟨code, -, opened⟩⟩
  · rw [same]
    exact agrees
  · exact opened ▸ agrees.openRoom host validatedName .visible none fresh free
  · exact opened ▸ agrees.openRoom host validatedName .hidden (some code) fresh free

end PlayersAgree

/-- A room is stored under an identifier that no stored room has. -/
def Fresh (manager : RoomManager) : RoomStep → Prop
  | .createRoom _ _ _ roomId _ => roomId ∉ manager.rooms
  | .matchPlayers _ _ roomId _ => roomId ∉ manager.rooms
  | _ => True

/-- What the callers of the operations see to. -/
def Admitted (manager : RoomManager) : RoomStep → Prop
  | .matchPlayers first second _ _ => first.userId ≠ second.userId
  | .discardRoom roomId => ∀ room ∈ manager.rooms.lookup roomId, room.status = .active
  | .rollbackJoin roomId _ => ∀ room ∈ manager.rooms.lookup roomId, room.status = .active
  | _ => True

instance (manager : RoomManager) (input : RoomStep) : Decidable (manager.Fresh input) :=
  match input with
  | .createRoom _ _ _ roomId _ => inferInstanceAs (Decidable (roomId ∉ manager.rooms))
  | .matchPlayers _ _ roomId _ => inferInstanceAs (Decidable (roomId ∉ manager.rooms))
  | .joinPublicRoom .. | .joinHiddenRoom .. | .discardRoom _ | .rollbackJoin .. | .watchRoom ..
  | .leaveSpectator .. | .finishRoom _ | .subscribeLobby _ | .removeConnection .. =>
      inferInstanceAs (Decidable True)

instance (manager : RoomManager) (input : RoomStep) : Decidable (manager.Admitted input) :=
  match input with
  | .matchPlayers first second _ _ => inferInstanceAs (Decidable (first.userId ≠ second.userId))
  | .discardRoom roomId | .rollbackJoin roomId _ =>
      inferInstanceAs (Decidable (∀ room ∈ manager.rooms.lookup roomId, room.status = .active))
  | .createRoom .. | .joinPublicRoom .. | .joinHiddenRoom .. | .watchRoom .. | .leaveSpectator ..
  | .finishRoom _ | .subscribeLobby _ | .removeConnection .. => inferInstanceAs (Decidable True)

/-- Two different users are matched. -/
def PairsUsers : RoomStep → Prop
  | .matchPlayers first second _ _ => first.userId ≠ second.userId
  | _ => True

/-- No finished room is discarded, and no join of one is rolled back. -/
def SparesFinished (manager : RoomManager) : RoomStep → Prop
  | .discardRoom roomId => ∀ room ∈ manager.rooms.lookup roomId, room.status ≠ .finished
  | .rollbackJoin roomId _ => ∀ room ∈ manager.rooms.lookup roomId, room.status ≠ .finished
  | _ => True

instance : ∀ input : RoomStep, Decidable (PairsUsers input)
  | .matchPlayers first second _ _ => inferInstanceAs (Decidable (first.userId ≠ second.userId))
  | .createRoom .. | .joinPublicRoom .. | .joinHiddenRoom .. | .discardRoom _ | .rollbackJoin ..
  | .watchRoom .. | .leaveSpectator .. | .finishRoom _ | .subscribeLobby _
  | .removeConnection .. => inferInstanceAs (Decidable True)

theorem Admitted.pairsUsers {manager : RoomManager} {input : RoomStep}
    (admitted : manager.Admitted input) : PairsUsers input := by
  cases input with
  | matchPlayers => exact admitted
  | createRoom | joinPublicRoom | joinHiddenRoom | discardRoom | rollbackJoin | watchRoom
  | leaveSpectator | finishRoom | subscribeLobby | removeConnection => trivial

theorem Admitted.sparesFinished {manager : RoomManager} {input : RoomStep}
    (admitted : manager.Admitted input) : manager.SparesFinished input := by
  have playing : ∀ room : GameRoom, room.status = .active → room.status ≠ .finished := by
    intro room active
    rw [active]
    exact RoomStatus.noConfusion
  cases input with
  | discardRoom => exact fun room stored => playing room (admitted room stored)
  | rollbackJoin => exact fun room stored => playing room (admitted room stored)
  | createRoom | joinPublicRoom | joinHiddenRoom | matchPlayers | watchRoom | leaveSpectator
  | finishRoom | subscribeLobby | removeConnection => trivial

/-- Every operation keeps the player index. -/
theorem step_playersAgree {manager : RoomManager} (agrees : manager.PlayersAgree)
    {input : RoomStep} (fresh : manager.Fresh input) (pairs : PairsUsers input)
    (spares : manager.SparesFinished input) : (manager.step input).PlayersAgree := by
  cases input with
  | createRoom host name visibility roomId draws =>
      exact agrees.createRoom host name visibility draws fresh
  | joinPublicRoom roomId guest =>
      rcases joinPublicRoom_cases roomId guest with same | ⟨room, vacancy, seated⟩
      · rw [same]
        exact agrees
      · exact seated ▸ agrees.seatGuest vacancy
  | joinHiddenRoom code guest =>
      rcases joinHiddenRoom_cases code guest with same | ⟨room, vacancy, seated⟩
      · rw [same]
        exact agrees
      · exact seated ▸ agrees.seatGuest vacancy
  | matchPlayers first second roomId suffix => exact agrees.matchPlayers suffix fresh pairs
  | discardRoom roomId => exact agrees.discardRoom spares
  | rollbackJoin roomId guestId => exact agrees.rollbackJoin spares
  | watchRoom roomId spectator => exact agrees.watchRoom spectator
  | leaveSpectator connection roomId =>
      rw [step, leaveSpectator]
      split
      · exact agrees
      · exact agrees.dropSpectator roomId connection
  | finishRoom roomId => exact agrees.finishRoom roomId
  | subscribeLobby connection =>
      rw [step, subscribeLobby]
      split
      · exact agrees
      · exact agrees.of_tables rfl rfl
  | removeConnection userId connection => exact agrees.removeConnection userId connection

/-- **The player index is exact.** After any operations the index sends a user to a
room just in case the room is stored, is not finished and has the user as host or
guest; so nobody plays in two unfinished rooms. -/
theorem run_playerRoomByUser (inputs : List RoomStep)
    (fresh : ∀ visit ∈ Trace.visits step {} inputs, visit.1.Fresh visit.2)
    (admitted : ∀ visit ∈ Trace.visits step {} inputs, visit.1.Admitted visit.2) :
    (∀ userId roomId,
      (Trace.run step {} inputs).playerRoomByUser.lookup userId = some roomId ↔
        ∃ room, (Trace.run step {} inputs).rooms.lookup roomId = some room ∧
          room.status ≠ .finished ∧ userId ∈ room.players) ∧
    ∀ userId first second, (Trace.run step {} inputs).Plays userId first →
      (Trace.run step {} inputs).Plays userId second → first = second := by
  have agrees : (Trace.run step {} inputs).PlayersAgree :=
    Trace.run_rule (motive := PlayersAgree)
      (fun manager input => manager.Fresh input ∧ manager.Admitted input)
      (fun _ _ guarded agrees => step_playersAgree agrees guarded.1 guarded.2.pairsUsers
        guarded.2.sparesFinished) inputs {}
      (fun visit member => ⟨fresh visit member, admitted visit member⟩)
      ⟨Filed.empty, Indexes.empty fun _ roomId => not_located (AList.notMem_empty roomId) _⟩
  exact ⟨agrees.indexed, fun _ _ _ => agrees.indexed.unique⟩

/-- A room is joined, the join is rolled back, another guest joins, and a matched
game is finished by then. -/
def busyLobby : List RoomStep :=
  [.createRoom { userId := 1, websocket := 11 } (some "Table") "public" 100 [],
    .joinPublicRoom 100 { userId := 2, websocket := 12 },
    .rollbackJoin 100 2,
    .matchPlayers { userId := 2, websocket := 12 } { userId := 3, websocket := 13 } 101 "a0b1c2",
    .joinPublicRoom 100 { userId := 4, websocket := 14 },
    .finishRoom 101]

theorem run_playerRoomByUser_busyLobby :
    (∀ userId roomId,
      (Trace.run step {} busyLobby).playerRoomByUser.lookup userId = some roomId ↔
        ∃ room, (Trace.run step {} busyLobby).rooms.lookup roomId = some room ∧
          room.status ≠ .finished ∧ userId ∈ room.players) ∧
    ∀ userId first second, (Trace.run step {} busyLobby).Plays userId first →
      (Trace.run step {} busyLobby).Plays userId second → first = second :=
  run_playerRoomByUser busyLobby (by decide +kernel) (by decide +kernel)

/-! ## The spectator index -/

/-- A connection watches a room that is stored under this identifier. -/
def Watches (manager : RoomManager) : ConnectionId → RoomId → Prop :=
  Located manager.rooms GameRoom.Watched

/-- The rooms and the spectator index are as they should be. -/
structure SpectatorsAgree (manager : RoomManager) : Prop where
  filed : Filed manager.rooms fun roomId room => room.roomId = roomId
  indexed : Indexes manager.spectatorRoomByConnection manager.Watches

namespace SpectatorsAgree

variable {manager : RoomManager} {room : GameRoom} {roomId : RoomId}

theorem of_tables {next : RoomManager} (agrees : manager.SpectatorsAgree)
    (rooms : next.rooms = manager.rooms)
    (spectators : next.spectatorRoomByConnection = manager.spectatorRoomByConnection) :
    next.SpectatorsAgree :=
  ⟨rooms ▸ agrees.filed, by rw [Watches, rooms, spectators]; exact agrees.indexed⟩

/-- A room is stored again with the same spectators. -/
theorem restored (agrees : manager.SpectatorsAgree)
    (stored : manager.rooms.lookup roomId = some room) (changed : GameRoom)
    (id : changed.roomId = room.roomId) (spectators : changed.spectators = room.spectators) :
    (manager.storeRoom changed).SpectatorsAgree := by
  have named := id.trans (agrees.filed _ _ stored)
  rw [storeRoom, named]
  refine ⟨agrees.filed.insert named, agrees.indexed.keep fun key => ?_⟩
  rw [located_of_lookup stored, GameRoom.Watched, spectators, GameRoom.Watched]

/-- A new room has no spectators. -/
theorem opened (agrees : manager.SpectatorsAgree) (fresh : roomId ∉ manager.rooms)
    (opened : GameRoom) (id : opened.roomId = roomId) (unwatched : opened.spectators = ∅) :
    (manager.storeRoom opened).SpectatorsAgree := by
  rw [storeRoom, id]
  refine ⟨agrees.filed.insert id, agrees.indexed.keep fun key => ?_⟩
  rw [GameRoom.Watched, unwatched]
  exact iff_of_false (AList.notMem_empty key) (not_located fresh key)

theorem seatGuest (agrees : manager.SpectatorsAgree) {guest : ConnectedUser}
    (vacancy : manager.Vacancy room guest) : (manager.seatGuest room guest).2.SpectatorsAgree := by
  obtain ⟨roomId, stored⟩ := vacancy.stored
  exact (agrees.restored stored (manager.seatGuest room guest).1 rfl rfl).of_tables rfl rfl

/-- An unwatched room is discarded. -/
theorem discardRoom (agrees : manager.SpectatorsAgree)
    (unwatched : ∀ room ∈ manager.rooms.lookup roomId, room.spectators.keys = []) :
    (manager.discardRoom roomId).SpectatorsAgree := by
  rw [RoomManager.discardRoom]
  split
  · exact agrees
  · next room stored =>
      refine ⟨agrees.filed.erase roomId, agrees.indexed.drop [] fun key => ?_⟩
      rw [located_of_lookup stored, GameRoom.Watched, AList.mem_keys, unwatched room stored]

theorem rollbackJoin (agrees : manager.SpectatorsAgree) (roomId : RoomId) (guestId : UserId) :
    (manager.rollbackJoin roomId guestId).SpectatorsAgree := by
  rw [RoomManager.rollbackJoin]
  split
  · exact agrees
  · next room stored =>
      split
      · exact (agrees.restored stored
          { room with guest := none, white := none, black := none, status := .waiting }
          rfl rfl).of_tables rfl rfl
      · exact agrees

theorem watchRoom (agrees : manager.SpectatorsAgree) (roomId : RoomId) (spectator : ConnectedUser) :
    (manager.settle (manager.watchRoom roomId spectator) Prod.snd).SpectatorsAgree := by
  rw [RoomManager.watchRoom]
  split
  · exact agrees
  · next room stored =>
      split
      · exact agrees
      · split
        · exact agrees
        · split
          · exact agrees
          · next elsewhere =>
              obtain rfl := agrees.filed _ _ stored
              refine ⟨agrees.filed.insert rfl, agrees.indexed.grow elsewhere fun key => ?_⟩
              rw [located_of_lookup stored, GameRoom.Watched, GameRoom.Watched, AList.mem_insert,
                or_comm]

/-- A connection leaves the room it watches. -/
theorem dropSpectator (agrees : manager.SpectatorsAgree) {connection : ConnectionId}
    (watching : manager.spectatorRoomByConnection.lookup connection = some roomId) :
    (manager.dropSpectator roomId connection).SpectatorsAgree := by
  have here := (agrees.indexed connection roomId).mp watching
  obtain ⟨room, stored, -⟩ := id here
  have named := agrees.filed _ _ stored
  rw [RoomManager.dropSpectator, stored]
  refine ⟨agrees.filed.insert named,
    agrees.indexed.shrink [connection] (fun key only => ?_) fun key => ?_⟩
  · exact List.mem_singleton.mp only ▸ here
  · rw [located_of_lookup stored, GameRoom.Watched, GameRoom.Watched, AList.mem_erase,
      List.mem_singleton, and_comm]

theorem finishRoom (agrees : manager.SpectatorsAgree) (roomId : RoomId) :
    (manager.finishRoom roomId).SpectatorsAgree := by
  rw [RoomManager.finishRoom]
  split
  · exact agrees
  · next room stored =>
      split
      · exact agrees
      · exact (agrees.restored stored
          { room with status := .finished }
          rfl rfl).of_tables rfl rfl

theorem removeRoom (agrees : manager.SpectatorsAgree)
    (stored : manager.rooms.lookup roomId = some room) :
      (manager.removeRoom room).SpectatorsAgree := by
  obtain rfl := agrees.filed _ _ stored
  refine ⟨agrees.filed.erase room.roomId, agrees.indexed.drop room.spectators.keys fun key => ?_⟩
  rw [located_of_lookup stored, GameRoom.Watched, AList.mem_keys]

theorem removeConnection (agrees : manager.SpectatorsAgree) (userId : UserId)
    (connection : ConnectionId) :
    (manager.removeConnection userId connection).2.SpectatorsAgree := by
  have closed : (manager.closeSpectator connection).2.SpectatorsAgree := by
    have quiet : { manager with
        lobbySubscribers := manager.lobbySubscribers.erase connection :
          RoomManager }.SpectatorsAgree :=
      agrees.of_tables rfl rfl
    rw [closeSpectator]
    split
    · exact quiet
    · next watching => exact quiet.dropSpectator watching
  simp only [RoomManager.removeConnection]
  split
  · exact closed
  · next room found =>
      obtain ⟨_, _, stored⟩ := Option.bind_eq_some_iff.mp found
      split
      · exact closed.removeRoom stored
      · exact closed

theorem createRoom (agrees : manager.SpectatorsAgree) (host : ConnectedUser) (name : Option String)
    (visibility : String) (draws : List String) (fresh : roomId ∉ manager.rooms) :
    (manager.step (.createRoom host name visibility roomId draws)).SpectatorsAgree := by
  have openRoom : ∀ name visibility roomCode,
      (manager.openRoom host name visibility roomId roomCode).2.SpectatorsAgree :=
    fun name visibility roomCode => (agrees.opened fresh
      (manager.openRoom host name visibility roomId roomCode).1 rfl rfl).of_tables rfl rfl
  rcases manager.createRoom_cases host name visibility roomId draws with
    same | ⟨-, validatedName, opened | ⟨code, -, opened⟩⟩
  · rw [same]
    exact agrees
  · exact opened ▸ openRoom validatedName .visible none
  · exact opened ▸ openRoom validatedName .hidden (some code)

end SpectatorsAgree

/-- The operation discards no room that is watched. -/
def DiscardsUnwatched (manager : RoomManager) : RoomStep → Prop
  | .discardRoom roomId => ∀ room ∈ manager.rooms.lookup roomId, room.spectators.keys = []
  | _ => True

instance (manager : RoomManager) (input : RoomStep) : Decidable (manager.DiscardsUnwatched input) :=
  match input with
  | .discardRoom roomId =>
      inferInstanceAs (Decidable (∀ room ∈ manager.rooms.lookup roomId, room.spectators.keys = []))
  | .createRoom .. | .joinPublicRoom .. | .joinHiddenRoom .. | .matchPlayers .. | .rollbackJoin ..
  | .watchRoom .. | .leaveSpectator .. | .finishRoom _ | .subscribeLobby _
  | .removeConnection .. => inferInstanceAs (Decidable True)

/-- Every operation that discards no watched room keeps the spectator index. -/
theorem step_spectatorsAgree {manager : RoomManager} (agrees : manager.SpectatorsAgree)
    {input : RoomStep} (fresh : manager.Fresh input) (unwatched : manager.DiscardsUnwatched input) :
    (manager.step input).SpectatorsAgree := by
  cases input with
  | createRoom host name visibility roomId draws =>
      exact agrees.createRoom host name visibility draws fresh
  | joinPublicRoom roomId guest =>
      rcases joinPublicRoom_cases roomId guest with same | ⟨room, vacancy, seated⟩
      · rw [same]
        exact agrees
      · exact seated ▸ agrees.seatGuest vacancy
  | joinHiddenRoom code guest =>
      rcases joinHiddenRoom_cases code guest with same | ⟨room, vacancy, seated⟩
      · rw [same]
        exact agrees
      · exact seated ▸ agrees.seatGuest vacancy
  | matchPlayers first second roomId suffix =>
      rw [step, matchPlayers]
      split
      · exact agrees
      · exact (agrees.opened fresh
          { roomId := roomId, name := "Quick Match " ++ suffix, visibility := .visible,
            host := first, guest := some second, white := some first, black := some second,
            status := .active } rfl rfl).of_tables rfl rfl
  | discardRoom roomId => exact agrees.discardRoom unwatched
  | rollbackJoin roomId guestId => exact agrees.rollbackJoin roomId guestId
  | watchRoom roomId spectator => exact agrees.watchRoom roomId spectator
  | leaveSpectator connection roomId =>
      rw [step, leaveSpectator]
      split
      · exact agrees
      · next watching => exact agrees.dropSpectator (not_not.mp watching)
  | finishRoom roomId => exact agrees.finishRoom roomId
  | subscribeLobby connection =>
      rw [step, subscribeLobby]
      split
      · exact agrees
      · exact agrees.of_tables rfl rfl
  | removeConnection userId connection => exact agrees.removeConnection userId connection

/-- Discarding a watched room leaves its spectators in the index. -/
theorem discardRoom_stale {manager : RoomManager}
    (indexed : Indexes manager.spectatorRoomByConnection manager.Watches) {roomId : RoomId}
    (after : Indexes (manager.discardRoom roomId).spectatorRoomByConnection
      (manager.discardRoom roomId).Watches) : manager.DiscardsUnwatched (.discardRoom roomId) := by
  intro room stored
  rw [discardRoom, Option.mem_def.mp stored] at after
  refine List.eq_nil_iff_forall_not_mem.mpr fun connection watching => ?_
  have there := (indexed connection roomId).mpr
    ((located_of_lookup stored connection).mpr (AList.mem_keys.mpr watching))
  exact ((located_erase roomId roomId connection).mp ((after connection roomId).mp there)).2 rfl

/-- **Exactly when the spectator index is exact.** In every state of a run the index
sends a connection to a room just in case the room is stored and has the connection
among its spectators, if and only if the run discards no room that is watched. -/
theorem run_spectatorRoomByConnection (inputs : List RoomStep)
    (fresh : ∀ visit ∈ Trace.visits step {} inputs, visit.1.Fresh visit.2) :
    (∀ taken, taken <+: inputs → ∀ connection roomId,
      (Trace.run step {} taken).spectatorRoomByConnection.lookup connection = some roomId ↔
        ∃ room, (Trace.run step {} taken).rooms.lookup roomId = some room ∧
          connection ∈ room.spectators) ↔
      ∀ visit ∈ Trace.visits step {} inputs, visit.1.DiscardsUnwatched visit.2 := by
  constructor
  · intro exact visit member
    obtain ⟨before, after, split, state⟩ := Trace.visits_split member
    cases input : visit.2 with
    | discardRoom roomId =>
        rw [input] at split
        have reached : Trace.run step {} (before ++ [.discardRoom roomId]) =
            visit.1.discardRoom roomId := by
          rw [Trace.run_append, ← state]
          rfl
        refine discardRoom_stale ?_ ?_
        · have earlier := exact before (split ▸ List.prefix_append _ _)
          rw [← state] at earlier
          exact earlier
        · have later := exact (before ++ [.discardRoom roomId])
            (split ▸ ⟨after, List.append_assoc before [_] after⟩)
          rw [reached] at later
          exact later
    | createRoom | joinPublicRoom | joinHiddenRoom | matchPlayers | rollbackJoin | watchRoom
    | leaveSpectator | finishRoom | subscribeLobby | removeConnection => trivial
  · rintro unwatched taken ⟨rest, rfl⟩
    have early : ∀ visit ∈ Trace.visits step {} taken,
        visit ∈ Trace.visits step {} (taken ++ rest) := fun visit member => by
      rw [Trace.visits_append]
      exact List.mem_append_left _ member
    have agrees : (Trace.run step {} taken).SpectatorsAgree :=
      Trace.run_rule (motive := SpectatorsAgree)
        (fun manager input => manager.Fresh input ∧ manager.DiscardsUnwatched input)
        (fun _ _ guarded agrees => step_spectatorsAgree agrees guarded.1 guarded.2) taken {}
        (fun visit member => ⟨fresh visit (early visit member),
          unwatched visit (early visit member)⟩)
        ⟨Filed.empty, Indexes.empty fun _ roomId => not_located (AList.notMem_empty roomId) _⟩
    exact agrees.indexed

/-- A matched game is watched, and the spectator leaves before it is discarded. -/
def leftInTime : List RoomStep :=
  [.matchPlayers { userId := 1, websocket := 11 } { userId := 2, websocket := 12 } 100 "a0b1c2",
    .watchRoom 100 { userId := 3, websocket := 13 },
    .leaveSpectator 13 100,
    .discardRoom 100]

theorem run_spectatorRoomByConnection_leftInTime :
    (∀ taken, taken <+: leftInTime → ∀ connection roomId,
      (Trace.run step {} taken).spectatorRoomByConnection.lookup connection = some roomId ↔
        ∃ room, (Trace.run step {} taken).rooms.lookup roomId = some room ∧
          connection ∈ room.spectators) ↔
      ∀ visit ∈ Trace.visits step {} leftInTime, visit.1.DiscardsUnwatched visit.2 :=
  run_spectatorRoomByConnection leftInTime (by decide +kernel)

/-- A matched game is watched while its allocation fails. -/
def discardedWhileWatched : List RoomStep :=
  [.matchPlayers { userId := 1, websocket := 11 } { userId := 2, websocket := 12 } 100 "a0b1c2",
    .watchRoom 100 { userId := 3, websocket := 13 },
    .discardRoom 100]

/-- The spectator stays in the index of a room that no longer exists. -/
theorem discardedWhileWatched_stale :
    ¬ ∀ connection roomId,
      (Trace.run step {} discardedWhileWatched).spectatorRoomByConnection.lookup connection =
          some roomId ↔
        ∃ room, (Trace.run step {} discardedWhileWatched).rooms.lookup roomId = some room ∧
          connection ∈ room.spectators := by
  intro exact
  have indexed : (Trace.run step {} discardedWhileWatched).spectatorRoomByConnection.lookup 13 =
      some 100 := by decide +kernel
  have gone : (Trace.run step {} discardedWhileWatched).rooms.lookup 100 = none :=
    AList.lookup_eq_none.mpr (by decide +kernel)
  obtain ⟨room, stored, -⟩ := (exact 13 100).mp indexed
  rw [gone] at stored
  exact Option.some_ne_none room stored.symm

end RoomManager

end KungFuChess

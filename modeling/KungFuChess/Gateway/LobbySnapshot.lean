import KungFuChess.Gateway.RoomIndexes
import KungFuChess.Gateway.RoomTable
import KungFuChess.Library.TextOrder
import Mathlib.Data.List.Nodup

/-!
# What the lobby shows

The lobby lists the public rooms that wait for a guest and the games that are played,
each in the order of the texts of their creation times. A room may be joined by its
identifier just in case the first list has it, and a game watched just in case the
second has it: this rests on what every operation keeps, that a waiting room has no
guest and that the players of a game are its host and its guest.

`GameRoom` leaves the creation time of a room out; here it is a function of the
identifier, which no two rooms ever share.
-/

set_option autoImplicit false

namespace KungFuChess

open ReverseIndex

/-! ## Creation times -/

namespace DateTime

/-- The numbers of `isoformat` up to the seconds. -/
def layout : List TextOrder.Field :=
  [⟨[], 4⟩, ⟨['-'], 2⟩, ⟨['-'], 2⟩, ⟨['T'], 2⟩, ⟨[':'], 2⟩, ⟨[':'], 2⟩]

end DateTime

/-- A time in UTC: the year, month, day, hour, minute and second, and the microsecond. -/
structure DateTime where
  seconds : List Nat
  microsecond : Nat
  fits : TextOrder.Fits DateTime.layout seconds
  small : microsecond < 10 ^ 6

namespace DateTime

/-- The numbers of a time, by which times are compared. -/
def numbers (time : DateTime) : List Nat := time.seconds ++ [time.microsecond]

/-- The microseconds of `isoformat`, which are left out where there are none. -/
def microseconds (microsecond : Nat) : List Char :=
  if microsecond = 0 then [] else '.' :: TextOrder.digits 6 microsecond

/-- The end of `isoformat`. -/
def fraction (microsecond : Nat) : List Char := microseconds microsecond ++ "+00:00".toList

def isoformat (time : DateTime) : String :=
  String.ofList (TextOrder.render layout time.seconds ++ fraction time.microsecond)

/-- A whole second comes before its fractions, as a plus sign comes before a point. -/
theorem fraction_lt_iff {first second : Nat} (small : first < 10 ^ 6) (small' : second < 10 ^ 6) :
    fraction first < fraction second ↔ first < second := by
  have zone : ∀ number, "+00:00".toList < '.' :: (TextOrder.digits 6 number ++ "+00:00".toList) :=
    fun number => List.Lex.rel (by decide)
  simp only [fraction, microseconds]
  split
  · next whole =>
      split
      · next whole' =>
          rw [whole, whole']
          exact iff_of_false (List.lt_irrefl _) (Nat.lt_irrefl 0)
      · next broken => exact iff_of_true (zone second) (by omega)
  · next broken =>
      split
      · next whole =>
          exact iff_of_false (List.lt_asymm (zone first)) (by omega)
      · rw [List.cons_append, List.cons_append, List.cons_lt_cons_iff,
          TextOrder.append_lt_append_iff (by simp only [TextOrder.length_digits]),
          TextOrder.digits_lt_iff small small']
        simp only [Char.lt_irrefl, true_and, false_or, List.lt_irrefl, and_false, or_false]

/-- **Texts of times sort like times.** -/
theorem isoformat_lt_iff (first second : DateTime) :
    first.isoformat < second.isoformat ↔ first.numbers < second.numbers := by
  have same : TextOrder.render layout first.seconds = TextOrder.render layout second.seconds ↔
      first.seconds = second.seconds :=
    ⟨TextOrder.render_inj first.fits second.fits, congrArg _⟩
  have lengths : first.seconds.length = second.seconds.length :=
    first.fits.length_eq.symm.trans second.fits.length_eq
  rw [isoformat, isoformat, String.lt_iff, String.toList_ofList, String.toList_ofList,
    TextOrder.append_lt_append_iff (TextOrder.length_render first.fits second.fits),
    TextOrder.render_lt_iff first.fits second.fits, same,
    fraction_lt_iff first.small second.small, numbers, numbers,
    TextOrder.append_lt_append_iff lengths, List.cons_lt_cons_iff]
  simp only [List.not_lt_nil, and_false, or_false]

end DateTime

/-! ## Snapshots -/

structure PublicUser where
  id : UserId
  username : String
  rating : Int
  deriving DecidableEq, Repr

def ConnectedUser.publicUser (user : ConnectedUser) : PublicUser :=
  ⟨user.userId, user.username, user.rating⟩

structure WaitingRoom where
  roomId : RoomId
  name : String
  host : PublicUser
  visibility : RoomVisibility
  status : RoomStatus
  createdAt : String
  deriving DecidableEq, Repr

structure ActiveGame where
  roomId : RoomId
  name : String
  white : PublicUser
  black : PublicUser
  status : RoomStatus
  spectatorCount : Nat
  createdAt : String
  deriving DecidableEq, Repr

structure LobbySnapshot where
  waitingRooms : List WaitingRoom
  activeGames : List ActiveGame
  deriving DecidableEq, Repr

namespace GameRoom

/-- The entry of a room that is listed as waiting. -/
def waitingRoom? (createdAt : RoomId → DateTime) (room : GameRoom) : Option WaitingRoom :=
  if room.status = .waiting ∧ room.visibility = .visible then
    some
      { roomId := room.roomId, name := room.name, host := room.host.publicUser
        visibility := room.visibility, status := room.status
        createdAt := (createdAt room.roomId).isoformat }
  else none

/-- The entry of a room that is listed as a game. -/
def activeGame? (createdAt : RoomId → DateTime) (room : GameRoom) : Option ActiveGame :=
  match room.white, room.black with
  | some white, some black =>
      if room.status = .active then
        some
          { roomId := room.roomId, name := room.name, white := white.publicUser
            black := black.publicUser, status := room.status
            spectatorCount := room.spectators.entries.length
            createdAt := (createdAt room.roomId).isoformat }
      else none
  | _, _ => none

end GameRoom

namespace RoomManager

/-- `_snapshot_locked`. Rooms of the same time stand in the order of the table, which
may be another one than the source's. -/
def snapshot (createdAt : RoomId → DateTime) (manager : RoomManager) : LobbySnapshot :=
  let rooms := manager.rooms.entries.reverse.map Sigma.snd
  { waitingRooms := (rooms.filterMap (GameRoom.waitingRoom? createdAt)).mergeSort
      fun first second => decide (first.createdAt ≤ second.createdAt)
    activeGames := (rooms.filterMap (GameRoom.activeGame? createdAt)).mergeSort
      fun first second => decide (first.createdAt ≤ second.createdAt) }

variable {manager : RoomManager} {createdAt : RoomId → DateTime}

theorem mem_sortedRooms {α : Type*} {entry : α} (select : GameRoom → Option α)
    (before : α → α → Bool) :
    entry ∈ ((manager.rooms.entries.reverse.map Sigma.snd).filterMap select).mergeSort before ↔
      ∃ roomId room, manager.rooms.lookup roomId = some room ∧ select room = some entry := by
  rw [List.mem_mergeSort, List.mem_filterMap]
  constructor
  · rintro ⟨room, member, selected⟩
    obtain ⟨⟨roomId, stored⟩, listed, rfl⟩ := List.mem_map.mp member
    exact ⟨roomId, stored, AList.mem_lookup_iff.mpr (List.mem_reverse.mp listed), selected⟩
  · rintro ⟨roomId, room, stored, selected⟩
    exact ⟨room, List.mem_map.mpr ⟨⟨roomId, room⟩,
      List.mem_reverse.mpr (AList.mem_lookup_iff.mp stored), rfl⟩, selected⟩

theorem mem_waitingRooms {entry : WaitingRoom} :
    entry ∈ (manager.snapshot createdAt).waitingRooms ↔
      ∃ roomId room, manager.rooms.lookup roomId = some room ∧
        room.waitingRoom? createdAt = some entry :=
  mem_sortedRooms ..

theorem mem_activeGames {entry : ActiveGame} :
    entry ∈ (manager.snapshot createdAt).activeGames ↔
      ∃ roomId room, manager.rooms.lookup roomId = some room ∧
        room.activeGame? createdAt = some entry :=
  mem_sortedRooms ..

end RoomManager

/-! ## Staged rooms -/

/-- A waiting room has no guest, and the players of a game are its host and its guest. -/
structure GameRoom.Staged (room : GameRoom) : Prop where
  waiting : room.status = .waiting → room.guest = none
  active : room.status = .active → ∃ guest, room.guest = some guest ∧
    room.white = some room.host ∧ room.black = some guest

theorem GameRoom.Staged.alike {room other : GameRoom} (staged : room.Staged)
    (alike : room.Alike other) : other.Staged := by
  obtain ⟨spectators, rfl⟩ := alike
  exact { staged with }

theorem RoomManager.IsMatch.staged {room : GameRoom} {first second : ConnectedUser}
    (isMatch : RoomManager.IsMatch room first second) : room.Staged where
  waiting waiting := by rw [isMatch.status] at waiting; cases waiting
  active _ := ⟨second, isMatch.guest, isMatch.white.trans (congrArg some isMatch.host.symm),
    isMatch.black⟩

namespace RoomManager

/-- The rooms are stored under their identifiers, and staged. -/
def Staged (manager : RoomManager) : Prop :=
  Filed manager.rooms fun roomId room => room.roomId = roomId ∧ room.Staged

namespace Staged

variable {manager : RoomManager}

theorem keyed (staged : manager.Staged) : manager.Keyed :=
  fun roomId room stored => (staged roomId room stored).1

theorem leaves {after : RoomManager} (staged : manager.Staged)
    (leaves : ∀ roomId, manager.Leaves after roomId) : after.Staged := by
  intro roomId room stored
  obtain ⟨was, before, alike⟩ := (leaves roomId).stored stored
  exact ⟨staged.keyed.leaves (leaves roomId) stored, (staged roomId was before).2.alike alike⟩

theorem openRoom (staged : manager.Staged) (host : ConnectedUser) (name : String)
    (visibility : RoomVisibility) (roomId : RoomId) (roomCode : Option String) :
    (manager.openRoom host name visibility roomId roomCode).2.Staged :=
  staged.insert ⟨rfl, fun _ => rfl, RoomStatus.noConfusion⟩

theorem seatGuest (staged : manager.Staged) (room : GameRoom) (guest : ConnectedUser) :
    (manager.seatGuest room guest).2.Staged :=
  staged.insert ⟨rfl, RoomStatus.noConfusion, fun _ => ⟨guest, rfl, rfl, rfl⟩⟩

theorem matchPlayers (staged : manager.Staged) (first second : ConnectedUser) (roomId : RoomId)
    (suffix : String) :
    (manager.settle (manager.matchPlayers first second roomId suffix) Prod.snd).Staged := by
  cases result : manager.matchPlayers first second roomId suffix with
  | error => exact staged
  | ok matched =>
      obtain ⟨own, isMatch, inserted⟩ := matchPlayers_ok result
      have filed : Filed (manager.rooms.insert roomId matched.1) fun roomId room =>
          room.roomId = roomId ∧ room.Staged :=
        staged.insert ⟨own, isMatch.staged⟩
      rw [← inserted] at filed
      exact filed

theorem discardRoom (staged : manager.Staged) (roomId : RoomId) :
    (manager.discardRoom roomId).Staged := by
  rw [RoomManager.discardRoom]
  split
  · exact staged
  · exact staged.erase roomId

theorem rollbackJoin (staged : manager.Staged) (roomId : RoomId) (guestId : UserId) :
    (manager.rollbackJoin roomId guestId).Staged := by
  rw [RoomManager.rollbackJoin]
  split
  · exact staged
  · split
    · exact staged.insert ⟨rfl, fun _ => rfl, RoomStatus.noConfusion⟩
    · exact staged

theorem finishRoom (staged : manager.Staged) (roomId : RoomId) :
    (manager.finishRoom roomId).Staged := by
  rw [RoomManager.finishRoom]
  split
  · exact staged
  · split
    · exact staged
    · exact staged.insert ⟨rfl, RoomStatus.noConfusion, RoomStatus.noConfusion⟩

theorem watchRoom (staged : manager.Staged) (roomId : RoomId) (spectator : ConnectedUser) :
    (manager.settle (manager.watchRoom roomId spectator) Prod.snd).Staged := by
  rw [RoomManager.watchRoom]
  split
  · exact staged
  · next room stored =>
      split
      · exact staged
      · split
        · exact staged
        · split
          · exact staged
          · exact staged.insert ⟨rfl, (staged roomId room stored).2.alike ⟨_, rfl⟩⟩

theorem dropSpectator (staged : manager.Staged) (roomId : RoomId) (connection : ConnectionId) :
    (manager.dropSpectator roomId connection).Staged := by
  cases stored : manager.rooms.lookup roomId with
  | none =>
      rw [Staged, RoomManager.dropSpectator, stored]
      exact staged
  | some room =>
      rw [Staged, RoomManager.dropSpectator, stored]
      obtain ⟨own, scene⟩ := staged roomId room stored
      exact staged.insert ⟨own, scene.alike ⟨_, rfl⟩⟩

theorem removeConnection (staged : manager.Staged) (userId : UserId) (connection : ConnectionId) :
    (manager.removeConnection userId connection).2.Staged := by
  have closed : (manager.closeSpectator connection).2.Staged :=
    staged.leaves (manager.closeSpectator_leaves connection)
  simp only [RoomManager.removeConnection]
  split
  · exact closed
  · split
    · exact closed.erase _
    · exact closed

end Staged

theorem step_staged {manager : RoomManager} (staged : manager.Staged) (input : RoomStep) :
    (manager.step input).Staged := by
  cases input with
  | createRoom host name visibility roomId draws =>
      rcases manager.createRoom_cases host name visibility roomId draws with
        same | ⟨-, validatedName, opened | ⟨code, -, opened⟩⟩
      · rw [same]
        exact staged
      · exact opened ▸ staged.openRoom host validatedName .visible roomId none
      · exact opened ▸ staged.openRoom host validatedName .hidden roomId (some code)
  | joinPublicRoom roomId guest =>
      rcases joinPublicRoom_cases roomId guest with same | ⟨room, -, seated⟩
      · rw [same]
        exact staged
      · exact seated ▸ staged.seatGuest room guest
  | joinHiddenRoom code guest =>
      rcases joinHiddenRoom_cases code guest with same | ⟨room, -, seated⟩
      · rw [same]
        exact staged
      · exact seated ▸ staged.seatGuest room guest
  | matchPlayers first second roomId suffix => exact staged.matchPlayers first second roomId suffix
  | discardRoom roomId => exact staged.discardRoom roomId
  | rollbackJoin roomId guestId => exact staged.rollbackJoin roomId guestId
  | watchRoom roomId spectator => exact staged.watchRoom roomId spectator
  | leaveSpectator connection roomId =>
      rw [step, leaveSpectator]
      split
      · exact staged
      · exact staged.dropSpectator roomId connection
  | finishRoom roomId => exact staged.finishRoom roomId
  | subscribeLobby connection =>
      rw [step, subscribeLobby]
      split
      · exact staged
      · exact staged
  | removeConnection userId connection => exact staged.removeConnection userId connection

end RoomManager

/-! ## What the lists say -/

/-- The users that a snapshot shows: the hosts that wait and the players of the games. -/
def LobbySnapshot.users (snapshot : LobbySnapshot) : List UserId :=
  (snapshot.waitingRooms.map fun room => room.host.id) ++
    snapshot.activeGames.flatMap fun game => [game.white.id, game.black.id]

namespace GameRoom

variable {room : GameRoom} {createdAt : RoomId → DateTime}

theorem waitingRoom?_eq_some {entry : WaitingRoom}
    (listed : room.waitingRoom? createdAt = some entry) :
    room.status = .waiting ∧ room.visibility = .visible ∧ entry.roomId = room.roomId ∧
      entry.host.id = room.host.userId ∧ entry.createdAt = (createdAt room.roomId).isoformat := by
  obtain ⟨⟨waiting, shown⟩, same⟩ := Option.ite_none_right_eq_some.mp listed
  cases same
  exact ⟨waiting, shown, rfl, rfl, rfl⟩

theorem exists_waitingRoom? (createdAt : RoomId → DateTime) (waiting : room.status = .waiting)
    (shown : room.visibility = .visible) : ∃ entry, room.waitingRoom? createdAt = some entry :=
  ⟨_, if_pos ⟨waiting, shown⟩⟩

theorem activeGame?_eq_some {entry : ActiveGame}
    (listed : room.activeGame? createdAt = some entry) :
    room.status = .active ∧ entry.roomId = room.roomId ∧
      room.white.map ConnectedUser.userId = some entry.white.id ∧
      room.black.map ConnectedUser.userId = some entry.black.id ∧
      entry.createdAt = (createdAt room.roomId).isoformat := by
  rw [activeGame?] at listed
  split at listed
  · next white black isWhite isBlack =>
      obtain ⟨active, same⟩ := Option.ite_none_right_eq_some.mp listed
      cases same
      rw [isWhite, isBlack]
      exact ⟨active, rfl, rfl, rfl, rfl⟩
  · cases listed

theorem Staged.exists_activeGame? (staged : room.Staged) (createdAt : RoomId → DateTime)
    (active : room.status = .active) : ∃ entry, room.activeGame? createdAt = some entry := by
  obtain ⟨guest, -, white, black⟩ := staged.active active
  rw [activeGame?, white, black]
  exact ⟨_, if_pos active⟩

end GameRoom

namespace RoomManager

variable {manager : RoomManager} {createdAt : RoomId → DateTime}

/-- What a reader of the lobby relies on. -/
structure Truthful (createdAt : RoomId → DateTime) (manager : RoomManager) : Prop where
  /-- The rooms that a user without a room may join are those that are listed. -/
  joinable : ∀ roomId guest, (∃ joined, manager.joinPublicRoom roomId guest = .ok joined) ↔
    guest.userId ∉ manager.playerRoomByUser ∧
      ∃ entry ∈ (manager.snapshot createdAt).waitingRooms, entry.roomId = roomId
  /-- The games that a connection may watch are those that are listed, but for the user's own. -/
  watchable : ∀ roomId spectator, (∃ watched, manager.watchRoom roomId spectator = .ok watched) ↔
    spectator.websocket ∉ manager.spectatorRoomByConnection ∧
      ∃ game ∈ (manager.snapshot createdAt).activeGames, game.roomId = roomId ∧
        game.white.id ≠ spectator.userId ∧ game.black.id ≠ spectator.userId
  /-- Nobody is shown twice. -/
  once : (manager.snapshot createdAt).users.Nodup
  roomsInOrder : (manager.snapshot createdAt).waitingRooms.Pairwise fun first second =>
    ¬ (createdAt second.roomId).numbers < (createdAt first.roomId).numbers
  gamesInOrder : (manager.snapshot createdAt).activeGames.Pairwise fun first second =>
    ¬ (createdAt second.roomId).numbers < (createdAt first.roomId).numbers

theorem joinLocked_iff (room : GameRoom) (guest : ConnectedUser) :
    (∃ joined, manager.joinLocked room guest = .ok joined) ↔ room.host.userId ≠ guest.userId ∧
      guest.userId ∉ manager.playerRoomByUser ∧ room.status = .waiting ∧ room.guest = none := by
  rw [joinLocked]
  split
  · next own => simp only [own, reduceCtorEq, exists_false, ne_eq, not_true_eq_false, false_and]
  · next apart =>
      split
      · next busy => simp only [busy, reduceCtorEq, exists_false, not_true_eq_false, false_and,
          and_false]
      · next free =>
          split
          · next taken =>
              constructor
              · rintro ⟨joined, impossible⟩
                cases impossible
              · rintro ⟨-, -, waiting, vacant⟩
                exact taken.elim (absurd waiting) (absurd vacant)
          · next available =>
              rw [not_or, not_not, not_not] at available
              exact iff_of_true ⟨_, rfl⟩ ⟨apart, free, available⟩

theorem joinPublicRoom_iff (createdAt : RoomId → DateTime) (staged : manager.Staged)
    (agrees : manager.PlayersAgree) (roomId : RoomId) (guest : ConnectedUser) :
    (∃ joined, manager.joinPublicRoom roomId guest = .ok joined) ↔
      guest.userId ∉ manager.playerRoomByUser ∧
        ∃ entry ∈ (manager.snapshot createdAt).waitingRooms, entry.roomId = roomId := by
  constructor
  · rintro ⟨joined, ok⟩
    rw [joinPublicRoom] at ok
    split at ok
    · cases ok
    · next room stored =>
        split at ok
        · cases ok
        · next shown =>
            obtain ⟨-, free, waiting, -⟩ := (joinLocked_iff room guest).mp ⟨joined, ok⟩
            obtain ⟨entry, listed⟩ :=
              room.exists_waitingRoom? createdAt waiting (not_not.mp shown)
            obtain ⟨-, -, named, -⟩ := GameRoom.waitingRoom?_eq_some listed
            exact ⟨free, entry, mem_waitingRooms.mpr ⟨roomId, room, stored, listed⟩,
              named.trans (staged roomId room stored).1⟩
  · rintro ⟨free, entry, member, rfl⟩
    obtain ⟨roomId, room, stored, listed⟩ := mem_waitingRooms.mp member
    obtain ⟨waiting, shown, named, -⟩ := GameRoom.waitingRoom?_eq_some listed
    obtain ⟨own, scene⟩ := staged roomId room stored
    have plays : manager.Plays room.host.userId roomId :=
      ⟨room, stored, by rw [waiting]; exact RoomStatus.noConfusion, List.mem_cons_self ..⟩
    -- The host is in the index, so a user who is not in it is somebody else.
    have apart : room.host.userId ≠ guest.userId := fun same =>
      agrees.indexed.unrelated free roomId (same ▸ plays)
    rw [named, own, joinPublicRoom, stored]
    simp only [shown, ne_eq, not_true_eq_false, if_false]
    exact (joinLocked_iff room guest).mpr ⟨apart, free, waiting, scene.waiting waiting⟩

theorem watchRoom_iff (createdAt : RoomId → DateTime) (staged : manager.Staged)
    (roomId : RoomId) (spectator : ConnectedUser) :
    (∃ watched, manager.watchRoom roomId spectator = .ok watched) ↔
      spectator.websocket ∉ manager.spectatorRoomByConnection ∧
        ∃ game ∈ (manager.snapshot createdAt).activeGames, game.roomId = roomId ∧
          game.white.id ≠ spectator.userId ∧ game.black.id ≠ spectator.userId := by
  have player : ∀ {seat : Option ConnectedUser} {userId : UserId},
      seat.map ConnectedUser.userId = some userId →
        (GameRoom.isUser spectator.userId seat = true ↔ userId = spectator.userId) := by
    intro seat userId sits
    obtain ⟨user, rfl, rfl⟩ := Option.map_eq_some_iff.mp sits
    exact decide_eq_true_iff
  constructor
  · rintro ⟨watched, ok⟩
    rw [watchRoom] at ok
    split at ok
    · cases ok
    · next room stored =>
        split at ok
        · cases ok
        · next playing =>
            split at ok
            · cases ok
            · next outside =>
                split at ok
                · cases ok
                · next free =>
                    obtain ⟨own, scene⟩ := staged roomId room stored
                    obtain ⟨game, listed⟩ :=
                      scene.exists_activeGame? createdAt (not_not.mp playing)
                    obtain ⟨-, named, white, black, -⟩ := GameRoom.activeGame?_eq_some listed
                    rw [player white, player black, not_or] at outside
                    exact ⟨free, game, mem_activeGames.mpr ⟨roomId, room, stored, listed⟩,
                      named.trans own, outside⟩
  · rintro ⟨free, game, member, rfl, outside⟩
    obtain ⟨roomId, room, stored, listed⟩ := mem_activeGames.mp member
    obtain ⟨active, named, white, black, -⟩ := GameRoom.activeGame?_eq_some listed
    rw [named, (staged roomId room stored).1, watchRoom, stored]
    simp only [active, ne_eq, not_true_eq_false, if_false, player white, player black, outside,
      or_self, free]
    exact ⟨_, rfl⟩

/-- Who is listed with a room plays in it, so nobody is listed with two rooms. -/
theorem nodup_listed {α : Type*} (agrees : manager.PlayersAgree) {select : GameRoom → Option α}
    {users : α → List UserId}
    (own : ∀ roomId room entry, manager.rooms.lookup roomId = some room →
      select room = some entry → (users entry).Nodup ∧ ∀ userId ∈ users entry, room.Seats userId)
    (before : α → α → Bool) :
    ((((manager.rooms.entries.reverse.map Sigma.snd).filterMap select).mergeSort before).flatMap
      users).Nodup := by
  rw [((List.mergeSort_perm _ before).flatMap_right users).nodup_iff, List.nodup_flatMap]
  constructor
  · intro entry member
    obtain ⟨room, listed, selected⟩ := List.mem_filterMap.mp member
    obtain ⟨stored, member, rfl⟩ := List.mem_map.mp listed
    exact (own stored.1 stored.2 entry
      (AList.mem_lookup_iff.mpr (List.mem_reverse.mp member)) selected).1
  · rw [List.pairwise_filterMap, List.pairwise_map, List.pairwise_reverse]
    have keys : manager.rooms.entries.Pairwise fun first second => first.1 ≠ second.1 :=
      List.pairwise_map.mp manager.rooms.nodupKeys
    refine keys.imp_of_mem fun {first second} member member' distinct => ?_
    intro entry selected entry' selected' userId listed listed'
    have stored := AList.mem_lookup_iff.mpr member
    have stored' := AList.mem_lookup_iff.mpr member'
    have plays : manager.Plays userId first.1 :=
      ⟨first.2, stored, (own _ _ _ stored selected').2 userId listed'⟩
    have plays' : manager.Plays userId second.1 :=
      ⟨second.2, stored', (own _ _ _ stored' selected).2 userId listed⟩
    exact distinct (agrees.indexed.unique plays plays')

theorem waitingRoom?_seats {room : GameRoom} {entry : WaitingRoom}
    (listed : room.waitingRoom? createdAt = some entry) : room.Seats entry.host.id := by
  obtain ⟨waiting, -, -, host, -⟩ := GameRoom.waitingRoom?_eq_some listed
  refine ⟨by rw [waiting]; exact RoomStatus.noConfusion, ?_⟩
  rw [host]
  exact List.mem_cons_self ..

/-- The players of a game are two users, and play in it. -/
theorem activeGame?_seats {roomId : RoomId} {room : GameRoom} {entry : ActiveGame}
    (staged : room.Staged) (proper : room.Proper roomId)
    (listed : room.activeGame? createdAt = some entry) :
    entry.white.id ≠ entry.black.id ∧ room.Seats entry.white.id ∧ room.Seats entry.black.id := by
  obtain ⟨active, -, isWhite, isBlack, -⟩ := GameRoom.activeGame?_eq_some listed
  obtain ⟨guest, seated, white, black⟩ := staged.active active
  have playing : room.status ≠ .finished := by
    rw [active]
    exact RoomStatus.noConfusion
  rw [white, Option.map_some, Option.some.injEq] at isWhite
  rw [black, Option.map_some, Option.some.injEq] at isBlack
  rw [← isWhite, ← isBlack]
  exact ⟨(proper.2 guest seated).symm, ⟨playing, GameRoom.mem_players.mpr (.inl rfl)⟩,
    playing, GameRoom.mem_players.mpr (.inr ⟨guest, seated, rfl⟩)⟩

/-- **Nobody is shown twice.** -/
theorem nodup_users (createdAt : RoomId → DateTime) (staged : manager.Staged)
    (agrees : manager.PlayersAgree) : (manager.snapshot createdAt).users.Nodup := by
  have hosts : (manager.snapshot createdAt).waitingRooms.map (fun room => room.host.id) =
      (manager.snapshot createdAt).waitingRooms.flatMap fun room => [room.host.id] :=
    List.map_eq_flatMap
  rw [LobbySnapshot.users, List.nodup_append]
  refine ⟨?_, ?_, ?_⟩
  · rw [hosts]
    refine nodup_listed agrees (fun roomId room entry stored listed => ?_) _
    refine ⟨List.nodup_singleton _, fun userId member => ?_⟩
    exact List.mem_singleton.mp member ▸ waitingRoom?_seats listed
  · refine nodup_listed agrees (fun roomId room game stored listed => ?_) _
    obtain ⟨distinct, white, black⟩ :=
      activeGame?_seats (staged roomId room stored).2 (agrees.filed roomId room stored) listed
    refine ⟨List.nodup_cons.mpr ⟨List.mem_singleton.not.mpr distinct, List.nodup_singleton _⟩,
      fun userId member => ?_⟩
    rcases List.mem_pair.mp member with rfl | rfl
    · exact white
    · exact black
  · rintro host isHost player isPlayer rfl
    obtain ⟨entry, member, rfl⟩ := List.mem_map.mp isHost
    obtain ⟨roomId, room, stored, listed⟩ := mem_waitingRooms.mp member
    obtain ⟨game, member', plays⟩ := List.mem_flatMap.mp isPlayer
    obtain ⟨roomId', room', stored', listed'⟩ := mem_activeGames.mp member'
    obtain ⟨-, white, black⟩ := activeGame?_seats (staged roomId' room' stored').2
      (agrees.filed roomId' room' stored') listed'
    have seats : room'.Seats entry.host.id := by
      rcases List.mem_pair.mp plays with same | same
      · exact same ▸ white
      · exact same ▸ black
    obtain rfl : roomId = roomId' := agrees.indexed.unique
      ⟨room, stored, waitingRoom?_seats listed⟩ ⟨room', stored', seats⟩
    obtain rfl := Option.some.inj (stored.symm.trans stored')
    have waiting := (GameRoom.waitingRoom?_eq_some listed).1
    rw [(GameRoom.activeGame?_eq_some listed').1] at waiting
    cases waiting

/-- Entries that are sorted by the texts of their times are in the order of the times. -/
theorem pairwise_sorted {α : Type*} {entries : List α} {text : α → String} {time : α → DateTime}
    (texts : ∀ entry ∈ entries, text entry = (time entry).isoformat) :
    (entries.mergeSort fun first second => decide (text first ≤ text second)).Pairwise
      fun first second => ¬ (time second).numbers < (time first).numbers := by
  have trans : ∀ first second third : α, decide (text first ≤ text second) = true →
      decide (text second ≤ text third) = true → decide (text first ≤ text third) = true :=
    fun first second third before before' => decide_eq_true
      (String.le_trans (of_decide_eq_true before) (of_decide_eq_true before'))
  have total : ∀ first second : α,
      (decide (text first ≤ text second) || decide (text second ≤ text first)) = true := by
    intro first second
    rw [Bool.or_eq_true, decide_eq_true_iff, decide_eq_true_iff]
    exact String.le_total (text first) (text second)
  have sorted : (entries.mergeSort fun first second => decide (text first ≤ text second)).Pairwise
      fun first second => decide (text first ≤ text second) = true :=
    List.pairwise_mergeSort trans total entries
  refine sorted.imp_of_mem fun {first second} member member' before => ?_
  rw [← DateTime.isoformat_lt_iff, ← texts first (List.mem_mergeSort.mp member),
    ← texts second (List.mem_mergeSort.mp member'), String.not_lt]
  exact of_decide_eq_true before

theorem waitingRooms_inOrder (createdAt : RoomId → DateTime) (manager : RoomManager) :
    (manager.snapshot createdAt).waitingRooms.Pairwise fun first second =>
      ¬ (createdAt second.roomId).numbers < (createdAt first.roomId).numbers := by
  refine pairwise_sorted fun entry member => ?_
  obtain ⟨room, -, listed⟩ := List.mem_filterMap.mp member
  obtain ⟨-, -, named, -, created⟩ := GameRoom.waitingRoom?_eq_some listed
  rw [created, named]

theorem activeGames_inOrder (createdAt : RoomId → DateTime) (manager : RoomManager) :
    (manager.snapshot createdAt).activeGames.Pairwise fun first second =>
      ¬ (createdAt second.roomId).numbers < (createdAt first.roomId).numbers := by
  refine pairwise_sorted fun game member => ?_
  obtain ⟨room, -, listed⟩ := List.mem_filterMap.mp member
  obtain ⟨-, named, -, -, created⟩ := GameRoom.activeGame?_eq_some listed
  rw [created, named]

/-- **The lobby tells the truth.** After any operations a user who is in no room may join
exactly the rooms that are listed as waiting, and a connection that watches nothing may watch
exactly the listed games that are not the user's own; nobody is listed twice; and both lists
are in the order in which the rooms were created. Of rooms with the same time nothing is said:
they stand in the order of the table here, and in the order of the dictionary in the source. -/
theorem run_snapshot (createdAt : RoomId → DateTime) (inputs : List RoomStep)
    (fresh : ∀ visit ∈ Trace.visits step {} inputs, visit.1.Fresh visit.2)
    (admitted : ∀ visit ∈ Trace.visits step {} inputs, visit.1.Admitted visit.2) :
    (Trace.run step {} inputs).Truthful createdAt := by
  have staged : (Trace.run step {} inputs).Staged :=
    Trace.run_invariant (motive := Staged) (fun _ input staged => step_staged staged input) inputs
      Filed.empty
  have agrees : (Trace.run step {} inputs).PlayersAgree :=
    Trace.run_rule (motive := PlayersAgree)
      (fun manager input => manager.Fresh input ∧ manager.Admitted input)
      (fun _ _ guarded agrees => step_playersAgree agrees guarded.1 guarded.2.pairsUsers
        guarded.2.sparesFinished) inputs {}
      (fun visit member => ⟨fresh visit member, admitted visit member⟩)
      ⟨Filed.empty, Indexes.empty fun _ roomId => not_located (AList.notMem_empty roomId) _⟩
  exact ⟨joinPublicRoom_iff createdAt staged agrees, watchRoom_iff createdAt staged,
    nodup_users createdAt staged agrees, waitingRooms_inOrder createdAt _,
    activeGames_inOrder createdAt _⟩

/-- The first noon of a year. -/
def noon : DateTime where
  seconds := [2026, 1, 1, 12, 0, 0]
  microsecond := 0
  fits := by
    simp only [DateTime.layout, TextOrder.Fits, List.forall₂_cons, List.forall₂_nil_left_iff]
    decide
  small := by decide

theorem run_snapshot_busyLobby : (Trace.run step {} busyLobby).Truthful fun _ => noon :=
  run_snapshot (fun _ => noon) busyLobby (by decide +kernel) (by decide +kernel)

end RoomManager

end KungFuChess

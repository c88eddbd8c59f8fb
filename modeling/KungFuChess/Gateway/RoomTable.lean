import KungFuChess.Gateway.RoomManager

/-!
# What the operations do to the table of rooms

Each operation of `RoomManager` writes at most one room, but for the spectators of
another. Its specification tells when it succeeds and which rooms are stored then.
-/

set_option autoImplicit false

namespace KungFuChess

/-- Two states of a room that differ in their spectators at most. -/
def GameRoom.Alike (room other : GameRoom) : Prop :=
  ∃ spectators, other = { room with spectators := spectators }

theorem GameRoom.Alike.refl (room : GameRoom) : room.Alike room := ⟨room.spectators, rfl⟩

namespace RoomManager

variable {manager : RoomManager}

/-- A room is left alone, but for its spectators. -/
def Leaves (before after : RoomManager) (roomId : RoomId) : Prop :=
  Option.Rel GameRoom.Alike (before.rooms.lookup roomId) (after.rooms.lookup roomId)

theorem Leaves.of_eq {before after : RoomManager} {roomId : RoomId}
    (same : after.rooms.lookup roomId = before.rooms.lookup roomId) :
    before.Leaves after roomId := by
  rw [Leaves, same]
  cases before.rooms.lookup roomId with
  | none => exact .none
  | some room => exact .some (.refl room)

theorem Leaves.trans {before middle after : RoomManager} {roomId : RoomId}
    (first : before.Leaves middle roomId) (second : middle.Leaves after roomId) :
    before.Leaves after roomId := by
  rw [Leaves] at first second ⊢
  generalize before.rooms.lookup roomId = earliest at first ⊢
  generalize middle.rooms.lookup roomId = between at first second
  generalize after.rooms.lookup roomId = latest at second ⊢
  cases first with
  | none => exact second
  | some alike =>
      cases second with
      | some alike' =>
          obtain ⟨spectators, rfl⟩ := alike'
          obtain ⟨earlier, rfl⟩ := alike
          exact .some ⟨spectators, rfl⟩

/-- The room as it was before. -/
theorem Leaves.stored {before after : RoomManager} {roomId : RoomId} {room : GameRoom}
    (leaves : before.Leaves after roomId) (stored : after.rooms.lookup roomId = some room) :
    ∃ was, before.rooms.lookup roomId = some was ∧ was.Alike room := by
  rw [Leaves, stored] at leaves
  cases was : before.rooms.lookup roomId with
  | none =>
      rw [was] at leaves
      cases leaves
  | some was' =>
      rw [was] at leaves
      cases leaves with
      | some alike => exact ⟨was', rfl, alike⟩

/-- The room as it is after. -/
theorem Leaves.kept {before after : RoomManager} {roomId : RoomId} {was : GameRoom}
    (leaves : before.Leaves after roomId) (stored : before.rooms.lookup roomId = some was) :
    ∃ room, after.rooms.lookup roomId = some room ∧ was.Alike room := by
  rw [Leaves, stored] at leaves
  cases room : after.rooms.lookup roomId with
  | none =>
      rw [room] at leaves
      cases leaves
  | some room' =>
      rw [room] at leaves
      cases leaves with
      | some alike => exact ⟨room', rfl, alike⟩

/-! ## Rooms come -/

/-- A room is created under a new identifier, waiting, or nothing happens. -/
theorem lookup_createRoom (manager : RoomManager) (host : ConnectedUser) (name : Option String)
    (visibility : String) (roomId : RoomId) (draws : List String) :
    (manager.step (.createRoom host name visibility roomId draws)).rooms = manager.rooms ∨
      ∃ room, room.roomId = roomId ∧
        (manager.step (.createRoom host name visibility roomId draws)).rooms =
          manager.rooms.insert roomId room := by
  rcases manager.createRoom_cases host name visibility roomId draws with
    same | ⟨-, validatedName, opened | ⟨code, -, opened⟩⟩
  · exact .inl (by rw [same])
  · exact .inr ⟨(manager.openRoom host validatedName .visible roomId none).1, rfl, by
      rw [opened]
      rfl⟩
  · exact .inr ⟨(manager.openRoom host validatedName .hidden roomId (some code)).1, rfl, by
      rw [opened]
      rfl⟩

/-- What a successful join does: a waiting room becomes active, with both players. -/
structure Joins (before : RoomManager) (guest : ConnectedUser) (joined : GameRoom)
    (after : RoomManager) : Prop where
  waiting : ∃ roomId room, before.rooms.lookup roomId = some room ∧ room.status = .waiting ∧
    room.roomId = joined.roomId
  white : joined.white = some joined.host
  black : joined.black = some guest
  status : joined.status = .active
  rooms : after.rooms = before.rooms.insert joined.roomId joined

theorem joinLocked_ok {roomId : RoomId} {room joined : GameRoom} {guest : ConnectedUser}
    {after : RoomManager} (stored : manager.rooms.lookup roomId = some room)
    (ok : manager.joinLocked room guest = .ok (joined, after)) :
    manager.Joins guest joined after := by
  rw [joinLocked] at ok
  split at ok
  · cases ok
  · split at ok
    · cases ok
    · split at ok
      · cases ok
      · next available =>
          rw [not_or, not_not, not_not] at available
          cases ok
          exact ⟨⟨roomId, room, stored, available.1, rfl⟩, rfl, rfl, rfl, rfl⟩

theorem joinPublicRoom_ok {roomId : RoomId} {joined : GameRoom} {guest : ConnectedUser}
    {after : RoomManager} (ok : manager.joinPublicRoom roomId guest = .ok (joined, after)) :
    manager.Joins guest joined after := by
  rw [joinPublicRoom] at ok
  split at ok
  · cases ok
  · next room stored =>
      split at ok
      · cases ok
      · exact joinLocked_ok stored ok

theorem joinHiddenRoom_ok {code : String} {joined : GameRoom} {guest : ConnectedUser}
    {after : RoomManager} (ok : manager.joinHiddenRoom code guest = .ok (joined, after)) :
    manager.Joins guest joined after := by
  rw [joinHiddenRoom] at ok
  split at ok
  · cases ok
  · next room found =>
      obtain ⟨roomId, -, stored⟩ := Option.bind_eq_some_iff.mp found
      exact joinLocked_ok stored ok

/-- The room of two players who have found each other. -/
structure IsMatch (room : GameRoom) (first second : ConnectedUser) : Prop where
  host : room.host = first
  guest : room.guest = some second
  white : room.white = some first
  black : room.black = some second
  status : room.status = .active

theorem IsMatch.alike {room other : GameRoom} {first second : ConnectedUser}
    (isMatch : IsMatch room first second) (alike : room.Alike other) :
    IsMatch other first second := by
  obtain ⟨spectators, rfl⟩ := alike
  exact { isMatch with }

theorem matchPlayers_ok {first second : ConnectedUser} {roomId : RoomId} {suffix : String}
    {room : GameRoom} {after : RoomManager}
    (ok : manager.matchPlayers first second roomId suffix = .ok (room, after)) :
    room.roomId = roomId ∧ IsMatch room first second ∧
      after.rooms = manager.rooms.insert roomId room := by
  rw [matchPlayers] at ok
  split at ok
  · cases ok
  · cases ok
    exact ⟨rfl, ⟨rfl, rfl, rfl, rfl, rfl⟩, rfl⟩

/-- Two players who are in no room get one. -/
theorem exists_matchPlayers {first second : ConnectedUser} (roomId : RoomId) (suffix : String)
    (free : first.userId ∉ manager.playerRoomByUser ∧
      second.userId ∉ manager.playerRoomByUser) :
    ∃ room after, manager.matchPlayers first second roomId suffix = .ok (room, after) := by
  rw [matchPlayers, if_neg (not_or.mpr free)]
  exact ⟨_, _, rfl⟩

/-! ## Rooms change -/

theorem lookup_discardRoom (roomId other : RoomId) :
    (manager.discardRoom roomId).rooms.lookup other =
      if other = roomId then none else manager.rooms.lookup other := by
  rw [discardRoom]
  split
  · next absent =>
      split
      · next same => rw [same, absent]
      · rfl
  · exact ReverseIndex.lookup_erase ..

theorem lookup_rollbackJoin {roomId other : RoomId} {room : GameRoom} {guestId : UserId}
    (keyed : ∀ room, manager.rooms.lookup roomId = some room → room.roomId = roomId)
    (stored : (manager.rollbackJoin roomId guestId).rooms.lookup other = some room) :
    manager.rooms.lookup other = some room ∨ other = roomId ∧ room.roomId = roomId := by
  rw [rollbackJoin] at stored
  split at stored
  · exact .inl stored
  · next was found =>
      split at stored
      · have own := keyed was found
        rw [storeRoom, ReverseIndex.lookup_insert] at stored
        split at stored
        · next same =>
            cases stored
            exact .inr ⟨same.trans own, own⟩
        · exact .inl stored
      · exact .inl stored

theorem rollbackJoin_leaves {roomId other : RoomId} (guestId : UserId)
    (keyed : ∀ room, manager.rooms.lookup roomId = some room → room.roomId = roomId)
    (distinct : other ≠ roomId) : manager.Leaves (manager.rollbackJoin roomId guestId) other := by
  refine .of_eq ?_
  rw [rollbackJoin]
  split
  · rfl
  · next was found =>
      split
      · rw [storeRoom, ReverseIndex.lookup_insert, if_neg]
        rw [keyed was found]
        exact distinct
      · rfl

theorem lookup_finishRoom {roomId other : RoomId}
    (keyed : ∀ room, manager.rooms.lookup roomId = some room → room.roomId = roomId) :
    (manager.finishRoom roomId).rooms.lookup other =
      if other = roomId then
        (manager.rooms.lookup other).map fun room => { room with status := .finished }
      else manager.rooms.lookup other := by
  rw [finishRoom]
  cases found : manager.rooms.lookup roomId with
  | none =>
      simp only
      split
      · next same =>
          rw [same, found]
          rfl
      · rfl
  | some room =>
      obtain rfl := keyed room found
      simp only
      split
      · next finished =>
          split
          · next same =>
              rw [same, found, Option.map_some, ← finished]
          · rfl
      · rw [freePlayers, storeRoom, ReverseIndex.lookup_insert]
        split
        · next same => rw [same, found, Option.map_some]
        · rfl

/-! ## Connections go -/

/-- A connection that watched is dropped from the spectators of its room. -/
theorem closeSpectator_leaves (connection : ConnectionId) (other : RoomId) :
    manager.Leaves (manager.closeSpectator connection).2 other := by
  rw [closeSpectator]
  split
  · exact .of_eq rfl
  · next roomId _ =>
      rw [Leaves]
      simp only [dropSpectator]
      cases found : manager.rooms.lookup roomId with
      | none => exact Leaves.of_eq rfl
      | some room =>
          simp only [ReverseIndex.lookup_insert]
          split
          · next same =>
              rw [same, found]
              exact .some ⟨_, rfl⟩
          · exact Leaves.of_eq rfl

/-- What the end of a connection does: a room is removed, or none. -/
inductive Removal (before : RoomManager) (userId : UserId) (connection : ConnectionId) :
    CleanupResult → RoomManager → Prop where
  | none {cleanup : CleanupResult} {after : RoomManager} (removed : cleanup.removedRoomId = none)
      (quiet : cleanup.notifications = [])
      (leaves : ∀ other, before.Leaves after other) : Removal before userId connection cleanup after
  | some {cleanup : CleanupResult} {after : RoomManager} {roomId : RoomId} {room closed : GameRoom}
      (stored : before.rooms.lookup roomId = some room) (alike : room.Alike closed)
      (owns : ownsConnection room userId connection = true)
      (removed : cleanup.removedRoomId = some room.roomId)
      (notifications : cleanup.notifications = removalNotifications closed userId)
      (gone : after.rooms.lookup room.roomId = none)
      (leaves : ∀ other, other ≠ room.roomId → before.Leaves after other) :
      Removal before userId connection cleanup after

theorem removeConnection_removal (manager : RoomManager) (userId : UserId)
    (connection : ConnectionId) :
    manager.Removal userId connection (manager.removeConnection userId connection).1
      (manager.removeConnection userId connection).2 := by
  have watched := fun other => manager.closeSpectator_leaves connection other
  simp only [removeConnection]
  split
  · exact .none rfl rfl watched
  · next closed found =>
      obtain ⟨roomId, -, stored⟩ := Option.bind_eq_some_iff.mp found
      obtain ⟨room, was, alike⟩ := (watched roomId).stored stored
      split
      · next owns =>
          obtain ⟨spectators, rfl⟩ := alike
          refine .some was ⟨spectators, rfl⟩ owns rfl rfl ?_ fun other distinct => ?_
          · exact (ReverseIndex.lookup_erase ..).trans (if_pos rfl)
          · have kept := ReverseIndex.lookup_erase
              (manager.closeSpectator connection).2.rooms room.roomId other
            rw [if_neg distinct] at kept
            have same : Option.Rel GameRoom.Alike (manager.rooms.lookup other)
                (((manager.closeSpectator connection).2.rooms.erase room.roomId).lookup other) := by
              rw [kept]
              exact watched other
            exact same
      · exact .none rfl rfl watched

/-! ## Identifiers -/

/-- The rooms are stored under their identifiers. -/
def Keyed (manager : RoomManager) : Prop :=
  ∀ roomId room, manager.rooms.lookup roomId = some room → room.roomId = roomId

namespace Keyed

variable {after : RoomManager} (keyed : manager.Keyed)

include keyed

theorem insert {room : GameRoom} {roomId : RoomId}
    (inserted : after.rooms = manager.rooms.insert roomId room) (own : room.roomId = roomId) :
    after.Keyed := by
  intro other stored here
  rw [inserted, ReverseIndex.lookup_insert] at here
  split at here
  · next same =>
      cases here
      exact own.trans same.symm
  · exact keyed other stored here

theorem createRoom (host : ConnectedUser) (name : Option String) (visibility : String)
    (roomId : RoomId) (draws : List String) :
    (manager.step (.createRoom host name visibility roomId draws)).Keyed := by
  rcases manager.lookup_createRoom host name visibility roomId draws with
    same | ⟨room, own, inserted⟩
  · rw [Keyed, same]
    exact keyed
  · exact keyed.insert inserted own

theorem leaves {roomId : RoomId} {room : GameRoom} (leaves : manager.Leaves after roomId)
    (stored : after.rooms.lookup roomId = some room) : room.roomId = roomId := by
  obtain ⟨was, before, spectators, rfl⟩ := leaves.stored stored
  exact keyed roomId was before

theorem discardRoom (roomId : RoomId) : (manager.discardRoom roomId).Keyed := by
  intro other room stored
  rw [lookup_discardRoom] at stored
  split at stored
  · cases stored
  · exact keyed other room stored

theorem rollbackJoin (roomId : RoomId) (guestId : UserId) :
    (manager.rollbackJoin roomId guestId).Keyed := by
  intro other room stored
  rcases lookup_rollbackJoin (keyed roomId) stored with same | ⟨rfl, own⟩
  · exact keyed other room same
  · exact own

theorem finishRoom (roomId : RoomId) : (manager.finishRoom roomId).Keyed := by
  intro other room stored
  rw [lookup_finishRoom (keyed roomId)] at stored
  split at stored
  · obtain ⟨was, before, rfl⟩ := Option.map_eq_some_iff.mp stored
    exact keyed other was before
  · exact keyed other room stored

theorem removeConnection (userId : UserId) (connection : ConnectionId) :
    (manager.removeConnection userId connection).2.Keyed := by
  intro other room stored
  have removal : manager.Removal userId connection _ _ :=
    manager.removeConnection_removal userId connection
  cases removal with
  | none removed quiet leaves => exact keyed.leaves (leaves other) stored
  | @some roomId was closed found alike owns removed notifications gone leaves =>
      by_cases same : other = was.roomId
      · rw [same, gone] at stored
        cases stored
      · exact keyed.leaves (leaves other same) stored

end Keyed

end RoomManager

end KungFuChess

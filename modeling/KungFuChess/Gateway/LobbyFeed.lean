import KungFuChess.Gateway.LobbySnapshot
import KungFuChess.Gateway.RoomRemains
import Mathlib.Logic.Function.Basic

/-!
# The feed of the lobby

A connection that subscribes to the lobby is answered with a snapshot, and gets a new
one each time a handler announces a change. An operation and its announcement are two
sections: others may come between, and a handler that fails in between announces
nothing, nor does one that undoes a join or discards a room.

`LobbyFeed` keeps the newest snapshot that was taken for each connection. A subscriber
may receive an older one last, when the sends of two announcements overtake each other.
-/

set_option autoImplicit false

namespace KungFuChess

/-- Two snapshots list the same rooms and games. -/
structure LobbySnapshot.Same (first second : LobbySnapshot) : Prop where
  waitingRooms : ∀ entry, entry ∈ first.waitingRooms ↔ entry ∈ second.waitingRooms
  activeGames : ∀ game, game ∈ first.activeGames ↔ game ∈ second.activeGames

namespace LobbySnapshot.Same

theorem refl (snapshot : LobbySnapshot) : snapshot.Same snapshot :=
  ⟨fun _ => Iff.rfl, fun _ => Iff.rfl⟩

theorem trans {first second third : LobbySnapshot} (same : first.Same second)
    (same' : second.Same third) : first.Same third :=
  ⟨fun entry => (same.waitingRooms entry).trans (same'.waitingRooms entry),
    fun game => (same.activeGames game).trans (same'.activeGames game)⟩

end LobbySnapshot.Same

namespace RoomManager

/-- Whether the handler of an operation goes on to `_broadcast_lobby`; for `finish_room` this is
`match_ended`, and for `remove_connection` the end of a socket's loop. -/
def announces (manager : RoomManager) : RoomStep → Bool
  | .createRoom host name visibility roomId draws =>
      match manager.createRoom host name visibility roomId draws with
      | some (.ok created) => created.1.visibility = .visible
      | _ => false
  | .joinPublicRoom roomId guest => (manager.joinPublicRoom roomId guest).isOk
  | .joinHiddenRoom code guest => (manager.joinHiddenRoom code guest).isOk
  | .matchPlayers first second roomId suffix =>
      (manager.matchPlayers first second roomId suffix).isOk
  | .watchRoom roomId spectator => (manager.watchRoom roomId spectator).isOk
  | .leaveSpectator connection roomId => (manager.leaveSpectator connection roomId).isOk
  | .finishRoom _ => true
  | .removeConnection userId connection =>
      (manager.removeConnection userId connection).1.lobbyChanged
  | .discardRoom _ | .rollbackJoin .. | .subscribeLobby _ => false

/-- An operation of a handler that fails. -/
def undoes : RoomStep → Bool
  | .discardRoom _ | .rollbackJoin .. => true
  | _ => false

end RoomManager

structure LobbyFeed where
  manager : RoomManager := {}
  taken : ConnectionId → Option LobbySnapshot := fun _ => none
  /-- The handlers that are about to announce. -/
  owed : Nat := 0
  /-- A handler has failed since the last announcement. -/
  missed : Bool := false

inductive FeedStep where
  | operate (input : RoomStep)
  /-- `_broadcast_lobby`, up to its sends. -/
  | announce
  /-- A handler ends before its announcement. -/
  | fail
  deriving DecidableEq

namespace LobbyFeed

/-- The snapshots after an operation: `subscribe_lobby` answers with one. -/
def answer (feed : LobbyFeed) (createdAt : RoomId → DateTime) :
    RoomStep → ConnectionId → Option LobbySnapshot
  | .subscribeLobby connection =>
      match feed.manager.subscribeLobby connection with
      | .error _ => feed.taken
      | .ok manager => Function.update feed.taken connection (some (manager.snapshot createdAt))
  | _ => feed.taken

def step (createdAt : RoomId → DateTime) (feed : LobbyFeed) : FeedStep → LobbyFeed
  | .operate input =>
      { manager := feed.manager.step input
        taken := feed.answer createdAt input
        owed := feed.owed + if feed.manager.announces input then 1 else 0
        missed := feed.missed || RoomManager.undoes input }
  | .announce =>
      { feed with
        taken := fun connection =>
          if connection ∈ feed.manager.lobbySubscribers then
            some (feed.manager.snapshot createdAt)
          else feed.taken connection
        owed := feed.owed - 1
        missed := false }
  | .fail => { feed with owed := feed.owed - 1, missed := true }

end LobbyFeed

/-! ## Quiet operations -/

/-- A room that the lobby may list. -/
def GameRoom.Listable (room : GameRoom) : Prop := room.status = .active ∨ room.visibility = .visible

namespace RoomManager

variable {manager : RoomManager}

theorem same_of_listable {after : RoomManager} (createdAt : RoomId → DateTime)
    (kept : ∀ roomId room, room.Listable →
      (manager.rooms.lookup roomId = some room ↔ after.rooms.lookup roomId = some room)) :
    (manager.snapshot createdAt).Same (after.snapshot createdAt) := by
  constructor
  · intro entry
    rw [mem_waitingRooms, mem_waitingRooms]
    refine exists_congr fun roomId => exists_congr fun room => and_congr_left fun listed => ?_
    obtain ⟨-, shown, -⟩ := GameRoom.waitingRoom?_eq_some listed
    exact kept roomId room (.inr shown)
  · intro game
    rw [mem_activeGames, mem_activeGames]
    refine exists_congr fun roomId => exists_congr fun room => and_congr_left fun listed => ?_
    obtain ⟨active, -⟩ := GameRoom.activeGame?_eq_some listed
    exact kept roomId room (.inl active)

theorem same_of_rooms {after : RoomManager} (createdAt : RoomId → DateTime)
    (rooms : after.rooms = manager.rooms) :
    (manager.snapshot createdAt).Same (after.snapshot createdAt) :=
  same_of_listable createdAt fun _ _ _ => by rw [rooms]

/-- A fallible operation that its handler does not announce has failed. -/
theorem settle_of_not_isOk {α : Type} {result : Except RoomOperationError α}
    {left : α → RoomManager} (failed : result.isOk = false) :
    manager.settle result left = manager := by
  cases result with
  | error => rfl
  | ok => cases failed

theorem createRoom_ok {host : ConnectedUser} {name : Option String} {visibility : String}
    {roomId : RoomId} {draws : List String} {created : GameRoom × RoomManager}
    (ok : manager.createRoom host name visibility roomId draws = some (.ok created)) :
    ∃ validatedName visibility roomCode,
      created = manager.openRoom host validatedName visibility roomId roomCode := by
  rw [createRoom] at ok
  split at ok
  · cases ok
  · cases ok
  · split at ok
    · cases ok
    · split at ok
      · cases ok
      · split at ok
        · cases ok
          exact ⟨_, _, _, rfl⟩
        · obtain ⟨code, -, same⟩ := Option.map_eq_some_iff.mp ok
          cases same
          exact ⟨_, _, _, rfl⟩

/-- A room that is not public is opened unseen. -/
theorem createRoom_quiet (createdAt : RoomId → DateTime) {host : ConnectedUser}
    {name : Option String} {visibility : String} {roomId : RoomId} {draws : List String}
    (fresh : roomId ∉ manager.rooms)
    (quiet : manager.announces (.createRoom host name visibility roomId draws) = false) :
    (manager.snapshot createdAt).Same
      ((manager.step (.createRoom host name visibility roomId draws)).snapshot createdAt) := by
  simp only [announces] at quiet
  rw [step]
  split
  · exact .refl _
  · next result answered =>
      cases result with
      | error => exact .refl _
      | ok created =>
          rw [answered] at quiet
          obtain ⟨validatedName, shown, roomCode, rfl⟩ := createRoom_ok answered
          have inserted : (manager.openRoom host validatedName shown roomId roomCode).2.rooms =
              manager.rooms.insert roomId
                (manager.openRoom host validatedName shown roomId roomCode).1 :=
            rfl
          refine same_of_listable createdAt fun other room listable => ?_
          rw [settle, inserted, ReverseIndex.lookup_insert]
          split
          · next same =>
              rw [same, AList.lookup_eq_none.mpr fresh]
              refine iff_of_false (fun listed => ?_) fun stored => ?_
              · cases listed
              · cases stored
                exact listable.elim RoomStatus.noConfusion (of_decide_eq_false quiet)
          · rfl

/-- A connection that is closed without a change of the lobby was not listed with a room, nor
counted with one. -/
theorem removeConnection_quiet (createdAt : RoomId → DateTime) (keyed : manager.Keyed)
    {userId : UserId} {connection : ConnectionId}
    (quiet : (manager.removeConnection userId connection).1.lobbyChanged = false) :
    (manager.snapshot createdAt).Same
      ((manager.removeConnection userId connection).2.snapshot createdAt) := by
  have closed : ∀ unchanged : (manager.closeSpectator connection).1 = false,
      (manager.closeSpectator connection).2.rooms = manager.rooms := by
    intro unchanged
    rw [closeSpectator] at unchanged ⊢
    split
    · rfl
    · next roomId watched =>
        rw [watched] at unchanged
        have absent : manager.rooms.lookup roomId = none := Option.isSome_eq_false_iff.mp unchanged
          |> Option.isNone_iff_eq_none.mp
        rw [dropSpectator]
        simp only [absent]
  simp only [removeConnection] at quiet ⊢
  split at quiet
  · exact same_of_rooms createdAt (closed quiet)
  · next room found =>
      split at quiet
      · next owns =>
          rw [if_pos owns]
          simp only [Bool.or_eq_false_iff, decide_eq_false_iff_not] at quiet
          obtain ⟨⟨unchanged, resting⟩, unlisted⟩ := quiet
          obtain ⟨roomId, -, stored⟩ := Option.bind_eq_some_iff.mp found
          rw [closed unchanged] at stored
          obtain rfl := keyed roomId room stored
          have erased : ((manager.closeSpectator connection).2.removeRoom room).rooms =
              manager.rooms.erase room.roomId := by
            rw [← closed unchanged]
            rfl
          refine same_of_listable createdAt fun other listed listable => ?_
          rw [erased, ReverseIndex.lookup_erase]
          split
          · next same =>
              rw [same, stored]
              refine iff_of_false (fun was => ?_) fun remains => ?_
              · cases was
                exact listable.elim resting unlisted
              · cases remains
          · rfl
      · next foreign =>
          rw [if_neg foreign]
          exact same_of_rooms createdAt (closed quiet)

/-- **What is not announced does not change the lobby**, unless it undoes what was. -/
theorem step_quiet (createdAt : RoomId → DateTime) (keyed : manager.Keyed) {input : RoomStep}
    (fresh : manager.Fresh input) (quiet : manager.announces input = false)
    (lasting : undoes input = false) :
    (manager.snapshot createdAt).Same ((manager.step input).snapshot createdAt) := by
  cases input with
  | createRoom => exact createRoom_quiet createdAt fresh quiet
  | joinPublicRoom | joinHiddenRoom | matchPlayers | watchRoom | leaveSpectator =>
      rw [step, settle_of_not_isOk quiet]
      exact .refl _
  | discardRoom | rollbackJoin => cases lasting
  | finishRoom => cases quiet
  | subscribeLobby connection =>
      rw [step, subscribeLobby]
      split
      · exact .refl _
      · exact same_of_rooms createdAt rfl
  | removeConnection userId connection => exact removeConnection_quiet createdAt keyed quiet

end RoomManager

/-! ## Subscribers -/

namespace RoomManager

variable {manager : RoomManager}

/-- Only a subscription adds a subscriber. -/
theorem subset_lobbySubscribers (input : RoomStep)
    (other : ∀ connection, input ≠ .subscribeLobby connection) :
    (manager.step input).lobbySubscribers ⊆ manager.lobbySubscribers := by
  cases visit : input.isVisit with
  | false => rw [(manager.visitors_step visit).1]; exact List.Subset.refl _
  | true =>
      cases input with
      | watchRoom roomId spectator =>
          rw [step, watchRoom]
          repeat' split
          all_goals exact List.Subset.refl _
      | leaveSpectator connection roomId =>
          rw [step, leaveSpectator]
          split
          all_goals exact List.Subset.refl _
      | subscribeLobby connection => exact absurd rfl (other connection)
      | removeConnection userId connection =>
          have closed : (manager.closeSpectator connection).2.lobbySubscribers =
              manager.lobbySubscribers.erase connection := by
            rw [closeSpectator]
            split
            · rfl
            · rfl
          simp only [step, removeConnection]
          have fewer : (manager.closeSpectator connection).2.lobbySubscribers ⊆
              manager.lobbySubscribers :=
            closed ▸ List.erase_subset
          split
          · exact fewer
          · split
            · exact fewer
            · exact fewer
      | createRoom | joinPublicRoom | joinHiddenRoom | matchPlayers | discardRoom | rollbackJoin
      | finishRoom => cases visit

end RoomManager

namespace LobbyFeed

/-- Every subscriber's newest snapshot is up to date, unless a handler is about to announce a
change, or has failed before it could. -/
def Current (createdAt : RoomId → DateTime) (feed : LobbyFeed) : Prop :=
  feed.owed = 0 → feed.missed = false →
    ∀ connection ∈ feed.manager.lobbySubscribers, ∃ snapshot,
      feed.taken connection = some snapshot ∧ snapshot.Same (feed.manager.snapshot createdAt)

variable {createdAt : RoomId → DateTime} {feed : LobbyFeed}

/-- Who was a subscriber keeps its snapshot, and a new one gets the lobby as it is. -/
theorem answer_eq (createdAt : RoomId → DateTime) {input : RoomStep} {connection : ConnectionId}
    (member : connection ∈ (feed.manager.step input).lobbySubscribers) :
    connection ∈ feed.manager.lobbySubscribers ∧
        feed.answer createdAt input connection = feed.taken connection ∨
      feed.answer createdAt input connection =
        some ((feed.manager.step input).snapshot createdAt) := by
  by_cases subscribes : ∃ subscriber, input = .subscribeLobby subscriber
  · obtain ⟨subscriber, rfl⟩ := subscribes
    rw [RoomManager.step, RoomManager.subscribeLobby] at member ⊢
    rw [answer, RoomManager.subscribeLobby]
    split at member
    · next known =>
        rw [if_pos known]
        exact .inl ⟨member, rfl⟩
    · next unknown =>
        rw [if_neg unknown]
        rcases List.mem_append.mp member with before | new
        · refine .inl ⟨before, Function.update_of_ne ?_ _ _⟩
          rintro rfl
          exact unknown before
        · rw [List.mem_singleton.mp new]
          exact .inr (Function.update_self ..)
  · refine .inl ⟨RoomManager.subset_lobbySubscribers input
      (fun subscriber equal => subscribes ⟨subscriber, equal⟩) member, ?_⟩
    cases input with
    | subscribeLobby subscriber => exact absurd ⟨subscriber, rfl⟩ subscribes
    | createRoom | joinPublicRoom | joinHiddenRoom | matchPlayers | discardRoom | rollbackJoin
    | watchRoom | leaveSpectator | finishRoom | removeConnection => rfl

theorem Current.operate (current : feed.Current createdAt) (staged : feed.manager.Staged)
    {input : RoomStep} (fresh : feed.manager.Fresh input) :
    (feed.step createdAt (.operate input)).Current createdAt := by
  intro settled kept connection member
  rw [step] at settled kept member ⊢
  obtain ⟨missed, lasting⟩ := Bool.or_eq_false_iff.mp kept
  obtain ⟨owed, free⟩ := Nat.add_eq_zero_iff.mp settled
  have quiet : feed.manager.announces input = false := by
    cases announced : feed.manager.announces input with
    | false => rfl
    | true =>
        rw [announced] at free
        cases free
  rcases answer_eq createdAt member with ⟨before, old⟩ | new
  · obtain ⟨snapshot, taken, same⟩ := current owed missed connection before
    exact ⟨snapshot, old.trans taken,
      same.trans (RoomManager.step_quiet createdAt staged.keyed fresh quiet lasting)⟩
  · exact ⟨_, new, .refl _⟩

/-- A room gets an identifier that no stored room has. -/
def Fresh (feed : LobbyFeed) : FeedStep → Prop
  | .operate input => feed.manager.Fresh input
  | .announce | .fail => True

instance (feed : LobbyFeed) (input : FeedStep) : Decidable (feed.Fresh input) :=
  match input with
  | .operate input => inferInstanceAs (Decidable (feed.manager.Fresh input))
  | .announce | .fail => inferInstanceAs (Decidable True)

/-- Every step keeps the subscribers up to date. -/
theorem step_current {input : FeedStep} (fresh : feed.Fresh input)
    (holds : feed.manager.Staged ∧ feed.Current createdAt) :
    (feed.step createdAt input).manager.Staged ∧ (feed.step createdAt input).Current createdAt := by
  obtain ⟨staged, current⟩ := holds
  cases input with
  | operate input => exact ⟨RoomManager.step_staged staged input, current.operate staged fresh⟩
  | announce => exact ⟨staged, fun _ _ connection member => ⟨_, if_pos member, .refl _⟩⟩
  | fail => exact ⟨staged, fun _ kept => Bool.noConfusion kept⟩

/-- **The lobby is announced.** In every interleaving of the operations with the announcements
of their handlers: when no announcement is due, and no handler has failed since the last one,
the newest snapshot taken for each subscriber lists the rooms and games there are. -/
theorem run_current (createdAt : RoomId → DateTime) (inputs : List FeedStep)
    (fresh : ∀ visit ∈ Trace.visits (step createdAt) {} inputs, visit.1.Fresh visit.2)
    (owed : (Trace.run (step createdAt) {} inputs).owed = 0)
    (missed : (Trace.run (step createdAt) {} inputs).missed = false)
    (connection : ConnectionId)
    (subscribed : connection ∈ (Trace.run (step createdAt) {} inputs).manager.lobbySubscribers) :
    ∃ snapshot, (Trace.run (step createdAt) {} inputs).taken connection = some snapshot ∧
      snapshot.Same ((Trace.run (step createdAt) {} inputs).manager.snapshot createdAt) := by
  have holds : (Trace.run (step createdAt) {} inputs).manager.Staged ∧
      (Trace.run (step createdAt) {} inputs).Current createdAt :=
    Trace.run_rule
      (motive := fun feed => feed.manager.Staged ∧ feed.Current createdAt) Fresh
      (fun _ _ fresh holds => step_current fresh holds) inputs {} fresh
      ⟨ReverseIndex.Filed.empty, fun _ _ _ impossible => absurd impossible List.not_mem_nil⟩
  exact holds.2 owed missed connection subscribed

/-- A subscriber sees a room come, a hidden room is opened unseen, and a game is announced only
after its host has left. -/
def quietLobby : List FeedStep :=
  [.operate (.subscribeLobby 20),
    .operate (.createRoom { userId := 1, websocket := 11 } (some "Table") "public" 100 []),
    .announce,
    .operate (.createRoom { userId := 3, websocket := 13 } (some "Cellar") "hidden" 101 ["ABCDEF"]),
    .operate (.joinPublicRoom 100 { userId := 2, websocket := 12 }),
    .operate (.removeConnection 1 11), .announce, .announce]

theorem run_current_quietLobby :
    ∃ snapshot, (Trace.run (step fun _ => RoomManager.noon) {} quietLobby).taken 20 = some snapshot ∧
      snapshot.Same ((Trace.run (step fun _ => RoomManager.noon) {} quietLobby).manager.snapshot
        fun _ => RoomManager.noon) :=
  run_current (fun _ => RoomManager.noon) quietLobby (by decide +kernel) (by decide +kernel)
    (by decide +kernel) 20 (by decide +kernel)

end LobbyFeed

end KungFuChess

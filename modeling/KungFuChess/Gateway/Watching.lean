import KungFuChess.Gateway.Matches
import KungFuChess.Gateway.RoomRemains

/-!
# Watching a game

The handler of `watch_game` registers the spectator with the room, answers, and then
asks the match manager for the state of the match. Between the two the other loops go
on. When the match is not there, the handler answers with an error and leaves the
registration where it is: it is undone only if a player of the room has gone in
between and the room was removed with its spectators.
-/

set_option autoImplicit false

namespace KungFuChess

open ReverseIndex

/-! ## The handler -/

/-- The section of `watch_match`: the match whose state is sent to the spectator. -/
def MatchManager.watchMatch (manager : MatchManager) (roomId : RoomId) :
    Except MatchOperationError ActiveMatch :=
  match manager.matches_.lookup roomId with
  | none => .error ⟨"match_not_found", "The authoritative match is not available."⟩
  | some found => .ok found

namespace RoomManager

/-- What a handler answers, when it is an error, and the rooms it leaves. -/
structure WatchOutcome where
  error : Option (String × String)
  rooms : RoomManager

/-- The handling of `watch_game`: the operations of the other loops run while the first
answer is sent, and `matches_` is the table of matches that is found then. -/
def watchGame (manager : RoomManager) (roomId : RoomId) (spectator : ConnectedUser)
    (between : List RoomStep) (matches_ : MatchManager) : WatchOutcome :=
  match manager.watchRoom roomId spectator with
  | .error error => ⟨some (error.code, error.message), manager⟩
  | .ok (room, watching) =>
      match matches_.watchMatch room.roomId with
      | .error error => ⟨some (error.code, error.message), Trace.run step watching between⟩
      | .ok _ => ⟨none, Trace.run step watching between⟩

/-- What the spectator index and the spectators of a room hold for a connection. -/
def registration (manager : RoomManager) (roomId : RoomId) (connection : ConnectionId) :
    Option RoomId × Option ConnectedUser :=
  (manager.spectatorRoomByConnection.lookup connection,
    (manager.rooms.lookup roomId).bind fun room => room.spectators.lookup connection)

/-- The operation comes from another connection than this one. -/
def Foreign (connection : ConnectionId) : RoomStep → Prop
  | .watchRoom _ spectator => spectator.websocket ≠ connection
  | .leaveSpectator other _ => other ≠ connection
  | .removeConnection _ other => other ≠ connection
  | _ => True

instance (connection : ConnectionId) : ∀ input, Decidable (Foreign connection input)
  | .watchRoom _ spectator => inferInstanceAs (Decidable (spectator.websocket ≠ connection))
  | .leaveSpectator other _ | .removeConnection _ other =>
      inferInstanceAs (Decidable (other ≠ connection))
  | .createRoom .. | .joinPublicRoom .. | .joinHiddenRoom .. | .matchPlayers .. | .discardRoom _
  | .rollbackJoin .. | .finishRoom _ | .subscribeLobby _ => inferInstanceAs (Decidable True)

/-- A player goes, and the room is removed with its spectators, this one among them. -/
def Unseats (manager : RoomManager) (connection : ConnectionId) : RoomStep → Prop
  | .removeConnection userId other =>
      ∃ room ∈ manager.releases (.removeConnection userId other), connection ∈ room.spectators
  | _ => False

/-! ## The spectators of a room are in the index -/

/-- The index sends the spectators of every stored room to the room. -/
def Enrolled (manager : RoomManager) : Prop :=
  Filed manager.rooms fun roomId room => room.roomId = roomId ∧
    ∀ connection ∈ room.spectators,
      manager.spectatorRoomByConnection.lookup connection = some roomId

namespace Enrolled

variable {manager after : RoomManager} {room : GameRoom} {roomId : RoomId}

theorem of_tables (enrolled : manager.Enrolled) (rooms : after.rooms = manager.rooms)
    (spectators : after.spectatorRoomByConnection = manager.spectatorRoomByConnection) :
    after.Enrolled := by
  rw [Enrolled, rooms, spectators]
  exact enrolled

/-- A room is stored, or stored again, with spectators that the index knows. -/
theorem insert (enrolled : manager.Enrolled) (room : GameRoom) (own : room.roomId = roomId)
    (known : ∀ connection ∈ room.spectators,
      manager.spectatorRoomByConnection.lookup connection = some roomId)
    (rooms : after.rooms = manager.rooms.insert roomId room)
    (spectators : after.spectatorRoomByConnection = manager.spectatorRoomByConnection) :
    after.Enrolled := by
  rw [Enrolled, rooms, spectators]
  exact Filed.insert enrolled ⟨own, known⟩

/-- A room is stored again with the same spectators. -/
theorem restored (enrolled : manager.Enrolled) (changed : GameRoom)
    (stored : manager.rooms.lookup roomId = some room) (own : changed.roomId = room.roomId)
    (watched : changed.spectators = room.spectators)
    (rooms : after.rooms = manager.rooms.insert roomId changed)
    (spectators : after.spectatorRoomByConnection = manager.spectatorRoomByConnection) :
    after.Enrolled := by
  obtain ⟨named, known⟩ := enrolled roomId room stored
  exact enrolled.insert changed (own.trans named) (watched ▸ known) rooms spectators

theorem keyed (enrolled : manager.Enrolled) : manager.Keyed :=
  fun roomId room stored => (enrolled roomId room stored).1

theorem watchRoom (enrolled : manager.Enrolled) (roomId : RoomId) (spectator : ConnectedUser) :
    (manager.settle (manager.watchRoom roomId spectator) Prod.snd).Enrolled := by
  rw [RoomManager.watchRoom]
  split
  · exact enrolled
  · next room stored =>
      split
      · exact enrolled
      · split
        · exact enrolled
        · split
          · exact enrolled
          · next elsewhere =>
              obtain rfl := enrolled.keyed roomId room stored
              -- Nobody else's entry is changed.
              have kept : ∀ {connection other},
                  manager.spectatorRoomByConnection.lookup connection = some other →
                  (manager.spectatorRoomByConnection.insert spectator.websocket
                    room.roomId).lookup connection = some other := by
                intro connection other indexed
                rw [lookup_insert, if_neg, indexed]
                rintro rfl
                rw [AList.lookup_eq_none.mpr elsewhere] at indexed
                cases indexed
              refine Filed.insert (fun other found there => ?_) ⟨rfl, fun connection here => ?_⟩
              · obtain ⟨named, known⟩ := enrolled other found there
                exact ⟨named, fun connection here => kept (known connection here)⟩
              · rcases (AList.mem_insert _).mp here with rfl | before
                · exact AList.lookup_insert _
                · exact kept ((enrolled room.roomId room stored).2 connection before)

theorem dropSpectator (enrolled : manager.Enrolled) {connection : ConnectionId}
    (watching : manager.spectatorRoomByConnection.lookup connection = some roomId) :
    (manager.dropSpectator roomId connection).Enrolled := by
  -- The dropped connection was in no other room.
  have kept : ∀ other found, manager.rooms.lookup other = some found → other ≠ roomId →
      ∀ spectator ∈ found.spectators,
        (manager.spectatorRoomByConnection.erase connection).lookup spectator = some other := by
    intro other found there distinct spectator here
    have indexed := (enrolled other found there).2 spectator here
    rw [lookup_erase, if_neg, indexed]
    rintro rfl
    exact distinct (Option.some.inj (indexed.symm.trans watching))
  intro other found there
  cases stored : manager.rooms.lookup roomId with
  | none =>
      simp only [RoomManager.dropSpectator, stored] at there ⊢
      refine ⟨enrolled.keyed other found there, kept other found there ?_⟩
      rintro rfl
      rw [stored] at there
      cases there
  | some room =>
      simp only [RoomManager.dropSpectator, stored, lookup_insert] at there ⊢
      split at there
      · next same =>
          subst same
          obtain rfl := Option.some.inj there
          obtain ⟨named, known⟩ := enrolled other room stored
          refine ⟨named, fun spectator here => ?_⟩
          obtain ⟨apart, before⟩ := AList.mem_erase.mp here
          rw [lookup_erase, if_neg apart]
          exact known spectator before
      · next distinct =>
          exact ⟨enrolled.keyed other found there, kept other found there distinct⟩

theorem removeRoom (enrolled : manager.Enrolled)
    (stored : manager.rooms.lookup roomId = some room) : (manager.removeRoom room).Enrolled := by
  obtain rfl := enrolled.keyed roomId room stored
  intro other found there
  simp only [RoomManager.removeRoom, freePlayers, forgetCode, lookup_erase] at there ⊢
  split at there
  · cases there
  · next distinct =>
      obtain ⟨named, known⟩ := enrolled other found there
      refine ⟨named, fun spectator here => ?_⟩
      have indexed := known spectator here
      rw [lookup_eraseAll, if_neg, indexed]
      intro removed
      have there := (enrolled room.roomId room stored).2 spectator (AList.mem_keys.mp removed)
      exact distinct (Option.some.inj (indexed.symm.trans there))

theorem removeConnection (enrolled : manager.Enrolled) (userId : UserId)
    (connection : ConnectionId) : (manager.removeConnection userId connection).2.Enrolled := by
  have closed : (manager.closeSpectator connection).2.Enrolled := by
    have quiet : { manager with
        lobbySubscribers := manager.lobbySubscribers.erase connection : RoomManager }.Enrolled :=
      enrolled.of_tables rfl rfl
    rw [closeSpectator]
    split
    · exact quiet
    · next watching => exact quiet.dropSpectator watching
  simp only [RoomManager.removeConnection]
  split
  · exact closed
  · next room found =>
      obtain ⟨_, _, stored⟩ := Option.bind_eq_some_iff.mp found
      split
      · exact closed.removeRoom stored
      · exact closed

theorem openRoom (enrolled : manager.Enrolled) (host : ConnectedUser) (name : String)
    (visibility : RoomVisibility) (roomId : RoomId) (roomCode : Option String) :
    (manager.openRoom host name visibility roomId roomCode).2.Enrolled := by
  refine enrolled.insert (manager.openRoom host name visibility roomId roomCode).1 rfl
    (fun connection here => ?_) rfl rfl
  exact absurd here (AList.notMem_empty connection)

theorem seatGuest (enrolled : manager.Enrolled) {guest : ConnectedUser}
    (vacancy : manager.Vacancy room guest) : (manager.seatGuest room guest).2.Enrolled := by
  obtain ⟨roomId, stored⟩ := vacancy.stored
  obtain rfl := enrolled.keyed roomId room stored
  exact enrolled.restored (manager.seatGuest room guest).1 stored rfl rfl rfl rfl

theorem step (enrolled : manager.Enrolled) (input : RoomStep) : (manager.step input).Enrolled := by
  cases input with
  | createRoom host name visibility roomId draws =>
      rcases manager.createRoom_cases host name visibility roomId draws with
        same | ⟨-, validatedName, opened | ⟨code, -, opened⟩⟩
      · rw [same]
        exact enrolled
      · rw [opened]
        exact enrolled.openRoom host validatedName .visible roomId none
      · rw [opened]
        exact enrolled.openRoom host validatedName .hidden roomId (some code)
  | joinPublicRoom roomId guest =>
      rcases joinPublicRoom_cases roomId guest with same | ⟨room, vacancy, seated⟩
      · rw [same]
        exact enrolled
      · rw [seated]
        exact enrolled.seatGuest vacancy
  | joinHiddenRoom code guest =>
      rcases joinHiddenRoom_cases code guest with same | ⟨room, vacancy, seated⟩
      · rw [same]
        exact enrolled
      · rw [seated]
        exact enrolled.seatGuest vacancy
  | matchPlayers first second roomId suffix =>
      rw [RoomManager.step, matchPlayers]
      split
      · exact enrolled
      · refine enrolled.insert
          { roomId := roomId, name := "Quick Match " ++ suffix, visibility := .visible,
            host := first, guest := some second, white := some first, black := some second,
            status := .active } rfl (fun connection here => ?_) rfl rfl
        exact absurd here (AList.notMem_empty connection)
  | discardRoom roomId =>
      rw [RoomManager.step, discardRoom]
      split
      · exact enrolled
      · exact Filed.erase enrolled roomId
  | rollbackJoin roomId guestId =>
      rw [RoomManager.step, rollbackJoin]
      split
      · exact enrolled
      · next room stored =>
          obtain rfl := enrolled.keyed roomId room stored
          split
          · exact enrolled.restored room.vacated stored rfl rfl rfl rfl
          · exact enrolled
  | watchRoom roomId spectator => exact enrolled.watchRoom roomId spectator
  | leaveSpectator connection roomId =>
      rw [RoomManager.step, leaveSpectator]
      split
      · exact enrolled
      · next watching => exact enrolled.dropSpectator (not_not.mp watching)
  | finishRoom roomId =>
      rw [RoomManager.step, finishRoom]
      split
      · exact enrolled
      · next room stored =>
          obtain rfl := enrolled.keyed roomId room stored
          split
          · exact enrolled
          · exact enrolled.restored { room with status := .finished } stored rfl rfl rfl rfl
  | subscribeLobby connection =>
      rw [RoomManager.step, subscribeLobby]
      split
      · exact enrolled
      · exact enrolled.of_tables rfl rfl
  | removeConnection userId connection => exact enrolled.removeConnection userId connection

end Enrolled

/-! ## What the others do to a registration -/

theorem lookup_closeSpectator (manager : RoomManager) {connection other : ConnectionId}
    (foreign : other ≠ connection) :
    (manager.closeSpectator other).2.spectatorRoomByConnection.lookup connection =
      manager.spectatorRoomByConnection.lookup connection := by
  rw [closeSpectator]
  split
  · rfl
  · simp only [dropSpectator, lookup_erase, foreign.symm, if_false]

theorem watched_closeSpectator {manager : RoomManager} {connection other : ConnectionId}
    (foreign : other ≠ connection) {roomId : RoomId} {room closed : GameRoom}
    (stored : manager.rooms.lookup roomId = some room)
    (found : (manager.closeSpectator other).2.rooms.lookup roomId = some closed) :
    connection ∈ closed.spectators ↔ connection ∈ room.spectators := by
  have same : manager.rooms.lookup roomId = some closed →
      (connection ∈ closed.spectators ↔ connection ∈ room.spectators) := by
    intro there
    obtain rfl := Option.some.inj (stored.symm.trans there)
    rfl
  rw [closeSpectator] at found
  split at found
  · exact same found
  · next watched _ =>
      simp only [dropSpectator] at found
      cases was : manager.rooms.lookup watched with
      | none =>
          rw [was] at found
          exact same found
      | some before =>
          rw [was] at found
          simp only [lookup_insert] at found
          split at found
          · next here =>
              subst here
              obtain rfl := Option.some.inj (was.symm.trans stored)
              obtain rfl := Option.some.inj found
              rw [AList.mem_erase, and_iff_right foreign.symm]
          · exact same found

theorem lookup_removeConnection_eq_none {manager : RoomManager} {connection other : ConnectionId}
    (foreign : other ≠ connection) (userId : UserId) :
    (manager.removeConnection userId other).2.spectatorRoomByConnection.lookup connection = none ↔
      manager.spectatorRoomByConnection.lookup connection = none ∨
        manager.Unseats connection (.removeConnection userId other) := by
  have kept := manager.lookup_closeSpectator foreign
  have playing := manager.closeSpectator_room userId other
  simp only [RoomManager.removeConnection, Unseats, releases]
  generalize before : (manager.playerRoomByUser.lookup userId).bind manager.rooms.lookup = was
    at playing
  generalize after : ((manager.closeSpectator other).2.playerRoomByUser.lookup userId).bind
    (manager.closeSpectator other).2.rooms.lookup = now at playing
  cases playing with
  | none =>
      simp only [Option.filter_none, kept]
      exact (or_iff_left fun impossible => Option.not_mem_none _ impossible.choose_spec.1).symm
  | @some room closed alike =>
      obtain ⟨roomId, indexed, stored⟩ := Option.bind_eq_some_iff.mp before
      obtain ⟨foundId, indexed', found⟩ := Option.bind_eq_some_iff.mp after
      rw [closeSpectator_playerRoomByUser] at indexed'
      obtain rfl := Option.some.inj (indexed.symm.trans indexed')
      have watched : connection ∈ closed.spectators.keys ↔ connection ∈ room.spectators :=
        AList.mem_keys.symm.trans (watched_closeSpectator foreign stored found)
      have owns : ownsConnection closed userId other = ownsConnection room userId other := by
        obtain ⟨spectators, rfl⟩ := alike
        rfl
      cases own : ownsConnection room userId other with
      | true =>
          rw [own] at owns
          simp only [owns, own, Option.filter_some, if_true]
          have erased : ((manager.closeSpectator other).2.removeRoom closed
              ).spectatorRoomByConnection.lookup connection =
              if connection ∈ closed.spectators.keys then none
              else (manager.closeSpectator other).2.spectatorRoomByConnection.lookup connection :=
            lookup_eraseAll ..
          rw [erased, kept]
          simp only [watched, Option.mem_def, Option.some.injEq, exists_eq_left']
          by_cases here : connection ∈ room.spectators
          · simp only [here, if_true, or_true]
          · simp only [here, if_false, or_false]
      | false =>
          rw [own] at owns
          simp only [owns, own, Option.filter_some, Bool.false_eq_true, if_false, kept]
          exact (or_iff_left fun impossible => Option.not_mem_none _ impossible.choose_spec.1).symm

/-- **An operation of another connection** erases the entry of this one only by removing
the room it watches. -/
theorem lookup_step_eq_none {manager : RoomManager}
    {connection : ConnectionId} {input : RoomStep} (foreign : Foreign connection input) :
    (manager.step input).spectatorRoomByConnection.lookup connection = none ↔
      manager.spectatorRoomByConnection.lookup connection = none ∨
        manager.Unseats connection input := by
  cases visit : input.isVisit with
  | false =>
      rw [(visitors_step visit).2, or_iff_left]
      cases input with
      | removeConnection => cases visit
      | createRoom | joinPublicRoom | joinHiddenRoom | matchPlayers | discardRoom | rollbackJoin
      | watchRoom | leaveSpectator | finishRoom | subscribeLobby => exact id
  | true =>
      cases input with
      | watchRoom roomId spectator =>
          refine Iff.trans ?_ (or_iff_left id).symm
          rw [step, watchRoom]
          split
          · rfl
          · split
            · rfl
            · split
              · rfl
              · split
                · rfl
                · simp only [settle, lookup_insert, foreign.symm, if_false, storeRoom]
      | leaveSpectator other roomId =>
          refine Iff.trans ?_ (or_iff_left id).symm
          rw [step, leaveSpectator]
          split
          · rfl
          · simp only [settle, id, dropSpectator, lookup_erase, foreign.symm, if_false]
      | subscribeLobby other =>
          refine Iff.trans ?_ (or_iff_left id).symm
          rw [step, subscribeLobby]
          split <;> rfl
      | removeConnection userId other => exact lookup_removeConnection_eq_none foreign userId
      | createRoom | joinPublicRoom | joinHiddenRoom | matchPlayers | discardRoom | rollbackJoin
      | finishRoom => cases visit

/-- A run of operations of the others. -/
theorem lookup_run_eq_none {connection : ConnectionId} {inputs : List RoomStep} :
    ∀ {manager : RoomManager}, (∀ input ∈ inputs, Foreign connection input) →
    ((Trace.run step manager inputs).spectatorRoomByConnection.lookup connection = none ↔
      manager.spectatorRoomByConnection.lookup connection = none ∨
        ∃ visit ∈ Trace.visits step manager inputs, visit.1.Unseats connection visit.2) := by
  induction inputs with
  | nil =>
      intro manager _
      exact (or_iff_left fun impossible => List.not_mem_nil impossible.choose_spec.1).symm
  | cons input rest ih =>
      intro manager foreign
      rw [Trace.run_cons, ih fun other member => foreign other (List.mem_cons_of_mem _ member),
        lookup_step_eq_none (foreign input List.mem_cons_self), or_assoc]
      refine or_congr_right ?_
      simp only [Trace.visits, List.mem_cons, exists_eq_or_imp]

/-! ## A failed watch -/

/-- A connection that is not in the index is registered nowhere. -/
theorem Enrolled.registration_eq {manager : RoomManager} (enrolled : manager.Enrolled)
    {connection : ConnectionId}
    (absent : manager.spectatorRoomByConnection.lookup connection = none) (roomId : RoomId) :
    manager.registration roomId connection = (none, none) := by
  rw [registration, absent, Prod.mk.injEq, and_iff_right rfl, Option.bind_eq_none_iff]
  intro room stored
  rw [AList.lookup_eq_none]
  intro watching
  rw [(enrolled roomId room stored).2 connection watching] at absent
  cases absent

/-- What a registered spectator finds before and after. -/
theorem watchRoom_ok {manager watching : RoomManager} {roomId : RoomId} {spectator : ConnectedUser}
    {room : GameRoom} (ok : manager.watchRoom roomId spectator = .ok (room, watching)) :
    manager.spectatorRoomByConnection.lookup spectator.websocket = none ∧
      watching.spectatorRoomByConnection.lookup spectator.websocket = some roomId := by
  rw [watchRoom] at ok
  split at ok
  · cases ok
  · split at ok
    · cases ok
    · split at ok
      · cases ok
      · split at ok
        · cases ok
        · next absent =>
            cases ok
            exact ⟨AList.lookup_eq_none.mpr absent, AList.lookup_insert _⟩

/-- **Exactly when a failed watch leaves nothing behind.** After any history of the
rooms: the registration of the connection is what it was if and only if the room
manager itself refused, or a player of the room went before the match was looked up,
so that the room was removed with its spectators. -/
theorem watchGame_undone_iff (history : List RoomStep) (roomId : RoomId)
    (spectator : ConnectedUser) (between : List RoomStep) (matches_ : MatchManager)
    (others : ∀ input ∈ between, Foreign spectator.websocket input)
    (failed : ((Trace.run step {} history).watchGame roomId spectator between matches_).error ≠
      none) :
    ((Trace.run step {} history).watchGame roomId spectator between matches_).rooms.registration
        roomId spectator.websocket =
      (Trace.run step {} history).registration roomId spectator.websocket ↔
    ∀ room watching,
      (Trace.run step {} history).watchRoom roomId spectator = .ok (room, watching) →
      ∃ visit ∈ Trace.visits step watching between,
        visit.1.Unseats spectator.websocket visit.2 := by
  have enrolled : (Trace.run step {} history).Enrolled :=
    Trace.run_invariant (fun _ input enrolled => enrolled.step input) history Filed.empty
  generalize Trace.run step {} history = before at *
  rw [watchGame] at failed ⊢
  cases watched : before.watchRoom roomId spectator with
  | error error => exact iff_of_true rfl (by rintro _ _ ⟨⟩)
  | ok done =>
      obtain ⟨room, watching⟩ := done
      obtain ⟨absent, present⟩ := watchRoom_ok watched
      have seated : watching.Enrolled := by
        have stepped := enrolled.watchRoom roomId spectator
        rw [watched] at stepped
        exact stepped
      have later : (Trace.run step watching between).Enrolled :=
        Trace.run_invariant (fun _ input enrolled => enrolled.step input) between seated
      simp only [watched] at failed ⊢
      cases found : matches_.watchMatch room.roomId with
      | ok match_ =>
          rw [found] at failed
          exact absurd rfl failed
      | error error =>
          simp only [enrolled.registration_eq absent roomId]
          have gone : (Trace.run step watching between).spectatorRoomByConnection.lookup
              spectator.websocket = none ↔ _ := lookup_run_eq_none others
          rw [present, or_iff_right (Option.some_ne_none roomId)] at gone
          constructor
          · rintro same _ _ ⟨⟩
            exact gone.mp (congrArg Prod.fst same)
          · intro unseated
            exact later.registration_eq (gone.mpr (unseated room watching rfl)) roomId

/-- A room is joined, and its game is not started yet. -/
def startingRoom : List RoomStep :=
  [.createRoom { userId := 1, websocket := 11 } (some "Table") "public" 100 [],
    .joinPublicRoom 100 { userId := 2, websocket := 12 }]

/-- The guest goes while the spectator is answered. -/
theorem watchGame_undone_iff_startingRoom :
    ((Trace.run step {} startingRoom).watchGame 100 { userId := 3, websocket := 13 }
        [.removeConnection 2 12] {}).rooms.registration 100 13 =
      (Trace.run step {} startingRoom).registration 100 13 ↔
    ∀ room watching,
      (Trace.run step {} startingRoom).watchRoom 100 { userId := 3, websocket := 13 } =
        .ok (room, watching) →
      ∃ visit ∈ Trace.visits step watching [.removeConnection 2 12], visit.1.Unseats 13 visit.2 :=
  watchGame_undone_iff startingRoom 100 { userId := 3, websocket := 13 } [.removeConnection 2 12] {}
    (by decide +kernel) (by decide +kernel)

/-- The spectator is told that there is no match, and is registered all the same. -/
theorem startingRoom_stillWatched :
    ((Trace.run step {} startingRoom).watchGame 100 { userId := 3, websocket := 13 } [] {}).error =
        some ("match_not_found", "The authoritative match is not available.") ∧
      ((Trace.run step {} startingRoom).watchGame 100 { userId := 3, websocket := 13 } []
          {}).rooms.registration 100 13 ≠
        (Trace.run step {} startingRoom).registration 100 13 := by
  decide +kernel

end RoomManager

end KungFuChess

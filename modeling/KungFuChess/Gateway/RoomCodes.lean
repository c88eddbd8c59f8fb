import KungFuChess.Gateway.RoomIndexes
import KungFuChess.Gateway.RoomTable

/-!
# The codes of the hidden rooms

A hidden room is found under its code while it waits. The code leaves the index
when a guest joins and comes back when the join is rolled back, but a new code is
checked against the index alone: a room opened in between can draw the same code.
From then on the room that gives its code back, or that is removed with it, takes
the code away from the room that waits under it.

`CodeStep` says once what an operation does to the rooms and their codes.
-/

set_option autoImplicit false

namespace KungFuChess

open ReverseIndex

namespace GameRoom

/-- A guest can join the room. -/
def Joinable (room : GameRoom) : Prop := room.status = .waiting ∧ room.guest = none

instance (room : GameRoom) : Decidable room.Joinable := inferInstanceAs (Decidable (_ ∧ _))

/-- The room once a guest has joined it. -/
def seated (room : GameRoom) (guest : ConnectedUser) : GameRoom :=
  { room with guest := some guest, white := some room.host, black := some guest
              status := .active }

/-- The room once its guest is taken out again. -/
def vacated (room : GameRoom) : GameRoom :=
  { room with guest := none, white := none, black := none, status := .waiting }

theorem not_joinable_seated (room : GameRoom) (guest : ConnectedUser) :
    ¬ (room.seated guest).Joinable := fun both => RoomStatus.noConfusion both.1

end GameRoom

namespace RoomManager

/-- The room whose code an operation takes out of the index or puts back, other than
for a guest who joins. -/
def releases (manager : RoomManager) : RoomStep → Option GameRoom
  | .discardRoom roomId => manager.rooms.lookup roomId
  | .rollbackJoin roomId guestId =>
      (manager.rooms.lookup roomId).filter fun room => GameRoom.isUser guestId room.guest
  | .removeConnection userId connection =>
      ((manager.playerRoomByUser.lookup userId).bind manager.rooms.lookup).filter fun room =>
        ownsConnection room userId connection
  | _ => none

end RoomManager

/-- The users an operation brings into a room. -/
def RoomStep.players : RoomStep → List ConnectedUser
  | .createRoom host _ _ _ _ => [host]
  | .joinPublicRoom _ guest => [guest]
  | .joinHiddenRoom _ guest => [guest]
  | .matchPlayers first second _ _ => [first, second]
  | _ => []

namespace RoomManager

/-- What an operation does to the rooms and to the codes in the index. -/
inductive CodeStep (before : RoomManager) (input : RoomStep) (after : RoomManager) : Prop where
  | quiet (idle : before.releases input = none) (leaves : ∀ roomId, before.Leaves after roomId)
      (codes : after.hiddenCodes = before.hiddenCodes)
  | opened (idle : before.releases input = none) (room : GameRoom)
      (fresh : before.Fresh input → room.roomId ∉ before.rooms) (host : room.host ∈ input.players)
      (unfinished : room.status ≠ .finished) (visible : room.visibility = .visible)
      (uncoded : room.roomCode = none)
      (rooms : after.rooms = before.rooms.insert room.roomId room)
      (codes : after.hiddenCodes = before.hiddenCodes)
  | hidden (idle : before.releases input = none) (room : GameRoom) (code : String)
      (fresh : before.Fresh input → room.roomId ∉ before.rooms) (host : room.host ∈ input.players)
      (unfinished : room.status ≠ .finished) (hidden : room.visibility = .hidden)
      (coded : room.roomCode = some code) (unused : code ∉ before.hiddenCodes)
      (rooms : after.rooms = before.rooms.insert room.roomId room)
      (codes : after.hiddenCodes = before.hiddenCodes.insert code room.roomId)
  | finished (idle : before.releases input = none) (room : GameRoom)
      (stored : before.rooms.lookup room.roomId = some room)
      (finishing : input = .finishRoom room.roomId) (unfinished : room.status ≠ .finished)
      (rooms : after.rooms =
        before.rooms.insert room.roomId { room with status := .finished })
      (codes : after.hiddenCodes = before.hiddenCodes)
  | joined (idle : before.releases input = none) (room : GameRoom) (guest : ConnectedUser)
      (stored : before.rooms.lookup room.roomId = some room) (joinable : room.Joinable)
      (rooms : after.rooms = before.rooms.insert room.roomId (room.seated guest))
      (codes : ∀ code, after.hiddenCodes.lookup code =
        if room.roomCode = some code then none else before.hiddenCodes.lookup code)
  | removed (room : GameRoom) (stored : before.rooms.lookup room.roomId = some room)
      (released : before.releases input = some room)
      (gone : after.rooms.lookup room.roomId = none)
      (leaves : ∀ other, other ≠ room.roomId → before.Leaves after other)
      (codes : ∀ code, after.hiddenCodes.lookup code =
        if room.roomCode = some code then none else before.hiddenCodes.lookup code)
  | returned (room : GameRoom) (stored : before.rooms.lookup room.roomId = some room)
      (released : before.releases input = some room)
      (rolling : ∃ guestId, input = .rollbackJoin room.roomId guestId)
      (rooms : after.rooms = before.rooms.insert room.roomId room.vacated)
      (codes : ∀ code, after.hiddenCodes.lookup code =
        if room.roomCode = some code then some room.roomId else before.hiddenCodes.lookup code)

theorem closeSpectator_playerRoomByUser (manager : RoomManager) (connection : ConnectionId) :
    (manager.closeSpectator connection).2.playerRoomByUser = manager.playerRoomByUser := by
  rw [closeSpectator]
  split <;> rfl

/-- The room of a user before and after the connection is taken off the spectators. -/
theorem closeSpectator_room (manager : RoomManager) (userId : UserId) (connection : ConnectionId) :
    Option.Rel GameRoom.Alike
      ((manager.playerRoomByUser.lookup userId).bind manager.rooms.lookup)
      (((manager.closeSpectator connection).2.playerRoomByUser.lookup userId).bind
        (manager.closeSpectator connection).2.rooms.lookup) := by
  rw [closeSpectator_playerRoomByUser]
  cases manager.playerRoomByUser.lookup userId with
  | none => exact .none
  | some roomId => exact manager.closeSpectator_leaves connection roomId

namespace CodeStep

variable {manager : RoomManager} {input : RoomStep}

theorem same (idle : manager.releases input = none) : CodeStep manager input manager :=
  .quiet idle (fun _ => .of_eq rfl) rfl

/-- The spectators of one room change. -/
theorem watched (idle : manager.releases input = none) {after : RoomManager} {roomId : RoomId}
    {room : GameRoom} (changed : GameRoom) (stored : manager.rooms.lookup roomId = some room)
    (alike : room.Alike changed) (rooms : after.rooms = manager.rooms.insert roomId changed)
    (codes : after.hiddenCodes = manager.hiddenCodes) : CodeStep manager input after := by
  refine .quiet idle (fun other => ?_) codes
  rw [Leaves, rooms, lookup_insert]
  split
  · next same =>
      rw [same, stored]
      exact .some alike
  · exact Leaves.of_eq rfl

theorem createRoom (host : ConnectedUser) (name : Option String) (visibility : String)
    (roomId : RoomId) (draws : List String) :
    CodeStep manager (.createRoom host name visibility roomId draws)
      (manager.step (.createRoom host name visibility roomId draws)) := by
  rcases manager.createRoom_cases host name visibility roomId draws with
    same | ⟨-, validatedName, opened | ⟨code, unused, opened⟩⟩
  · rw [same]
    exact .same rfl
  · rw [opened]
    exact .opened rfl (manager.openRoom host validatedName .visible roomId none).1
      (fun fresh => fresh) List.mem_cons_self RoomStatus.noConfusion rfl rfl rfl rfl
  · rw [opened]
    exact .hidden rfl (manager.openRoom host validatedName .hidden roomId (some code)).1 code
      (fun fresh => fresh) List.mem_cons_self RoomStatus.noConfusion rfl rfl unused rfl rfl

theorem seatGuest (idle : manager.releases input = none) (keyed : manager.Keyed) {room : GameRoom}
    {guest : ConnectedUser} (vacancy : manager.Vacancy room guest) :
    CodeStep manager input (manager.seatGuest room guest).2 := by
  obtain ⟨roomId, stored⟩ := vacancy.stored
  obtain rfl := keyed roomId room stored
  refine .joined idle room guest stored ⟨vacancy.waiting, vacancy.vacant⟩ rfl fun code => ?_
  simp only [RoomManager.seatGuest, storeRoom]
  cases coded : room.roomCode with
  | none => simp only [reduceCtorEq, if_false]
  | some own => simp only [lookup_erase, Option.some.injEq, eq_comm (a := own)]

theorem discardRoom (keyed : manager.Keyed) (roomId : RoomId) :
    CodeStep manager (.discardRoom roomId) (manager.discardRoom roomId) := by
  cases stored : manager.rooms.lookup roomId with
  | none =>
      rw [RoomManager.discardRoom, stored]
      exact .same stored
  | some room =>
      obtain rfl := keyed roomId room stored
      refine .removed room stored stored ?_ (fun other distinct => .of_eq ?_) fun code => ?_
      · rw [lookup_discardRoom, if_pos rfl]
      · rw [lookup_discardRoom, if_neg distinct]
      · rw [RoomManager.discardRoom, stored]
        simp only [forgetCode, freePlayers, lookup_eraseAll, Option.mem_toList]

theorem rollbackJoin (keyed : manager.Keyed) (roomId : RoomId) (guestId : UserId) :
    CodeStep manager (.rollbackJoin roomId guestId) (manager.rollbackJoin roomId guestId) := by
  rw [RoomManager.rollbackJoin]
  split
  · next absent => exact .same (by rw [releases, absent, Option.filter_none])
  · next room stored =>
      obtain rfl := keyed roomId room stored
      split
      · next seated =>
          refine .returned room stored ?_ ⟨guestId, rfl⟩ rfl fun code => ?_
          · rw [releases, stored, Option.filter_some, if_pos seated]
          · cases coded : room.roomCode with
            | none => simp only [reduceCtorEq, if_false, storeRoom]
            | some own =>
                simp only [storeRoom, lookup_insert, Option.some.injEq,
                  eq_comm (a := own)]
      · next unseated => exact .same (by rw [releases, stored, Option.filter_some, if_neg unseated])

theorem watchRoom (keyed : manager.Keyed) (roomId : RoomId) (spectator : ConnectedUser) :
    CodeStep manager (.watchRoom roomId spectator)
      (manager.settle (manager.watchRoom roomId spectator) Prod.snd) := by
  rw [RoomManager.watchRoom]
  split
  · exact .same rfl
  · next room stored =>
      split
      · exact .same rfl
      · split
        · exact .same rfl
        · split
          · exact .same rfl
          · obtain rfl := keyed roomId room stored
            exact .watched rfl
              { room with spectators := room.spectators.insert spectator.websocket spectator }
              stored ⟨_, rfl⟩ rfl rfl

theorem finishRoom (keyed : manager.Keyed) (roomId : RoomId) :
    CodeStep manager (.finishRoom roomId) (manager.finishRoom roomId) := by
  rw [RoomManager.finishRoom]
  split
  · exact .same rfl
  · next room stored =>
      split
      · exact .same rfl
      · next unfinished =>
          obtain rfl := keyed roomId room stored
          exact .finished rfl room stored rfl unfinished rfl rfl

theorem removeConnection (keyed : manager.Keyed) (userId : UserId) (connection : ConnectionId) :
    CodeStep manager (.removeConnection userId connection)
      (manager.removeConnection userId connection).2 := by
  have watched := fun other => manager.closeSpectator_leaves connection other
  have codes : (manager.closeSpectator connection).2.hiddenCodes = manager.hiddenCodes := by
    rw [closeSpectator]
    split <;> rfl
  have playing := manager.closeSpectator_room userId connection
  simp only [RoomManager.removeConnection]
  generalize before : (manager.playerRoomByUser.lookup userId).bind manager.rooms.lookup = was
    at playing
  generalize ((manager.closeSpectator connection).2.playerRoomByUser.lookup userId).bind
    (manager.closeSpectator connection).2.rooms.lookup = now at playing
  cases playing with
  | none => exact .quiet (by rw [releases, before, Option.filter_none]) watched codes
  | @some room closed alike =>
      obtain ⟨roomId, -, was⟩ := Option.bind_eq_some_iff.mp before
      obtain rfl := keyed roomId room was
      obtain ⟨spectators, rfl⟩ := alike
      simp only
      split
      · next owns =>
          refine .removed room was ?_ ?_ (fun other distinct => ?_) fun code => ?_
          · rw [releases, before, Option.filter_some]
            exact if_pos owns
          · exact (lookup_erase ..).trans (if_pos rfl)
          · have kept := lookup_erase
              (manager.closeSpectator connection).2.rooms room.roomId other
            rw [if_neg distinct] at kept
            exact (watched other).trans (.of_eq kept)
          · simp only [removeRoom, freePlayers, forgetCode, lookup_eraseAll,
              Option.mem_toList, codes]
      · next stranger =>
          refine .quiet ?_ watched codes
          rw [releases, before, Option.filter_some]
          exact if_neg stranger

end CodeStep

/-- **What an operation does to the codes.** -/
theorem step_codeStep {manager : RoomManager} (keyed : manager.Keyed) (input : RoomStep) :
    CodeStep manager input (manager.step input) := by
  cases input with
  | createRoom host name visibility roomId draws =>
      exact .createRoom host name visibility roomId draws
  | joinPublicRoom roomId guest =>
      rcases joinPublicRoom_cases roomId guest with same | ⟨room, vacancy, seated⟩
      · rw [same]
        exact .same rfl
      · rw [seated]
        exact .seatGuest rfl keyed vacancy
  | joinHiddenRoom code guest =>
      rcases joinHiddenRoom_cases code guest with same | ⟨room, vacancy, seated⟩
      · rw [same]
        exact .same rfl
      · rw [seated]
        exact .seatGuest rfl keyed vacancy
  | matchPlayers first second roomId suffix =>
      rw [step, matchPlayers]
      split
      · exact .same rfl
      · exact .opened rfl
          { roomId := roomId, name := "Quick Match " ++ suffix, visibility := .visible,
            host := first, guest := some second, white := some first, black := some second,
            status := .active }
          (fun fresh => fresh) List.mem_cons_self RoomStatus.noConfusion rfl rfl rfl rfl
  | discardRoom roomId => exact .discardRoom keyed roomId
  | rollbackJoin roomId guestId => exact .rollbackJoin keyed roomId guestId
  | watchRoom roomId spectator => exact .watchRoom keyed roomId spectator
  | leaveSpectator connection roomId =>
      rw [step, leaveSpectator]
      split
      · exact .same rfl
      · cases stored : manager.rooms.lookup roomId with
        | none => exact .quiet rfl (fun _ => .of_eq (by rw [settle, id, dropSpectator, stored])) rfl
        | some room =>
            exact .watched rfl { room with spectators := room.spectators.erase connection } stored
              ⟨_, rfl⟩ (by rw [settle, id, dropSpectator, stored]) rfl
  | finishRoom roomId => exact .finishRoom keyed roomId
  | subscribeLobby connection =>
      rw [step, subscribeLobby]
      split
      · exact .same rfl
      · exact .quiet rfl (fun _ => .of_eq rfl) rfl
  | removeConnection userId connection => exact .removeConnection keyed userId connection

/-! ## Found under the code -/

/-- Every hidden room that waits for a guest is found under its code, and the rooms
that can be joined have distinct codes. -/
structure CodesFound (manager : RoomManager) : Prop where
  found : ∀ roomId room, manager.rooms.lookup roomId = some room → room.visibility = .hidden →
    room.Joinable → ∃ code, room.roomCode = some code ∧
      (manager.hiddenCodes.lookup code).bind manager.rooms.lookup = some room
  distinct : ∀ firstId first secondId second code,
    manager.rooms.lookup firstId = some first → manager.rooms.lookup secondId = some second →
    first.Joinable → second.Joinable → first.roomCode = some code →
    second.roomCode = some code → firstId = secondId

/-- No other room waits under the code of the room that an operation gives its code
back to, or removes with it. -/
def CodeUnshared (manager : RoomManager) (input : RoomStep) : Prop :=
  ∀ room ∈ manager.releases input, ∀ code ∈ room.roomCode, ∀ otherId other,
    manager.rooms.lookup otherId = some other → other.Joinable → other.roomCode = some code →
    otherId = room.roomId

/-- The rooms are stored under their identifiers, and the hidden ones have a code. -/
def Stamped (manager : RoomManager) : Prop :=
  Filed manager.rooms fun roomId room =>
    room.roomId = roomId ∧ (room.visibility = .hidden ↔ room.roomCode.isSome)

/-- The index sends the code of a room that can be joined to the room. -/
def CodesLead (manager : RoomManager) : Prop :=
  ∀ roomId room, manager.rooms.lookup roomId = some room → room.Joinable →
    ∀ code ∈ room.roomCode, manager.hiddenCodes.lookup code = some roomId

theorem Stamped.keyed {manager : RoomManager} (stamped : manager.Stamped) : manager.Keyed :=
  fun roomId room stored => (stamped roomId room stored).1

theorem Stamped.step {manager : RoomManager} (stamped : manager.Stamped) (input : RoomStep) :
    (manager.step input).Stamped := by
  have taken := step_codeStep stamped.keyed input
  generalize manager.step input = after at taken
  unfold Stamped
  cases taken with
  | quiet idle leaves codes =>
      intro roomId room stored
      obtain ⟨was, found, spectators, rfl⟩ := (leaves roomId).stored stored
      exact stamped roomId was found
  | opened idle room fresh host unfinished visible uncoded rooms codes =>
      rw [rooms]
      refine stamped.insert ⟨rfl, ?_⟩
      simp only [visible, uncoded, reduceCtorEq, Option.isSome_none, Bool.false_eq_true]
  | hidden idle room code fresh host unfinished hidden coded unused rooms codes =>
      rw [rooms]
      refine stamped.insert ⟨rfl, ?_⟩
      simp only [hidden, coded, Option.isSome_some]
  | finished idle room stored finishing unfinished rooms codes =>
      rw [rooms]
      exact stamped.insert (stamped _ room stored)
  | joined idle room guest stored joinable rooms codes =>
      rw [rooms]
      exact stamped.insert (stamped _ room stored)
  | removed room stored released gone leaves codes =>
      intro roomId other found
      have distinct : roomId ≠ room.roomId := by
        rintro rfl
        rw [gone] at found
        cases found
      obtain ⟨was, before, spectators, rfl⟩ := (leaves roomId distinct).stored found
      exact stamped roomId was before
  | returned room stored released rolling rooms codes =>
      rw [rooms]
      exact stamped.insert (stamped _ room stored)

/-- The code a room is removed or joined with is no other room's. -/
theorem CodesLead.step {manager : RoomManager} (leads : manager.CodesLead)
    (stamped : manager.Stamped) {input : RoomStep} (unshared : manager.CodeUnshared input) :
    (manager.step input).CodesLead := by
  have taken := step_codeStep stamped.keyed input
  generalize manager.step input = after at taken
  intro roomId other found joinable code coded
  cases taken with
  | quiet idle leaves codes =>
      obtain ⟨was, before, spectators, rfl⟩ := (leaves roomId).stored found
      rw [codes]
      exact leads roomId was before joinable code coded
  | opened idle room fresh host unfinished visible uncoded rooms codes =>
      rw [rooms, lookup_insert] at found
      rw [codes]
      split at found
      · cases found
        rw [uncoded] at coded
        cases coded
      · exact leads roomId other found joinable code coded
  | hidden idle room drawn fresh host unfinished hidden own unused rooms codes =>
      rw [rooms, lookup_insert] at found
      rw [codes, lookup_insert]
      split at found
      · next same =>
          cases found
          rw [own] at coded
          cases coded
          rw [if_pos rfl, same]
      · have indexed := leads roomId other found joinable code coded
        rw [if_neg ?_, indexed]
        rintro rfl
        rw [AList.lookup_eq_none.mpr unused] at indexed
        cases indexed
  | finished idle room stored finishing unfinished rooms codes =>
      rw [rooms, lookup_insert] at found
      rw [codes]
      split at found
      · cases found
        exact absurd joinable.1 (by simp only [reduceCtorEq, not_false_eq_true])
      · exact leads roomId other found joinable code coded
  | joined idle room guest stored vacant rooms codes =>
      rw [rooms, lookup_insert] at found
      split at found
      · cases found
        exact absurd joinable (room.not_joinable_seated guest)
      · next distinct =>
          have indexed := leads roomId other found joinable code coded
          rw [codes, if_neg ?_, indexed]
          intro own
          rw [leads _ room stored vacant code own] at indexed
          exact distinct (Option.some.inj indexed).symm
  | removed room stored released gone leaves codes =>
      have distinct : roomId ≠ room.roomId := by
        rintro rfl
        rw [gone] at found
        cases found
      obtain ⟨was, before, spectators, rfl⟩ := (leaves roomId distinct).stored found
      rw [codes, if_neg ?_, leads roomId was before joinable code coded]
      exact fun own => distinct (unshared room released code own roomId was before joinable coded)
  | returned room stored released rolling rooms codes =>
      rw [rooms, lookup_insert] at found
      rw [codes]
      split at found
      · next same =>
          cases found
          have coded : room.roomCode = some code := coded
          rw [if_pos coded, same]
      · next distinct =>
          rw [if_neg ?_, leads roomId other found joinable code coded]
          exact fun own =>
            distinct (unshared room released code own roomId other found joinable coded)

/-- An operation after which the codes lead to their rooms shared no code. -/
theorem codeUnshared_of_step {manager : RoomManager} (stamped : manager.Stamped)
    {input : RoomStep} (leads : (manager.step input).CodesLead) : manager.CodeUnshared input := by
  intro own released code coded otherId other found joinable same
  rw [Option.mem_def] at coded
  have taken := step_codeStep stamped.keyed input
  generalize manager.step input = after at taken leads
  by_contra distinct
  cases taken with
  | quiet idle | opened idle | hidden idle | finished idle | joined idle =>
      rw [idle] at released
      cases released
  | removed room stored released' gone leaves codes =>
      obtain rfl : room = own := Option.some.inj (released'.symm.trans released)
      obtain ⟨later, kept, spectators, rfl⟩ := (leaves otherId distinct).kept found
      have indexed := leads otherId _ kept joinable code same
      rw [codes, if_pos coded] at indexed
      cases indexed
  | returned room stored released' rolling rooms codes =>
      obtain rfl : room = own := Option.some.inj (released'.symm.trans released)
      have kept : after.rooms.lookup otherId = some other := by
        rw [rooms, lookup_insert, if_neg distinct, found]
      have indexed := leads otherId other kept joinable code same
      rw [codes, if_pos coded] at indexed
      exact distinct (Option.some.inj indexed).symm

theorem codesFound_iff {manager : RoomManager} (stamped : manager.Stamped) :
    manager.CodesFound ↔ manager.CodesLead := by
  constructor
  · intro ⟨found, _⟩ roomId room stored joinable code coded
    have hidden : room.visibility = .hidden :=
      (stamped roomId room stored).2.mpr (Option.isSome_of_mem coded)
    obtain ⟨own, ownCode, there⟩ := found roomId room stored hidden joinable
    obtain rfl : own = code := Option.some.inj (ownCode.symm.trans coded)
    obtain ⟨indexed, lead, same⟩ := Option.bind_eq_some_iff.mp there
    rw [lead, ← stamped.keyed indexed room same, ← stamped.keyed roomId room stored]
  · intro leads
    refine ⟨fun roomId room stored hidden joinable => ?_, ?_⟩
    · obtain ⟨code, coded⟩ := Option.isSome_iff_exists.mp ((stamped roomId room stored).2.mp hidden)
      refine ⟨code, coded, ?_⟩
      rw [leads roomId room stored joinable code coded, Option.bind_some, stored]
    · intro firstId first secondId second code stored stored' joinable joinable' coded coded'
      have one := leads firstId first stored joinable code coded
      have two := leads secondId second stored' joinable' code coded'
      exact Option.some.inj (one.symm.trans two)

theorem stamped_run (inputs : List RoomStep) : (Trace.run step {} inputs).Stamped :=
  Trace.run_invariant (fun _ input stamped => stamped.step input) inputs Filed.empty

/-- **Exactly when a waiting hidden room can always be joined.** In every state of a
run the hidden rooms that wait are found under their codes, and the rooms that can
be joined have distinct codes, if and only if no operation of the run gives a code
back, or removes a room with its code, while another room waits under that code. -/
theorem run_codesFound (inputs : List RoomStep) :
    (∀ taken, taken <+: inputs → (Trace.run step {} taken).CodesFound) ↔
      ∀ visit ∈ Trace.visits step {} inputs, visit.1.CodeUnshared visit.2 := by
  constructor
  · intro found visit member
    obtain ⟨before, after, split, state⟩ := Trace.visits_split member
    have stamped : visit.1.Stamped := state ▸ stamped_run before
    have reached : Trace.run step {} (before ++ [visit.2]) = visit.1.step visit.2 := by
      rw [Trace.run_append, ← state]
      rfl
    refine codeUnshared_of_step stamped ((codesFound_iff (stamped.step visit.2)).mp ?_)
    rw [← reached]
    exact found _ (split ▸ ⟨after, List.append_assoc before [_] after⟩)
  · rintro unshared taken ⟨rest, rfl⟩
    have leads : (Trace.run step {} taken).Stamped ∧ (Trace.run step {} taken).CodesLead :=
      Trace.run_rule (motive := fun manager => manager.Stamped ∧ manager.CodesLead) CodeUnshared
        (fun _ input guarded holds => ⟨holds.1.step input, holds.2.step holds.1 guarded⟩) taken {}
        (fun visit member => unshared visit (by
          rw [Trace.visits_append]
          exact List.mem_append_left _ member))
        ⟨Filed.empty, Filed.empty⟩
    exact (codesFound_iff leads.1).mpr leads.2

/-- The code of a joined room is drawn again, and then the join is rolled back. -/
def drawnAgain : List RoomStep :=
  [.createRoom { userId := 1, websocket := 11 } (some "First") "hidden" 100 ["ABC234"],
    .joinHiddenRoom "ABC234" { userId := 2, websocket := 12 },
    .createRoom { userId := 3, websocket := 13 } (some "Second") "hidden" 101 ["ABC234"],
    .rollbackJoin 100 2]

/-- Both rooms wait under one code, and the code leads to the first of them. -/
theorem drawnAgain_codesLost :
    ¬ ∀ taken, taken <+: drawnAgain → (Trace.run step {} taken).CodesFound := by
  intro found
  have sharing := (found drawnAgain List.prefix_rfl).distinct
  have first : ((Trace.run step {} drawnAgain).rooms.lookup 100).any fun room =>
    room.Joinable ∧ room.roomCode = some "ABC234" := by decide +kernel
  have second : ((Trace.run step {} drawnAgain).rooms.lookup 101).any fun room =>
    room.Joinable ∧ room.roomCode = some "ABC234" := by decide +kernel
  rw [Option.any_eq_true] at first second
  obtain ⟨one, oneStored, oneWaits⟩ := first
  obtain ⟨two, twoStored, twoWaits⟩ := second
  have oneWaits := of_decide_eq_true oneWaits
  have twoWaits := of_decide_eq_true twoWaits
  exact absurd (sharing 100 one 101 two "ABC234" oneStored twoStored oneWaits.1 twoWaits.1
    oneWaits.2 twoWaits.2) (by decide)

end RoomManager

end KungFuChess

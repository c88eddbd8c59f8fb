import KungFuChess.Library.Trace
import KungFuChess.Messaging.Message

/-!
# The lobby client

`LobbyApplicationState` folds the events of the gateway into the view the client
draws. The view keeps at most one match, with the revision and the snapshot of
the last event that was stored. A match state is stored only when its revision is
newer; the start of a match is stored whatever its revision, so a start that
arrives late takes the match back.

The log lines of the source are left out. Revisions and sequences are natural
numbers, the messages' own being below 2⁶³.
-/

set_option autoImplicit false

namespace KungFuChess

namespace Lobby

/-! ## Events of the gateway -/

structure LobbyUser where
  id : String
  username : String
  rating : Int := 1200
  deriving DecidableEq, Repr

structure LobbyRoom where
  roomId : String
  name : String
  visibility : String := ""
  status : String
  host : Option LobbyUser := none
  white : Option LobbyUser := none
  black : Option LobbyUser := none
  roomCode : Option String := none
  createdAt : String := ""
  spectatorCount : Int := 0
  deriving DecidableEq, Repr

/-- The alternatives of `LobbyEvent`, with the members of their structures. -/
inductive LobbyEvent where
  | connected (user : LobbyUser)
  | pong
  | lobbySnapshot (waitingRooms activeGames : List LobbyRoom)
  | roomCreated (room : LobbyRoom)
  | gameStarted (roomId roomName color : String) (opponent : LobbyUser)
  | watchingGame (roomId roomName : String) (white black : LobbyUser) (spectatorCount : Int)
  | matchReady (roomId color opponent : String) (revision : Nat) (state : GameStateSnapshot)
      (gameStartsAt : String) (whiteRating blackRating : Int)
  | matchCountdown (roomId value gameStartsAt : String)
  | matchStarted (roomId : String) (revision : Nat) (state : GameStateSnapshot)
      (gameStartsAt : String)
  | matchCancelled (roomId reason : String)
  | matchSnapshot (roomId : String) (revision : Nat) (state : GameStateSnapshot)
  | matchState (roomId : String) (revision : Nat) (state : GameStateSnapshot)
  | moveResult (roomId : String) (sequence : Nat) (accepted : Bool) (reason : String)
  | spectatorLeft (roomId : String)
  | opponentDisconnected (roomId : String)
  | roomStatus (roomId status : String)
  | protocolError (code message : String)
  | searching
  | matchNotFound
  | findMatchCancelled
  | ratingUpdated (rating : Int)

/-! ## The view -/

inductive LobbyScreen where
  | authentication
  | connecting
  | lobby
  | waitingRoom
  | hiddenRoomWaiting
  | roomReady
  | matchHistory
  | spectatorPlaceholder
  | game
  | spectatorGame
  | error
  deriving DecidableEq, Repr

inductive LobbyModal where
  | none
  | createRoom
  | joinHiddenRoom
  deriving DecidableEq, Repr

inductive PendingLobbyAction where
  | none
  | login
  | register
  | createPublicRoom
  | createHiddenRoom
  | joinPublicRoom
  | joinHiddenRoom
  | watchRoom
  | findMatch
  | logout
  deriving DecidableEq, Repr

structure SpectatorView where
  roomId : String
  roomName : String
  whiteUsername : String
  blackUsername : String
  spectatorCount : Int := 0
  deriving DecidableEq, Repr

structure RoomReadyView where
  roomId : String
  roomName : String
  assignedColor : String
  opponentUsername : String
  opponentRating : Int := 1200
  deriving DecidableEq, Repr

inductive MatchPhase where
  | loading
  | countdown
  | playing
  | finished
  deriving DecidableEq, Repr

structure AuthoritativeMatchView where
  roomId : String
  assignedColor : String := ""
  opponentUsername : String := ""
  revision : Nat := 0
  /-- The source counts in 64 bits and would start again at zero. -/
  nextSequence : Nat := 1
  snapshot : GameStateSnapshot := {}
  selectedSource : Option Position := none
  moveStatus : String := ""
  spectator : Bool := false
  phase : MatchPhase := .loading
  gameStartsAt : String := ""
  countdownValue : String := ""
  whiteRating : Int := 1200
  blackRating : Int := 1200
  deriving DecidableEq, Repr

/-- The members of `LobbyViewModel` that events read or write. -/
structure LobbyViewModel where
  screen : LobbyScreen := .authentication
  modal : LobbyModal := .none
  pendingAction : PendingLobbyAction := .none
  authenticatedUsername : String := ""
  authenticatedUserRating : Int := 1200
  visibleError : String := ""
  statusMessage : String := ""
  roomNameInput : String := ""
  currentRoomName : String := ""
  hiddenRoomCode : String := ""
  pendingRoomId : String := ""
  waitingRooms : List LobbyRoom := []
  activeRooms : List LobbyRoom := []
  spectator : Option SpectatorView := none
  roomReady : Option RoomReadyView := none
  shownMatch : Option AuthoritativeMatchView := none
  waitingPage : Int := 0
  activePage : Int := 0
  deriving DecidableEq, Repr

namespace LobbyViewModel

/-- Change the match of the view when it is one of this room. -/
def updateMatch (view : LobbyViewModel) (roomId : String)
    (change : AuthoritativeMatchView → AuthoritativeMatchView) : LobbyViewModel :=
  { view with
    shownMatch := view.shownMatch.map fun shown =>
      if shown.roomId = roomId then change shown else shown }

def applySnapshot (view : LobbyViewModel) (waitingRooms activeGames : List LobbyRoom) :
    LobbyViewModel :=
  { view with
    waitingRooms := waitingRooms
    activeRooms := activeGames
    screen :=
      if view.screen = .connecting ∨ view.screen = .authentication ∨ view.screen = .lobby then
        .lobby
      else view.screen
    statusMessage := ""
    visibleError := ""
    pendingAction :=
      if view.pendingAction ≠ .joinPublicRoom ∧ view.pendingAction ≠ .joinHiddenRoom ∧
          view.pendingAction ≠ .watchRoom then .none
      else view.pendingAction
    waitingPage := 0
    activePage := 0 }

def applyRoomCreated (view : LobbyViewModel) (room : LobbyRoom) : LobbyViewModel :=
  let view :=
    { view with
      pendingAction := .none
      currentRoomName := room.name
      roomNameInput := ""
      modal := .none
      pendingRoomId := room.roomId }
  match room.roomCode with
  | some roomCode =>
      if room.visibility = "hidden" then
        { view with hiddenRoomCode := roomCode, screen := .hiddenRoomWaiting }
      else { view with screen := .waitingRoom }
  | none => { view with screen := .waitingRoom }

def applyMatchReady (view : LobbyViewModel) (roomId color opponent : String) (revision : Nat)
    (state : GameStateSnapshot) (gameStartsAt : String) (whiteRating blackRating : Int) :
    LobbyViewModel :=
  { view with
    shownMatch := some
      { roomId := roomId
        assignedColor := color
        opponentUsername := opponent
        revision := revision
        snapshot := state
        spectator := color = "spectator"
        phase := .countdown
        gameStartsAt := gameStartsAt
        countdownValue := "3"
        whiteRating := whiteRating
        blackRating := blackRating }
    pendingRoomId := roomId
    screen := if color = "spectator" then .spectatorGame else .game
    roomReady := none
    pendingAction := .none }

def applyMatchSnapshot (view : LobbyViewModel) (roomId : String) (revision : Nat)
    (state : GameStateSnapshot) : LobbyViewModel :=
  { view with
    shownMatch := some
      { roomId := roomId, revision := revision, snapshot := state, spectator := true,
        phase := .playing }
    pendingRoomId := roomId
    screen := .spectatorGame
    pendingAction := .none }

/-- The start of a match is stored without a look at the revision. -/
def applyMatchStarted (view : LobbyViewModel) (roomId : String) (revision : Nat)
    (state : GameStateSnapshot) : LobbyViewModel :=
  view.updateMatch roomId fun shown =>
    { shown with revision := revision, snapshot := state, phase := .playing, countdownValue := "" }

/-- A state of a match is stored when its revision is newer. -/
def applyMatchState (view : LobbyViewModel) (roomId : String) (revision : Nat)
    (state : GameStateSnapshot) : LobbyViewModel :=
  view.updateMatch roomId fun shown =>
    if revision > shown.revision then { shown with revision := revision, snapshot := state }
    else shown

def applyMatchCancelled (view : LobbyViewModel) (roomId : String) : LobbyViewModel :=
  if ∃ shown ∈ view.shownMatch, shown.roomId = roomId then
    { view with
      shownMatch := none
      screen := .lobby
      visibleError := "Match cancelled because a player disconnected." }
  else view

def applyRoomStatus (view : LobbyViewModel) (status : String) : LobbyViewModel :=
  if status = "removed" then
    { view with
      screen := .lobby
      visibleError := "The room is no longer available."
      pendingRoomId := ""
      spectator := none
      pendingAction := .none }
  else { view with pendingAction := .none }

def applyEvent (view : LobbyViewModel) : LobbyEvent → LobbyViewModel
  | .connected user =>
      { view with
        authenticatedUsername := user.username
        authenticatedUserRating := user.rating
        statusMessage := "Loading lobby..." }
  | .pong => view
  | .lobbySnapshot waitingRooms activeGames => view.applySnapshot waitingRooms activeGames
  | .roomCreated room => view.applyRoomCreated room
  | .gameStarted roomId roomName color opponent =>
      { view with
        currentRoomName := roomName
        roomReady := some ⟨roomId, roomName, color, opponent.username, opponent.rating⟩
        screen := .roomReady
        pendingAction := .none }
  | .watchingGame roomId roomName white black spectatorCount =>
      { view with
        spectator := some ⟨roomId, roomName, white.username, black.username, spectatorCount⟩
        screen := .spectatorPlaceholder
        pendingAction := .none }
  | .matchReady roomId color opponent revision state gameStartsAt whiteRating blackRating =>
      view.applyMatchReady roomId color opponent revision state gameStartsAt whiteRating
        blackRating
  | .matchCountdown roomId value gameStartsAt =>
      view.updateMatch roomId fun shown =>
        if shown.phase = .countdown ∧ shown.gameStartsAt = gameStartsAt then
          { shown with countdownValue := value }
        else shown
  | .matchStarted roomId revision state _ => view.applyMatchStarted roomId revision state
  | .matchCancelled roomId _ => view.applyMatchCancelled roomId
  | .matchSnapshot roomId revision state => view.applyMatchSnapshot roomId revision state
  | .matchState roomId revision state => view.applyMatchState roomId revision state
  | .moveResult roomId _ accepted reason =>
      view.updateMatch roomId fun shown =>
        { shown with moveStatus := if accepted then "" else "Move rejected: " ++ reason }
  | .spectatorLeft _ => view
  | .opponentDisconnected _ =>
      { view with visibleError := "The opponent disconnected.", pendingAction := .none }
  | .roomStatus _ status => view.applyRoomStatus status
  | .protocolError _ message => { view with visibleError := message, pendingAction := .none }
  | .searching =>
      { view with
        pendingAction := .findMatch
        statusMessage := "Searching for an opponent..."
        visibleError := "" }
  | .matchNotFound =>
      { view with
        pendingAction := .none
        statusMessage := ""
        visibleError := "No opponent was found. Try again." }
  | .findMatchCancelled => { view with pendingAction := .none, statusMessage := "" }
  | .ratingUpdated rating => { view with authenticatedUserRating := rating }

end LobbyViewModel

/-! ## What an event brings for a room -/

namespace LobbyEvent

/-- The revision and the state that an event brings for a room. -/
def brings (room : String) : LobbyEvent → Option (Nat × GameStateSnapshot)
  | .matchReady roomId _ _ revision state _ _ _ | .matchStarted roomId revision state _
  | .matchSnapshot roomId revision state | .matchState roomId revision state =>
      if roomId = room then some (revision, state) else none
  | _ => none

/-- The events that open a match of the room. -/
def Opens (room : String) : LobbyEvent → Prop
  | .matchReady roomId .. | .matchSnapshot roomId .. => roomId = room
  | _ => False

/-- The events of a match in progress, of any room. -/
def Follows : LobbyEvent → Prop
  | .matchStarted .. | .matchState .. | .matchCountdown .. | .moveResult .. => True
  | _ => False

/-- The start of a match of the room. -/
def Starts (room : String) : LobbyEvent → Prop
  | .matchStarted roomId .. => roomId = room
  | _ => False

end LobbyEvent

/-! ## One event -/

namespace LobbyViewModel

/-- The revision and the snapshot that the view holds of a room. -/
def held (view : LobbyViewModel) (room : String) : Option (Nat × GameStateSnapshot) :=
  (view.shownMatch.filter fun shown => shown.roomId = room).map fun shown =>
    (shown.revision, shown.snapshot)

/-- The view after a list of events. -/
def applyEvents (view : LobbyViewModel) (events : List LobbyEvent) : LobbyViewModel :=
  Trace.run applyEvent view events

theorem held_eq_some {view : LobbyViewModel} {room : String} {pair : Nat × GameStateSnapshot} :
    view.held room = some pair ↔ ∃ shown, view.shownMatch = some shown ∧ shown.roomId = room ∧
      pair = (shown.revision, shown.snapshot) := by
  simp only [held, Option.map_eq_some_iff, Option.filter_eq_some_iff, decide_eq_true_eq, and_assoc,
    eq_comm (a := pair)]

/-- What is held after a change of the match of some room. -/
theorem held_updateMatch {view : LobbyViewModel} {room : String} (roomId : String)
    (change : AuthoritativeMatchView → AuthoritativeMatchView) {shown : AuthoritativeMatchView}
    (showing : view.shownMatch = some shown) (own : shown.roomId = room)
    (keeps : (change shown).roomId = shown.roomId) :
    (view.updateMatch roomId change).held room =
      if roomId = room then some ((change shown).revision, (change shown).snapshot)
      else some (shown.revision, shown.snapshot) := by
  subst own
  by_cases same : shown.roomId = roomId
  · subst same
    have changed : (view.updateMatch shown.roomId change).shownMatch = some (change shown) := by
      simp only [updateMatch, showing, Option.map_some, if_true]
    rw [if_pos rfl]
    exact held_eq_some.mpr ⟨change shown, changed, keeps, rfl⟩
  · have kept : (view.updateMatch roomId change).shownMatch = some shown := by
      simp only [updateMatch, showing, Option.map_some, same, if_false]
    rw [if_neg (Ne.symm same)]
    exact held_eq_some.mpr ⟨shown, kept, rfl, rfl⟩

/-- An event that opens a match is what is held of its room. -/
theorem held_opened (view : LobbyViewModel) {room : String} {opening : LobbyEvent}
    (opens : opening.Opens room) :
    (view.applyEvent opening).held room = opening.brings room ∧
      ∃ pair, opening.brings room = some pair := by
  cases opening with
  | matchReady roomId color opponent revision state gameStartsAt whiteRating blackRating =>
      obtain rfl : roomId = room := opens
      simp only [LobbyEvent.brings, if_true]
      exact ⟨held_eq_some.mpr ⟨_, rfl, rfl, rfl⟩, _, rfl⟩
  | matchSnapshot roomId revision state =>
      obtain rfl : roomId = room := opens
      simp only [LobbyEvent.brings, if_true]
      exact ⟨held_eq_some.mpr ⟨_, rfl, rfl, rfl⟩, _, rfl⟩
  | _ => exact opens.elim

/-- **What an event of a match in progress does** to what is held of a room: it
brings nothing for the room, or its pair replaces the held one because it is newer
or starts the match, or it is a state that is not newer. -/
theorem held_followed {view : LobbyViewModel} {room : String} {event : LobbyEvent}
    (follows : event.Follows) {old : Nat × GameStateSnapshot} (before : view.held room = some old) :
    (event.brings room = none ∧ ¬ event.Starts room ∧
      (view.applyEvent event).held room = some old) ∨
    ∃ pair, event.brings room = some pair ∧
      (((old.1 < pair.1 ∨ event.Starts room) ∧ (view.applyEvent event).held room = some pair) ∨
        (pair.1 ≤ old.1 ∧ ¬ event.Starts room ∧ (view.applyEvent event).held room = some old)) := by
  obtain ⟨shown, showing, own, rfl⟩ := held_eq_some.mp before
  cases event with
  | matchStarted roomId revision state gameStartsAt =>
      have after := held_updateMatch roomId (fun shown =>
        { shown with
          revision := revision, snapshot := state, phase := .playing, countdownValue := "" })
        showing own rfl
      by_cases same : roomId = room
      · rw [if_pos same] at after
        exact .inr ⟨(revision, state), if_pos same, .inl ⟨.inr same, after⟩⟩
      · rw [if_neg same] at after
        exact .inl ⟨if_neg same, same, after⟩
  | matchState roomId revision state =>
      have after := held_updateMatch roomId (fun shown =>
        if revision > shown.revision then { shown with revision := revision, snapshot := state }
        else shown) showing own (by split <;> rfl)
      by_cases same : roomId = room
      · rw [if_pos same] at after
        refine .inr ⟨(revision, state), if_pos same, ?_⟩
        by_cases newer : revision > shown.revision
        · rw [if_pos newer] at after
          exact .inl ⟨.inl newer, after⟩
        · rw [if_neg newer] at after
          exact .inr ⟨not_lt.mp newer, not_false, after⟩
      · rw [if_neg same] at after
        exact .inl ⟨if_neg same, not_false, after⟩
  | matchCountdown roomId value gameStartsAt =>
      have after := held_updateMatch roomId (fun shown =>
        if shown.phase = .countdown ∧ shown.gameStartsAt = gameStartsAt then
          { shown with countdownValue := value }
        else shown) showing own (by split <;> rfl)
      refine .inl ⟨rfl, not_false, after.trans ?_⟩
      split <;> [split; skip] <;> rfl
  | moveResult roomId sequence accepted reason =>
      have after := held_updateMatch roomId (fun shown =>
        { shown with moveStatus := if accepted then "" else "Move rejected: " ++ reason })
        showing own rfl
      exact .inl ⟨rfl, not_false, after.trans (by split <;> rfl)⟩
  | _ => exact follows.elim

/-! ## Runs of a match -/

variable {view : LobbyViewModel} {room : String} {opening : LobbyEvent}

theorem applyEvents_append (view : LobbyViewModel) (before : List LobbyEvent)
    (event : LobbyEvent) :
    view.applyEvents (before ++ [event]) = (view.applyEvents before).applyEvent event := by
  rw [applyEvents, Trace.run_append, Trace.run_cons, Trace.run_nil, applyEvents]

/-- The pairs that events bring for a room. -/
def brought (room : String) (events : List LobbyEvent) : List (Nat × GameStateSnapshot) :=
  events.filterMap (LobbyEvent.brings room)

theorem mem_brought_append {before : List LobbyEvent} (opening event : LobbyEvent)
    {pair : Nat × GameStateSnapshot} :
    pair ∈ brought room (opening :: (before ++ [event])) ↔
      pair ∈ brought room (opening :: before) ∨ event.brings room = some pair := by
  rw [← List.cons_append, brought, List.filterMap_append, List.mem_append, ← brought,
    List.mem_filterMap]
  simp only [List.mem_singleton, exists_eq_left]

/-- A match stays open while events follow, and what is held of it is a pair that
some event brought. -/
theorem held_run (view : LobbyViewModel) (opens : opening.Opens room)
    {before : List LobbyEvent} (follow : ∀ event ∈ before, event.Follows) :
    ∃ pair ∈ brought room (opening :: before),
      (view.applyEvents (opening :: before)).held room = some pair := by
  induction before using List.reverseRecOn with
  | nil =>
      obtain ⟨held, pair, brings⟩ := held_opened view opens
      exact ⟨pair, List.mem_filterMap.mpr ⟨opening, List.mem_singleton_self _, brings⟩,
        held.trans brings⟩
  | append_singleton before event ih =>
      obtain ⟨old, arrived, held⟩ := ih fun each member =>
        follow each (List.mem_append_left _ member)
      rw [← List.cons_append, applyEvents_append]
      have keeps := (mem_brought_append opening event).mpr (.inl arrived)
      rcases held_followed (follow event (List.mem_append_right _ (List.mem_singleton_self _))) held
        with ⟨_, _, same⟩ | ⟨pair, brings, ⟨_, replaced⟩ | ⟨_, _, same⟩⟩
      · exact ⟨old, keeps, same⟩
      · exact ⟨pair, (mem_brought_append opening event).mpr (.inr brings), replaced⟩
      · exact ⟨old, keeps, same⟩

/-- No event takes the match of a room back: the revision held never decreases, and
what is held is a pair that arrived together. -/
def NeverOlder (view : LobbyViewModel) (room : String) (opening : LobbyEvent)
    (events : List LobbyEvent) : Prop :=
  ∀ before event after, events = before ++ event :: after →
    ∃ old ∈ (view.applyEvents (opening :: before)).held room,
      ∃ new ∈ (view.applyEvents (opening :: (before ++ [event]))).held room,
        old.1 ≤ new.1 ∧ new ∈ brought room (opening :: (before ++ [event]))

/-- Every start of a match of the room comes before the room's newer revisions. -/
def StartsInOrder (room : String) (opening : LobbyEvent) (events : List LobbyEvent) : Prop :=
  ∀ before start after, events = before ++ start :: after → start.Starts room →
    ∀ started ∈ start.brings room, ∀ earlier ∈ brought room (opening :: before),
      earlier.1 ≤ started.1

/-- While nothing is taken back, the revision held is the greatest that arrived. -/
theorem held_greatest (opens : opening.Opens room) {events : List LobbyEvent}
    (follow : ∀ event ∈ events, event.Follows) (neverOlder : NeverOlder view room opening events) :
    ∀ before after, events = before ++ after →
      ∀ held ∈ (view.applyEvents (opening :: before)).held room,
        ∀ pair ∈ brought room (opening :: before), pair.1 ≤ held.1 := by
  intro before
  induction before using List.reverseRecOn with
  | nil =>
      intro after _ held found pair arrived
      obtain ⟨event, member, brings⟩ := List.mem_filterMap.mp arrived
      obtain rfl := List.mem_singleton.mp member
      have same := ((held_opened view opens).1.trans brings).symm.trans found
      rw [Option.some.inj same]
  | append_singleton before event ih =>
      intro after split held found pair arrived
      rw [List.append_assoc, List.singleton_append] at split
      obtain ⟨old, oldHeld, new, newHeld, ordered, _⟩ := neverOlder before event after split
      obtain rfl := Option.some.inj (newHeld.symm.trans found)
      rcases (mem_brought_append opening event).mp arrived with earlier | brings
      · exact le_trans (ih (event :: after) split old oldHeld pair earlier) ordered
      · have among : event ∈ events := split ▸ List.mem_append_right _ (List.mem_cons_self ..)
        rw [← List.cons_append, applyEvents_append] at newHeld
        rcases held_followed (follow event among) oldHeld with
          ⟨silent, _, _⟩ | ⟨other, same, ⟨_, replaced⟩ | ⟨older, _, _⟩⟩
        · rw [silent] at brings
          cases brings
        · obtain rfl := Option.some.inj (same.symm.trans brings)
          obtain rfl := Option.some.inj (replaced.symm.trans newHeld)
          exact le_rfl
        · obtain rfl := Option.some.inj (same.symm.trans brings)
          exact le_trans older ordered

/-- **The match of a room is never taken back, exactly when its starts arrive in
order.** -/
theorem neverOlder_iff (view : LobbyViewModel) {room : String} {opening : LobbyEvent}
    (opens : opening.Opens room) {events : List LobbyEvent}
    (follow : ∀ event ∈ events, event.Follows) :
    NeverOlder view room opening events ↔ StartsInOrder room opening events := by
  constructor
  · intro neverOlder before start after split starts started brings earlier arrived
    have among : start ∈ events := split ▸ List.mem_append_right _ (List.mem_cons_self ..)
    obtain ⟨old, oldHeld, new, newHeld, ordered, _⟩ := neverOlder before start after split
    have greatest := held_greatest opens follow neverOlder before (start :: after) split old oldHeld
      earlier arrived
    rw [← List.cons_append, applyEvents_append] at newHeld
    rcases held_followed (follow start among) oldHeld with
      ⟨silent, _, _⟩ | ⟨other, same, ⟨_, replaced⟩ | ⟨_, other, _⟩⟩
    · rw [silent] at brings
      cases brings
    · obtain rfl := Option.some.inj (same.symm.trans brings)
      obtain rfl := Option.some.inj (replaced.symm.trans newHeld)
      exact le_trans greatest ordered
    · exact absurd starts other
  · intro inOrder before event after split
    have among : ∀ each ∈ before ++ [event], each.Follows := fun each member => by
      refine follow each (split ▸ ?_)
      rw [← List.singleton_append, ← List.append_assoc]
      exact List.mem_append_left _ member
    obtain ⟨old, arrived, oldHeld⟩ := held_run view opens fun each member =>
      among each (List.mem_append_left _ member)
    have follows := among event (List.mem_append_right _ (List.mem_singleton_self _))
    have keeps := (mem_brought_append opening event).mpr (.inl arrived)
    refine ⟨old, oldHeld, ?_⟩
    rw [← List.cons_append, applyEvents_append]
    rcases held_followed follows oldHeld with
      ⟨_, _, same⟩ | ⟨pair, brings, ⟨why, replaced⟩ | ⟨_, _, same⟩⟩
    · exact ⟨old, same, le_rfl, keeps⟩
    · refine ⟨pair, replaced, ?_, (mem_brought_append opening event).mpr (.inr brings)⟩
      rcases why with newer | starts
      · exact le_of_lt newer
      · exact inOrder before event after split starts pair brings old arrived
    · exact ⟨old, same, le_rfl, keeps⟩

/-! ## A late start -/

/-- A match of room `r` is opened at revision 0; a later state is shown before the start of
revision 1 arrives. -/
def lateStart : List LobbyEvent :=
  [.matchState "r" 5 { serverTimeMs := 5 }, .matchStarted "r" 1 { serverTimeMs := 1 } "t"]

/-- In order, the same two events are both shown. -/
theorem neverOlder_inOrder :
    ((LobbyEvent.matchReady "r" "white" "ann" 0 {} "t" 1200 1200).Opens "r" ∧
      ∀ event ∈ lateStart.reverse, event.Follows) ∧
    NeverOlder {} "r" (.matchReady "r" "white" "ann" 0 {} "t" 1200 1200) lateStart.reverse := by
  have opens : (LobbyEvent.matchReady "r" "white" "ann" 0 {} "t" 1200 1200).Opens "r" := rfl
  have follow : ∀ event ∈ lateStart.reverse, event.Follows := by
    simp only [lateStart, List.reverse_cons, List.reverse_nil, List.nil_append, List.cons_append,
      List.forall_mem_cons, LobbyEvent.Follows, List.not_mem_nil, false_implies, implies_true,
      and_self]
  refine ⟨⟨opens, follow⟩, (neverOlder_iff {} opens follow).mpr ?_⟩
  intro before start after split starts started brings earlier arrived
  rw [lateStart, List.reverse_cons, List.reverse_singleton, List.singleton_append] at split
  rcases before with _ | ⟨first, _ | ⟨second, rest⟩⟩
  · cases split
    cases brings
    obtain rfl := List.mem_singleton.mp arrived
    exact Nat.zero_le 1
  · cases split
    exact starts.elim
  · have lengths := congrArg List.length split
    simp only [List.length_cons, List.length_nil, List.length_append] at lengths
    omega

/-- **A late start takes the match back** from revision 5 to revision 1. -/
theorem lateStart_rollsBack :
    ¬ ∀ (view : LobbyViewModel) (room : String) (opening : LobbyEvent) (events : List LobbyEvent),
      opening.Opens room → (∀ event ∈ events, event.Follows) →
        NeverOlder view room opening events := by
  intro always
  obtain ⟨old, oldHeld, new, newHeld, ordered, _⟩ := always {} "r"
    (.matchReady "r" "white" "ann" 0 {} "t" 1200 1200) lateStart rfl (by
      simp only [lateStart, List.forall_mem_cons, LobbyEvent.Follows, List.not_mem_nil,
        false_implies, implies_true, and_self])
    [.matchState "r" 5 { serverTimeMs := 5 }] _ [] rfl
  cases oldHeld
  cases newHeld
  exact absurd ordered (by decide)

end LobbyViewModel

end Lobby

end KungFuChess

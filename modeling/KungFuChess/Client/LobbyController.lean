import KungFuChess.Client.Lobby
import KungFuChess.Library.Trace

/-!
# The controller of the lobby client

`LobbyController` turns what the player types and clicks into changes of the view and
into calls on the transport, and takes in what the transport reports. The password is
kept beside the view. Signing in runs in a thread of its own, whose result a tick picks
up when it is ready.

What the transport answers is an argument: whether each call was sent, the result of the
authentication that a tick finds ready, the state of the connection and the events that
wait. Characters are bytes, as in the strings of the source. The log lines are left out.
-/

set_option autoImplicit false

namespace KungFuChess

namespace Lobby

/-! ## The view and the form -/

inductive WebSocketConnectionState where
  | disconnected
  | connecting
  | connected
  | closing
  | failed
  deriving DecidableEq, Repr

inductive AuthenticationField where
  | username
  | password
  | confirmPassword
  deriving DecidableEq, Repr

inductive AuthenticationMode where
  | login
  | register
  deriving DecidableEq, Repr

inductive RoomVisibilitySelection where
  | publicRoom
  | hiddenRoom
  deriving DecidableEq, Repr

structure MatchHistoryEntry where
  opponent : String
  color : String
  result : String
  ratingBefore : Int := 1200
  ratingAfter : Int := 1200
  reason : String
  endedAt : String
  deriving DecidableEq, Repr

structure MatchHistoryResult where
  succeeded : Bool := false
  entries : List MatchHistoryEntry := []
  message : String := ""
  deriving DecidableEq, Repr

/-- The members of `LobbyViewModel` that no event of the gateway reads or writes. -/
structure LobbyForm where
  focusedField : AuthenticationField := .username
  authMode : AuthenticationMode := .login
  connectionState : WebSocketConnectionState := .disconnected
  usernameInput : String := ""
  passwordLength : Nat := 0
  confirmPasswordLength : Nat := 0
  selectedRoomVisibility : RoomVisibilitySelection := .publicRoom
  hiddenRoomCodeInput : String := ""
  matchHistory : List MatchHistoryEntry := []
  matchHistoryError : String := ""
  deriving DecidableEq, Repr

structure LobbyApplicationState where
  view : LobbyViewModel := {}
  form : LobbyForm := {}
  deriving DecidableEq, Repr

namespace LobbyApplicationState

def networkActionsEnabled (state : LobbyApplicationState) : Bool :=
  state.view.screen = .lobby && state.form.connectionState = .connected &&
    state.view.pendingAction = .none

def beginAuthentication (state : LobbyApplicationState) (action : PendingLobbyAction) :
    LobbyApplicationState :=
  { state with
    view := { state.view with
      pendingAction := action
      visibleError := ""
      statusMessage := if action = .register then "Creating account..." else "Signing in..." } }

def authenticationFailed (state : LobbyApplicationState) (message : String) :
    LobbyApplicationState :=
  { view := { state.view with
      screen := .authentication
      pendingAction := .none
      statusMessage := ""
      visibleError := message }
    form := { state.form with passwordLength := 0, confirmPasswordLength := 0 } }

def authenticationSucceeded (state : LobbyApplicationState) (username : String) :
    LobbyApplicationState :=
  { view := { state.view with
      screen := .connecting
      authenticatedUsername := username
      visibleError := ""
      statusMessage := "Connecting to lobby..."
      pendingAction := .none }
    form := { state.form with
      usernameInput := username
      passwordLength := 0
      confirmPasswordLength := 0 } }

def setConnectionState (state : LobbyApplicationState) (connection : WebSocketConnectionState) :
    LobbyApplicationState :=
  let state := { state with form := { state.form with connectionState := connection } }
  if connection = .failed ∨ connection = .disconnected then
    { state with
      view := { state.view with
        visibleError :=
          if state.view.screen ≠ .authentication then "Lobby connection is unavailable."
          else state.view.visibleError
        pendingAction := .none } }
  else state

def applyEvent (state : LobbyApplicationState) (event : LobbyEvent) : LobbyApplicationState :=
  { state with view := state.view.applyEvent event }

def showError (state : LobbyApplicationState) (message : String) : LobbyApplicationState :=
  { state with view := { state.view with visibleError := message, pendingAction := .none } }

def resetForLogout (_ : LobbyApplicationState) : LobbyApplicationState := {}

end LobbyApplicationState

/-! ## The transport -/

inductive AuthResultKind where
  | success
  | invalidCredentials
  | alreadyRegistered
  | unauthorized
  | validationError
  | serverError
  | transportError
  | invalidResponse
  deriving DecidableEq, Repr

structure AuthResult where
  kind : AuthResultKind := .invalidResponse
  /-- The name of the user, when the response has one. -/
  user : Option String := none
  deriving DecidableEq, Repr

def AuthResult.succeeded (result : AuthResult) : Bool := result.kind = .success

/-- The calls on the transport that put something on the network. -/
inductive TransportCall where
  | registerUser (username password : String)
  | login (username password : String)
  | logout
  | getMatchHistory
  | connectRealtime
  | subscribeLobby
  | requestLobby
  | createRoom (name : String) (hidden : Bool)
  | joinPublicRoom (roomId : String)
  | joinHiddenRoom (roomCode : String)
  | watchRoom (roomId : String)
  | leaveSpectator (roomId : String)
  | findMatch
  | cancelFindMatch
  | sendMove (roomId : String) (sequence : Nat) (source destination : Position)
  | sendJump (roomId : String) (sequence : Nat) (cell : Position)
  deriving DecidableEq, Repr

/-- What the transport answers while one input is handled. -/
structure TransportReplies where
  sent : TransportCall → Bool := fun _ => true
  history : MatchHistoryResult := {}

/-- What `pollEvent` returns. -/
inductive LobbyClientEvent where
  | authenticationFailed
  | closed
  | transportError
  | protocol (event : LobbyEvent)
  | parseError

/-- What a tick finds. -/
structure TickReadings where
  /-- The result of the authentication, when its thread is done: of the registration, and
  of the login. -/
  ready : Option (AuthResult × AuthResult) := none
  connectionState : WebSocketConnectionState
  events : List LobbyClientEvent := []

/-- What the thread of an authentication was started with. -/
structure AuthenticationTask where
  registration : Bool
  username : String
  password : String
  deriving DecidableEq, Repr

namespace AuthenticationTask

/-- The first call of the thread. -/
def firstCall (task : AuthenticationTask) : TransportCall :=
  if task.registration then .registerUser task.username task.password
  else .login task.username task.password

/-- The result of the thread: a registration that succeeds is followed by a login. -/
def result (task : AuthenticationTask) (results : AuthResult × AuthResult) : AuthResult :=
  if task.registration ∧ ¬ results.1.succeeded then results.1 else results.2

end AuthenticationTask

/-! ## Characters -/

/-- `std::isprint`. -/
def isPrint (character : Char) : Bool := 0x20 ≤ character.toNat && character.toNat ≤ 0x7E

/-- The characters of a room code. -/
def codeAlphabet : List Char := "ABCDEFGHJKLMNPQRSTUVWXYZ23456789".toList

/-- The body of the loop of `normalizeHiddenCode`; a character of no code ends the loop. -/
def normalizeStep (normalized : List Char) (character : Char) : Option (List Char) :=
  if Username.isSpace character then some normalized
  else if codeAlphabet.contains character.toUpper then some (normalized ++ [character.toUpper])
  else none

def normalizeHiddenCode (value : String) : String :=
  (value.toList.foldlM normalizeStep []).elim "" String.ofList

def trimRoomName (value : String) : String := Username.trim value

def authErrorMessage (result : AuthResult) (registration : Bool) : String :=
  match result.kind with
  | .invalidCredentials => "Invalid username or password."
  | .alreadyRegistered => "That username is already registered."
  | .validationError =>
      if registration then "The username or password does not meet the requirements."
      else "Check the username and password format."
  | .transportError => "The authentication service is unreachable."
  | .serverError => "The authentication service is unavailable."
  | _ => "Authentication could not be completed."

/-! ## The controller -/

structure LobbyController where
  state : LobbyApplicationState := {}
  password : String := ""
  confirmPassword : String := ""
  authenticationTask : Option AuthenticationTask := none
  deriving DecidableEq, Repr

/-- `LobbyAction`, with the value of those that read it. -/
inductive LobbyAction where
  | focusUsername
  | focusPassword
  | focusConfirmPassword
  | toggleAuthMode
  | login
  | register
  | openCreateRoom
  | openJoinHidden
  | openMatchHistory
  | selectPublicVisibility
  | selectHiddenVisibility
  | submitCreateRoom
  | submitHiddenCode
  | cancelModal
  | joinPublicRoom (roomId : String)
  | watchRoom (roomId : String)
  | findMatch
  | cancelFindMatch
  | backToLobby
  | logout
  | nextWaitingPage (lastPage : Option Int)
  | previousWaitingPage
  | nextActivePage (lastPage : Option Int)
  | previousActivePage
  deriving DecidableEq, Repr

/-- What reaches the controller. -/
inductive LobbyInput where
  | action (action : LobbyAction)
  | character (value : Char)
  | backspace
  | tab
  | enter
  | boardClick (row col : Int)
  | boardJump (row col : Int)
  | tick (readings : TickReadings)

namespace LobbyController

/-- What a handler returns: the calls it makes on the transport, and the controller. -/
abbrev Handled := List TransportCall × LobbyController

/-! ### Changes of one part -/

def setView (controller : LobbyController) (view : LobbyViewModel) : LobbyController :=
  { controller with state := { controller.state with view := view } }

def setForm (controller : LobbyController) (form : LobbyForm) : LobbyController :=
  { controller with state := { controller.state with form := form } }

def showError (controller : LobbyController) (message : String) : LobbyController :=
  { controller with state := controller.state.showError message }

/-- Both passwords are overwritten. -/
def clearPasswords (controller : LobbyController) : LobbyController :=
  { controller with password := "", confirmPassword := "" }

/-! ### Signing in -/

/-- No authentication is under way. -/
def idle (controller : LobbyController) : Bool :=
  controller.authenticationTask.isNone && controller.state.view.pendingAction = .none

def beginAuthentication (controller : LobbyController) (registration : Bool) : Handled :=
  if ¬ controller.idle then ([], controller)
  else if controller.state.form.usernameInput.length < 3 ∨ controller.password.length < 10 then
    let message := "Enter a valid username and a password of at least 10 characters."
    ([], { controller with state := controller.state.authenticationFailed message })
  else
    let task : AuthenticationTask :=
      { registration := registration
        username := controller.state.form.usernameInput
        password := controller.password }
    ([task.firstCall],
      { controller with
        state := controller.state.beginAuthentication (if registration then .register else .login)
        authenticationTask := some task })

def finishAuthentication (controller : LobbyController) (replies : TransportReplies)
    (result : AuthResult) : Handled :=
  let registration := decide (controller.state.view.pendingAction = .register)
  let controller := controller.clearPasswords.setForm
    { controller.state.form with passwordLength := 0, confirmPasswordLength := 0 }
  match result.succeeded, result.user with
  | true, some username =>
      let entered :=
        { controller with state := controller.state.authenticationSucceeded username }
      if replies.sent .connectRealtime then ([.connectRealtime], entered)
      else ([.connectRealtime],
        { entered with
          state := entered.state.authenticationFailed "Could not connect to the lobby service." })
  | _, _ =>
      ([], { controller with
        state := controller.state.authenticationFailed (authErrorMessage result registration) })

/-! ### Actions -/

/-- `beginRoomAction`, the call it is for, and the error when the call is not sent. -/
def roomAction (controller : LobbyController) (replies : TransportReplies)
    (pending : PendingLobbyAction) (roomId : String) (call : TransportCall) (message : String) :
    Handled :=
  if controller.state.networkActionsEnabled then
    let begun := controller.setView { controller.state.view with
      pendingAction := pending
      pendingRoomId := roomId
      visibleError := "" }
    ([call], if replies.sent call then begun else begun.showError message)
  else ([], controller)

def toggleAuthMode (controller : LobbyController) : LobbyController :=
  if ¬ controller.idle then controller
  else
    let form := controller.state.form
    let toggled :=
      match form.authMode with
      | .login => { form with authMode := .register }
      | .register =>
          { form with
            authMode := .login
            focusedField :=
              if form.focusedField = AuthenticationField.confirmPassword then .password
              else form.focusedField }
    ({ controller with confirmPassword := "" }.setForm
      { toggled with confirmPasswordLength := 0 }).setView
        { controller.state.view with visibleError := "" }

def register (controller : LobbyController) : Handled :=
  if controller.state.form.authMode = .register then
    if ¬ controller.idle then ([], controller)
    else if controller.confirmPassword = "" then ([], controller.showError "Confirm your password.")
    else if controller.confirmPassword ≠ controller.password then
      ([], controller.showError "Passwords do not match.")
    else controller.beginAuthentication true
  else controller.beginAuthentication true

def submitCreateRoom (controller : LobbyController) (replies : TransportReplies) : Handled :=
  let name := trimRoomName controller.state.view.roomNameInput
  if name = "" then ([], controller.showError "Room name is required.")
  else if 40 < name.length then
    ([], controller.showError "Room name must be at most 40 UTF-8 bytes.")
  else
    let hidden := decide (controller.state.form.selectedRoomVisibility = .hiddenRoom)
    controller.roomAction replies (if hidden then .createHiddenRoom else .createPublicRoom) ""
      (.createRoom name hidden) "Could not create the room."

def submitHiddenCode (controller : LobbyController) (replies : TransportReplies) : Handled :=
  let code := normalizeHiddenCode controller.state.form.hiddenRoomCodeInput
  if code.length ≠ 6 then
    ([], controller.showError "Room codes contain exactly six characters.")
  else
    controller.roomAction replies .joinHiddenRoom "" (.joinHiddenRoom code)
      "Could not join the hidden room."

def backToLobby (controller : LobbyController) : Handled :=
  let leaving := (controller.state.view.shownMatch.filter fun shown => shown.spectator).toList.map
    fun shown => TransportCall.leaveSpectator shown.roomId
  (leaving ++ [.requestLobby],
    controller.setView { controller.state.view with
      screen := .lobby
      spectator := none
      roomReady := none
      shownMatch := none
      hiddenRoomCode := ""
      currentRoomName := ""
      pendingRoomId := ""
      visibleError := "" })

/-- The page after the shown one, when there is one. -/
def nextPage (page : Int) : Option Int → Int
  | none => page
  | some lastPage => min (page + 1) (max 0 lastPage)

def handle (controller : LobbyController) (replies : TransportReplies) : LobbyAction → Handled
  | .focusUsername =>
      ([], controller.setForm { controller.state.form with focusedField := .username })
  | .focusPassword =>
      ([], controller.setForm { controller.state.form with focusedField := .password })
  | .focusConfirmPassword =>
      ([], if controller.state.form.authMode = .register then
          controller.setForm { controller.state.form with focusedField := .confirmPassword }
        else controller)
  | .toggleAuthMode => ([], controller.toggleAuthMode)
  | .login => controller.beginAuthentication false
  | .register => controller.register
  | .openCreateRoom =>
      ([], if controller.state.networkActionsEnabled then
          (controller.setForm
            { controller.state.form with selectedRoomVisibility := .publicRoom }).setView
              { controller.state.view with modal := .createRoom, visibleError := "" }
        else controller)
  | .openJoinHidden =>
      ([], if controller.state.networkActionsEnabled then
          (controller.setForm { controller.state.form with hiddenRoomCodeInput := "" }).setView
            { controller.state.view with modal := .joinHiddenRoom }
        else controller)
  | .openMatchHistory =>
      if controller.state.networkActionsEnabled then
        ([.getMatchHistory],
          (controller.setForm { controller.state.form with
            matchHistory := replies.history.entries
            matchHistoryError :=
              if replies.history.succeeded then "" else replies.history.message }).setView
                { controller.state.view with screen := .matchHistory })
      else ([], controller)
  | .selectPublicVisibility =>
      ([], controller.setForm
        { controller.state.form with selectedRoomVisibility := .publicRoom })
  | .selectHiddenVisibility =>
      ([], controller.setForm
        { controller.state.form with selectedRoomVisibility := .hiddenRoom })
  | .submitCreateRoom => controller.submitCreateRoom replies
  | .submitHiddenCode => controller.submitHiddenCode replies
  | .cancelModal =>
      ([], if controller.state.view.pendingAction = .none then
          controller.setView { controller.state.view with modal := .none }
        else controller)
  | .joinPublicRoom roomId =>
      controller.roomAction replies .joinPublicRoom roomId (.joinPublicRoom roomId)
        "Could not join the room."
  | .watchRoom roomId =>
      controller.roomAction replies .watchRoom roomId (.watchRoom roomId)
        "Could not watch the room."
  | .findMatch =>
      controller.roomAction replies .findMatch "" .findMatch "Could not start matchmaking."
  | .cancelFindMatch =>
      (if controller.state.view.pendingAction = .findMatch then [.cancelFindMatch] else [],
        controller)
  | .backToLobby => controller.backToLobby
  | .logout =>
      ([.logout],
        { controller.clearPasswords with state := controller.state.resetForLogout })
  | .nextWaitingPage lastPage =>
      ([], controller.setView { controller.state.view with
        waitingPage := nextPage controller.state.view.waitingPage lastPage })
  | .previousWaitingPage =>
      ([], controller.setView { controller.state.view with
        waitingPage := max 0 (controller.state.view.waitingPage - 1) })
  | .nextActivePage lastPage =>
      ([], controller.setView { controller.state.view with
        activePage := nextPage controller.state.view.activePage lastPage })
  | .previousActivePage =>
      ([], controller.setView { controller.state.view with
        activePage := max 0 (controller.state.view.activePage - 1) })

/-! ### Typing -/

def inputCharacter (controller : LobbyController) (value : Char) : LobbyController :=
  let view := controller.state.view
  let form := controller.state.form
  if view.screen = .authentication then
    match form.focusedField with
    | .username =>
        if isPrint value ∧ form.usernameInput.length < 32 then
          controller.setForm { form with usernameInput := form.usernameInput.push value }
        else controller
    | .confirmPassword =>
        if form.authMode = .register ∧ isPrint value ∧ controller.confirmPassword.length < 128 then
          let typed := controller.confirmPassword.push value
          ({ controller with confirmPassword := typed }.setForm
            { form with confirmPasswordLength := typed.length }).setView
              { view with visibleError := "" }
        else controller
    | .password =>
        if isPrint value ∧ controller.password.length < 128 then
          let typed := controller.password.push value
          ({ controller with password := typed }.setForm
            { form with passwordLength := typed.length }).setView
              (if form.authMode = AuthenticationMode.register then { view with visibleError := "" }
              else view)
        else controller
  else
    match view.modal with
    | .createRoom =>
        if isPrint value then
          let candidate := view.roomNameInput.push value
          if candidate.length ≤ 40 then
            controller.setView { view with roomNameInput := candidate, visibleError := "" }
          else controller.showError "Room name must be at most 40 UTF-8 bytes."
        else controller
    | .joinHiddenRoom =>
        if value.toUpper.isAlphanum ∧ form.hiddenRoomCodeInput.length < 6 then
          controller.setForm
            { form with hiddenRoomCodeInput := form.hiddenRoomCodeInput.push value.toUpper }
        else controller
    | .none => controller

def popBack (text : String) : String := String.ofList text.toList.dropLast

def backspace (controller : LobbyController) : LobbyController :=
  let view := controller.state.view
  let form := controller.state.form
  if view.screen = .authentication then
    match form.focusedField with
    | .username => controller.setForm { form with usernameInput := popBack form.usernameInput }
    | .confirmPassword =>
        if form.authMode = .register ∧ controller.confirmPassword ≠ "" then
          let shortened := popBack controller.confirmPassword
          ({ controller with confirmPassword := shortened }.setForm
            { form with confirmPasswordLength := shortened.length }).setView
              { view with visibleError := "" }
        else controller
    | .password =>
        if controller.password ≠ "" then
          let shortened := popBack controller.password
          ({ controller with password := shortened }.setForm
            { form with passwordLength := shortened.length }).setView
              (if form.authMode = AuthenticationMode.register then { view with visibleError := "" }
              else view)
        else controller
  else
    match view.modal with
    | .createRoom =>
        if view.roomNameInput ≠ "" then
          controller.setView
            { view with roomNameInput := popBack view.roomNameInput, visibleError := "" }
        else controller
    | .joinHiddenRoom =>
        controller.setForm { form with hiddenRoomCodeInput := popBack form.hiddenRoomCodeInput }
    | .none => controller

def handleTab (controller : LobbyController) (replies : TransportReplies) : Handled :=
  if controller.state.view.screen ≠ .authentication then ([], controller)
  else
    controller.handle replies
      (match controller.state.form.focusedField with
      | .username => .focusPassword
      | .password =>
          if controller.state.form.authMode = .register then .focusConfirmPassword
          else .focusUsername
      | .confirmPassword => .focusUsername)

def handleEnter (controller : LobbyController) (replies : TransportReplies) : Handled :=
  match controller.state.view.modal with
  | .createRoom => controller.handle replies .submitCreateRoom
  | .joinHiddenRoom => controller.handle replies .submitHiddenCode
  | .none =>
      if controller.state.view.screen = .authentication then
        controller.handle replies
          (if controller.state.form.authMode = .register then .register else .login)
      else ([], controller)

/-! ### The board -/

/-- The match whose board takes clicks, when the cell is one of the board. -/
def playable (controller : LobbyController) (cell : Position) : Option AuthoritativeMatchView :=
  controller.state.view.shownMatch.filter fun shown =>
    ¬ shown.spectator ∧ shown.phase = .playing ∧ controller.state.view.screen = .game ∧
      0 ≤ cell.row ∧ cell.row ≤ 7 ∧ 0 ≤ cell.col ∧ cell.col ≤ 7

/-- The cell holds a piece of the player. -/
def holdsOwnPiece (shown : AuthoritativeMatchView) (cell : Position) : Bool :=
  match shown.snapshot.pieces.find? fun piece =>
    piece.position = cell ∧ piece.state ≠ "captured" with
  | none => false
  | some piece =>
      piece.token.toList.head? = some (if shown.assignedColor = "black" then 'b' else 'w')

def setMatch (controller : LobbyController) (shown : AuthoritativeMatchView) : LobbyController :=
  controller.setView { controller.state.view with shownMatch := some shown }

def gameBoardClick (controller : LobbyController) (replies : TransportReplies) (row col : Int) :
    Handled :=
  let cell : Position := ⟨row, col⟩
  match controller.playable cell with
  | none => ([], controller)
  | some shown =>
      match shown.selectedSource with
      | none =>
          ([], controller.setMatch
            (if holdsOwnPiece shown cell then
              { shown with selectedSource := some cell, moveStatus := "" }
            else { shown with moveStatus := "Select one of your pieces." }))
      | some source =>
          let sending :=
            { shown with nextSequence := shown.nextSequence + 1, selectedSource := none }
          if source = cell then
            let call := TransportCall.sendJump shown.roomId shown.nextSequence cell
            ([call], controller.setMatch
              (if replies.sent call then sending
              else { sending with moveStatus := "Could not send the jump." }))
          else
            let call := TransportCall.sendMove shown.roomId shown.nextSequence source cell
            ([call], controller.setMatch
              { sending with
                moveStatus :=
                  if replies.sent call then "Waiting for authoritative result..."
                  else "Could not send the move." })

def gameBoardJump (controller : LobbyController) (replies : TransportReplies) (row col : Int) :
    Handled :=
  let cell : Position := ⟨row, col⟩
  match controller.playable cell with
  | none => ([], controller)
  | some shown =>
      if ¬ holdsOwnPiece shown cell then
        ([], controller.setMatch { shown with moveStatus := "Select one of your pieces." })
      else
        let sending :=
          { shown with nextSequence := shown.nextSequence + 1, selectedSource := none }
        let call := TransportCall.sendJump shown.roomId shown.nextSequence cell
        ([call], controller.setMatch
          (if replies.sent call then sending
          else { sending with moveStatus := "Could not send the jump." }))

/-! ### Ticks -/

/-- The body of the loop of `consumeNetworkEvents`. -/
def consume (controller : LobbyController) (replies : TransportReplies) :
    LobbyClientEvent → Handled
  | .authenticationFailed =>
      let reset := controller.state.resetForLogout
      ([], { controller with
        state := reset.authenticationFailed "Your session expired. Please sign in again." })
  | .closed | .transportError =>
      ([], { controller with state := controller.state.setConnectionState .disconnected })
  | .protocol event =>
      let applied := { controller with state := controller.state.applyEvent event }
      match event with
      | .connected _ =>
          ([.subscribeLobby],
            if replies.sent .subscribeLobby then applied
            else applied.showError "Could not subscribe to lobby updates.")
      | _ => ([], applied)
  | .parseError => ([], controller.showError "The lobby sent an invalid message.")

def consumeNetworkEvents (replies : TransportReplies) :
    List LobbyClientEvent → LobbyController → Handled
  | [], controller => ([], controller)
  | event :: waiting, controller =>
      let consumed := controller.consume replies event
      let rest := consumeNetworkEvents replies waiting consumed.2
      (consumed.1 ++ rest.1, rest.2)

/-- The part of a tick that picks up the result of an authentication. -/
def pickUp (controller : LobbyController) (replies : TransportReplies) (readings : TickReadings) :
    Handled :=
  match controller.authenticationTask, readings.ready with
  | some task, some results =>
      { controller with authenticationTask := none }.finishAuthentication replies
        (task.result results)
  | _, _ => ([], controller)

def tick (controller : LobbyController) (replies : TransportReplies) (readings : TickReadings) :
    Handled :=
  let picked := controller.pickUp replies readings
  let connected :=
    { picked.2 with state := picked.2.state.setConnectionState readings.connectionState }
  let consumed := consumeNetworkEvents replies readings.events connected
  (picked.1 ++ consumed.1, consumed.2)

/-- One input. -/
def receive (controller : LobbyController) (replies : TransportReplies) : LobbyInput → Handled
  | .action action => controller.handle replies action
  | .character value => ([], controller.inputCharacter value)
  | .backspace => ([], controller.backspace)
  | .tab => controller.handleTab replies
  | .enter => controller.handleEnter replies
  | .boardClick row col => controller.gameBoardClick replies row col
  | .boardJump row col => controller.gameBoardJump replies row col
  | .tick readings => controller.tick replies readings

def step (controller : LobbyController) (input : TransportReplies × LobbyInput) :
    LobbyController :=
  (controller.receive input.1 input.2).2

end LobbyController

end Lobby

end KungFuChess

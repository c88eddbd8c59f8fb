import KungFuChess.Client.LobbyController
import KungFuChess.Network.Protocol

/-!
# What the lobby client asks for

Whatever the player types and clicks, and whatever arrives in between, the lobby client
keeps its inputs within bounds, and every call it makes on the transport is one the
gateway can take: a name and a password of the right length, a trimmed room name, a code
of the alphabet, a command of the player between cells of the board.
-/

set_option autoImplicit false

namespace KungFuChess

namespace Lobby

/-! ## What an event does to the match -/

/-- The shown match is the one before, but for what the gateway tells of it. -/
def Continues (before : Option AuthoritativeMatchView) (shown : AuthoritativeMatchView) : Prop :=
  ∃ old ∈ before, old.roomId = shown.roomId ∧ old.nextSequence = shown.nextSequence ∧
    old.selectedSource = shown.selectedSource

theorem Continues.same {before : Option AuthoritativeMatchView} {shown : AuthoritativeMatchView}
    (isShown : shown ∈ before) : Continues before shown :=
  ⟨shown, isShown, rfl, rfl, rfl⟩

theorem Continues.trans {before between : Option AuthoritativeMatchView}
    {shown : AuthoritativeMatchView} (first : ∀ old ∈ between, Continues before old)
    (second : Continues between shown) : Continues before shown := by
  obtain ⟨middle, isMiddle, room, sequence, source⟩ := second
  obtain ⟨old, wasShown, room', sequence', source'⟩ := first middle isMiddle
  exact ⟨old, wasShown, room'.trans room, sequence'.trans sequence, source'.trans source⟩

/-- An event opens a match, or goes on with the one before. -/
theorem shownMatch_applyEvent (view : LobbyViewModel) (event : LobbyEvent) :
    ∀ shown ∈ (view.applyEvent event).shownMatch,
      (event.Opens shown.roomId ∧ shown.nextSequence = 1 ∧ shown.selectedSource = none) ∨
        Continues view.shownMatch shown := by
  have updated : ∀ (roomId : String) (change : AuthoritativeMatchView → AuthoritativeMatchView),
      (∀ old, (change old).roomId = old.roomId ∧ (change old).nextSequence = old.nextSequence ∧
        (change old).selectedSource = old.selectedSource) →
      ∀ shown ∈ (view.updateMatch roomId change).shownMatch, Continues view.shownMatch shown := by
    intro roomId change keeps shown isShown
    obtain ⟨old, wasShown, rfl⟩ := Option.map_eq_some_iff.mp isShown
    by_cases here : old.roomId = roomId
    · rw [if_pos here]
      obtain ⟨room, sequence, source⟩ := keeps old
      exact ⟨old, wasShown, room.symm, sequence.symm, source.symm⟩
    · rw [if_neg here]
      exact .same wasShown
  intro shown isShown
  cases event with
  | matchReady roomId color opponent revision state startsAt white black =>
      left
      cases isShown
      exact ⟨rfl, rfl, rfl⟩
  | matchSnapshot roomId revision state =>
      left
      cases isShown
      exact ⟨rfl, rfl, rfl⟩
  | matchCountdown roomId value startsAt =>
      right
      refine updated roomId _ (fun old => ?_) shown isShown
      split <;> exact ⟨rfl, rfl, rfl⟩
  | matchStarted roomId revision state startsAt =>
      right
      refine updated roomId _ (fun old => ?_) shown isShown
      exact ⟨rfl, rfl, rfl⟩
  | matchState roomId revision state =>
      right
      refine updated roomId _ (fun old => ?_) shown isShown
      split <;> exact ⟨rfl, rfl, rfl⟩
  | moveResult roomId sequence accepted reason =>
      right
      refine updated roomId _ (fun old => ?_) shown isShown
      exact ⟨rfl, rfl, rfl⟩
  | matchCancelled roomId reason =>
      right
      rw [LobbyViewModel.applyEvent, LobbyViewModel.applyMatchCancelled] at isShown
      split at isShown
      · cases isShown
      · exact .same isShown
  | roomStatus roomId status =>
      right
      rw [LobbyViewModel.applyEvent, LobbyViewModel.applyRoomStatus] at isShown
      split at isShown
      · exact .same isShown
      · exact .same isShown
  | roomCreated room =>
      right
      rw [LobbyViewModel.applyEvent, LobbyViewModel.applyRoomCreated] at isShown
      dsimp only at isShown
      split at isShown
      · split at isShown
        · exact .same isShown
        · exact .same isShown
      · exact .same isShown
  | connected user => exact .inr (.same isShown)
  | pong => exact .inr (.same isShown)
  | lobbySnapshot waitingRooms activeGames => exact .inr (.same isShown)
  | gameStarted roomId roomName color opponent => exact .inr (.same isShown)
  | watchingGame roomId roomName white black spectatorCount => exact .inr (.same isShown)
  | spectatorLeft roomId => exact .inr (.same isShown)
  | opponentDisconnected roomId => exact .inr (.same isShown)
  | protocolError code message => exact .inr (.same isShown)
  | searching => exact .inr (.same isShown)
  | matchNotFound => exact .inr (.same isShown)
  | findMatchCancelled => exact .inr (.same isShown)
  | ratingUpdated rating => exact .inr (.same isShown)

/-- An event leaves the typed room name, or empties it. -/
theorem roomNameInput_applyEvent (view : LobbyViewModel) (event : LobbyEvent) :
    (view.applyEvent event).roomNameInput = view.roomNameInput ∨
      (view.applyEvent event).roomNameInput = "" := by
  cases event with
  | roomCreated room =>
      right
      rw [LobbyViewModel.applyEvent, LobbyViewModel.applyRoomCreated]
      dsimp only
      split
      · split
        · rfl
        · rfl
      · rfl
  | roomStatus roomId status =>
      left
      rw [LobbyViewModel.applyEvent, LobbyViewModel.applyRoomStatus]
      split
      · rfl
      · rfl
  | matchCancelled roomId reason =>
      left
      rw [LobbyViewModel.applyEvent, LobbyViewModel.applyMatchCancelled]
      split
      · rfl
      · rfl
  | _ => exact .inl rfl

/-! ## What is typed -/

open Protocol (isBoardPosition)

/-- A text of at most so many characters, all of which can be printed. -/
def Printable (limit : Nat) (text : String) : Prop :=
  text.length ≤ limit ∧ ∀ character ∈ text.toList, isPrint character = true

namespace Printable

theorem empty (limit : Nat) : Printable limit "" :=
  ⟨Nat.zero_le _, fun _ member => absurd member List.not_mem_nil⟩

theorem push {limit : Nat} {text : String} (printable : Printable limit text) {value : Char}
    (isPrinted : isPrint value = true) (short : text.length < limit) :
    Printable limit (text.push value) := by
  refine ⟨?_, ?_⟩
  · rw [String.length_push]
    exact short
  · intro character member
    rw [String.toList_push] at member
    rcases List.mem_append.mp member with old | isNew
    · exact printable.2 character old
    · rw [List.mem_singleton.mp isNew]
      exact isPrinted

/-- A part of a printable text is printable. -/
theorem sublist {limit : Nat} {text : String} (printable : Printable limit text)
    {letters : List Char} (part : letters.Sublist text.toList) :
    Printable limit (String.ofList letters) := by
  refine ⟨?_, ?_⟩
  · rw [String.length_ofList]
    exact part.length_le.trans (String.length_toList.trans_le printable.1)
  · intro character member
    rw [String.toList_ofList] at member
    exact printable.2 character (part.subset member)

theorem popBack {limit : Nat} {text : String} (printable : Printable limit text) :
    Printable limit (LobbyController.popBack text) :=
  printable.sublist (List.dropLast_sublist _)

theorem trimRoomName {limit : Nat} {text : String} (printable : Printable limit text) :
    Printable limit (trimRoomName text) :=
  printable.sublist
    ((List.rdropWhile_prefix _ _).sublist.trans (List.dropWhile_sublist _))

end Printable

theorem length_popBack (text : String) : (LobbyController.popBack text).length ≤ text.length := by
  rw [LobbyController.popBack, String.length_ofList, List.length_dropLast, String.length_toList]
  exact Nat.sub_le _ _

/-- What an authentication needs. -/
def Acceptable (username password : String) : Prop :=
  3 ≤ username.length ∧ 10 ≤ password.length ∧ Printable 128 password

namespace LobbyController

/-- The inputs of the player keep to their bounds. What the view shows of the length of a
password is right, or zero after a failure. The name of the user has no bound here: a login
that succeeds puts in the name it was answered with, which need not keep to the thirty-two
characters of the typing. -/
structure Typed (controller : LobbyController) : Prop where
  password : Printable 128 controller.password
  confirmPassword : Printable 128 controller.confirmPassword
  passwordLength : controller.state.form.passwordLength = 0 ∨
    controller.state.form.passwordLength = controller.password.length
  confirmPasswordLength : controller.state.form.confirmPasswordLength = 0 ∨
    controller.state.form.confirmPasswordLength = controller.confirmPassword.length
  code : controller.state.form.hiddenRoomCodeInput.length ≤ 6
  roomName : Printable 40 controller.state.view.roomNameInput
  selected : ∀ shown ∈ controller.state.view.shownMatch, ∀ cell ∈ shown.selectedSource,
    isBoardPosition cell
  task : ∀ task ∈ controller.authenticationTask, Acceptable task.username task.password

theorem typed_start : Typed {} where
  password := .empty 128
  confirmPassword := .empty 128
  passwordLength := .inl rfl
  confirmPasswordLength := .inl rfl
  code := by decide
  roomName := .empty 40
  selected := fun _ isShown => by cases isShown
  task := fun _ isTask => by cases isTask

namespace Typed

variable {controller : LobbyController}

theorem setView (typed : Typed controller) {view : LobbyViewModel}
    (roomName : Printable 40 view.roomNameInput)
    (selected : ∀ shown ∈ view.shownMatch, ∀ cell ∈ shown.selectedSource, isBoardPosition cell) :
    Typed (controller.setView view) :=
  { typed with roomName := roomName, selected := selected }

/-- A change of the view that touches neither the room name nor the match. -/
theorem setView_same (typed : Typed controller) {view : LobbyViewModel}
    (roomName : view.roomNameInput = controller.state.view.roomNameInput)
    (shown : view.shownMatch = controller.state.view.shownMatch) :
    Typed (controller.setView view) :=
  typed.setView (roomName ▸ typed.roomName) (shown ▸ typed.selected)

/-- A change of the form that touches neither the lengths nor the code. -/
theorem setForm_same (typed : Typed controller) {form : LobbyForm}
    (password : form.passwordLength = controller.state.form.passwordLength)
    (confirm : form.confirmPasswordLength = controller.state.form.confirmPasswordLength)
    (code : form.hiddenRoomCodeInput = controller.state.form.hiddenRoomCodeInput) :
    Typed (controller.setForm form) :=
  { typed with
    passwordLength := password ▸ typed.passwordLength
    confirmPasswordLength := confirm ▸ typed.confirmPasswordLength
    code := code ▸ typed.code }

/-- A new password, whose length is shown. -/
theorem setPassword (typed : Typed controller) {password : String} (secret : Printable 128 password)
    {view : LobbyViewModel} (roomName : view.roomNameInput = controller.state.view.roomNameInput)
    (shown : view.shownMatch = controller.state.view.shownMatch) :
    Typed (({ controller with password := password }.setForm
      { controller.state.form with passwordLength := password.length }).setView view) :=
  { typed with
    password := secret
    passwordLength := .inr rfl
    roomName := roomName ▸ typed.roomName
    selected := shown ▸ typed.selected }

/-- A new confirmation, whose length is shown. -/
theorem setConfirmPassword (typed : Typed controller) {password : String}
    (secret : Printable 128 password) {view : LobbyViewModel}
    (roomName : view.roomNameInput = controller.state.view.roomNameInput)
    (shown : view.shownMatch = controller.state.view.shownMatch) :
    Typed (({ controller with confirmPassword := password }.setForm
      { controller.state.form with confirmPasswordLength := password.length }).setView view) :=
  { typed with
    confirmPassword := secret
    confirmPasswordLength := .inr rfl
    roomName := roomName ▸ typed.roomName
    selected := shown ▸ typed.selected }

theorem showError (typed : Typed controller) (message : String) :
    Typed (controller.showError message) :=
  { typed with }

theorem authenticationFailed (typed : Typed controller) (message : String) :
    Typed { controller with state := controller.state.authenticationFailed message } :=
  { typed with passwordLength := .inl rfl, confirmPasswordLength := .inl rfl }

theorem setConnectionState (typed : Typed controller) (connection : WebSocketConnectionState) :
    Typed { controller with state := controller.state.setConnectionState connection } := by
  unfold LobbyApplicationState.setConnectionState
  dsimp only
  split
  · exact { typed with }
  · exact { typed with }

theorem applyEvent (typed : Typed controller) (event : LobbyEvent) :
    Typed { controller with state := controller.state.applyEvent event } := by
  refine { typed with roomName := ?_, selected := ?_ }
  · rcases roomNameInput_applyEvent controller.state.view event with same | empty
    · exact same ▸ typed.roomName
    · exact empty ▸ Printable.empty 40
  · intro shown isShown cell isSource
    rcases shownMatch_applyEvent controller.state.view event shown isShown with
      ⟨_, _, none⟩ | ⟨old, wasShown, _, _, source⟩
    · rw [none] at isSource
      cases isSource
    · exact typed.selected old wasShown cell (source ▸ isSource)

/-- The form and the view start afresh. -/
theorem reset (typed : Typed controller) :
    Typed { controller with state := controller.state.resetForLogout } where
  password := typed.password
  confirmPassword := typed.confirmPassword
  passwordLength := .inl rfl
  confirmPasswordLength := .inl rfl
  code := by
    change ("" : String).length ≤ 6
    decide
  roomName := .empty 40
  selected := fun _ isShown => by cases isShown
  task := typed.task

end Typed

/-! ## What is asked for -/

/-- The board of this room takes a command of the player. -/
def Commands (controller : LobbyController) (roomId : String) (sequence : Nat) : Prop :=
  ∃ shown ∈ controller.state.view.shownMatch, shown.spectator = false ∧ shown.phase = .playing ∧
    controller.state.view.screen = .game ∧ shown.roomId = roomId ∧ shown.nextSequence = sequence

/-- What holds of the controller that makes a call. -/
def Proper (controller : LobbyController) : TransportCall → Prop
  | .registerUser username password | .login username password =>
      controller.idle = true ∧ Acceptable username password
  | .createRoom name _ =>
      controller.state.networkActionsEnabled = true ∧ name ≠ "" ∧ Printable 40 name ∧
        trimRoomName name = name
  | .joinHiddenRoom code =>
      controller.state.networkActionsEnabled = true ∧ code.length = 6 ∧
        ∀ character ∈ code.toList, character ∈ codeAlphabet
  | .joinPublicRoom _ | .watchRoom _ | .findMatch | .getMatchHistory =>
      controller.state.networkActionsEnabled = true
  | .cancelFindMatch => controller.state.view.pendingAction = .findMatch
  | .leaveSpectator roomId =>
      ∃ shown ∈ controller.state.view.shownMatch, shown.spectator = true ∧ shown.roomId = roomId
  | .sendMove roomId sequence source destination =>
      controller.Commands roomId sequence ∧ isBoardPosition source ∧
        isBoardPosition destination ∧ source ≠ destination
  | .sendJump roomId sequence cell => controller.Commands roomId sequence ∧ isBoardPosition cell
  | .logout | .connectRealtime | .subscribeLobby | .requestLobby => True

/-- A handler keeps the inputs in bounds and makes proper calls. -/
def Fine (controller : LobbyController) (handled : Handled) : Prop :=
  Typed handled.2 ∧ ∀ call ∈ handled.1, controller.Proper call

variable {controller : LobbyController}

theorem Fine.silent {after : LobbyController} (typed : Typed after) :
    Fine controller ([], after) :=
  ⟨typed, fun _ member => absurd member List.not_mem_nil⟩

theorem Fine.single {after : LobbyController} {call : TransportCall} (typed : Typed after)
    (proper : controller.Proper call) : Fine controller ([call], after) := by
  refine ⟨typed, fun other member => ?_⟩
  rw [List.mem_singleton.mp member]
  exact proper

theorem beginAuthentication_fine (typed : Typed controller) (registration : Bool) :
    Fine controller (controller.beginAuthentication registration) := by
  unfold beginAuthentication
  split
  · exact .silent typed
  · next isIdle =>
      split
      · exact .silent (typed.authenticationFailed _)
      · next long =>
          have acceptable : Acceptable controller.state.form.usernameInput controller.password :=
            ⟨by omega, by omega, typed.password⟩
          refine .single ?_ ?_
          · refine { typed with task := fun task isTask => ?_ }
            cases isTask
            exact acceptable
          · rw [AuthenticationTask.firstCall]
            split
            · exact ⟨not_not.mp isIdle, acceptable⟩
            · exact ⟨not_not.mp isIdle, acceptable⟩

theorem register_fine (typed : Typed controller) : Fine controller controller.register := by
  unfold register
  split
  · split
    · exact .silent typed
    · split
      · exact .silent (typed.showError _)
      · split
        · exact .silent (typed.showError _)
        · exact beginAuthentication_fine typed true
  · exact beginAuthentication_fine typed true

theorem roomAction_fine (typed : Typed controller) (replies : TransportReplies)
    (pending : PendingLobbyAction) (roomId : String) {call : TransportCall} (message : String)
    (proper : controller.state.networkActionsEnabled = true → controller.Proper call) :
    Fine controller (controller.roomAction replies pending roomId call message) := by
  unfold roomAction
  split
  · next enabled =>
      refine .single ?_ (proper enabled)
      have begun := typed.setView_same
        (show ({ controller.state.view with
          pendingAction := pending
          pendingRoomId := roomId
          visibleError := "" } : LobbyViewModel).roomNameInput = _ from rfl) rfl
      split
      · exact begun
      · exact begun.showError message
  · exact .silent typed

theorem toggleAuthMode_typed (typed : Typed controller) : Typed controller.toggleAuthMode := by
  unfold toggleAuthMode
  split
  · exact typed
  · dsimp only
    split
    · exact { typed with confirmPassword := Printable.empty 128, confirmPasswordLength := .inl rfl }
    · exact { typed with confirmPassword := Printable.empty 128, confirmPasswordLength := .inl rfl }

theorem submitCreateRoom_fine (typed : Typed controller) (replies : TransportReplies) :
    Fine controller (controller.submitCreateRoom replies) := by
  unfold submitCreateRoom
  dsimp only
  split
  · exact .silent (typed.showError _)
  · next named =>
      split
      · exact .silent (typed.showError _)
      · refine roomAction_fine typed replies _ _ _ fun enabled => ?_
        exact ⟨enabled, named, typed.roomName.trimRoomName, Username.trim_trim _⟩

/-- What a normalized code is made of. -/
theorem mem_normalizeHiddenCode {value : String} {character : Char}
    (member : character ∈ (normalizeHiddenCode value).toList) : character ∈ codeAlphabet := by
  have kept : ∀ (letters normalized result : List Char),
      (∀ letter ∈ normalized, letter ∈ codeAlphabet) →
      letters.foldlM normalizeStep normalized = some result →
      ∀ letter ∈ result, letter ∈ codeAlphabet := by
    intro letters
    induction letters with
    | nil =>
        intro normalized result inside same
        cases same
        exact inside
    | cons first rest ih =>
        intro normalized result inside same
        rw [List.foldlM_cons, normalizeStep] at same
        split at same
        · exact ih normalized result inside same
        · split at same
          · next allowed =>
              refine ih _ result (fun letter isLetter => ?_) same
              rcases List.mem_append.mp isLetter with old | isNew
              · exact inside letter old
              · rw [List.mem_singleton.mp isNew]
                exact List.contains_iff_mem.mp allowed
          · cases same
  unfold normalizeHiddenCode at member
  cases folded : value.toList.foldlM normalizeStep [] with
  | none =>
      rw [folded] at member
      exact absurd member List.not_mem_nil
  | some result =>
      rw [folded, Option.elim_some, String.toList_ofList] at member
      exact kept value.toList [] result (fun _ none => absurd none List.not_mem_nil) folded
        character member

theorem submitHiddenCode_fine (typed : Typed controller) (replies : TransportReplies) :
    Fine controller (controller.submitHiddenCode replies) := by
  unfold submitHiddenCode
  dsimp only
  split
  · exact .silent (typed.showError _)
  · next six =>
      refine roomAction_fine typed replies _ _ _ fun enabled => ?_
      exact ⟨enabled, not_not.mp six, fun _ member => mem_normalizeHiddenCode member⟩

theorem backToLobby_fine (typed : Typed controller) : Fine controller controller.backToLobby := by
  refine ⟨typed.setView typed.roomName (fun _ isShown => by cases isShown), ?_⟩
  intro call member
  rcases List.mem_append.mp member with leaving | requesting
  · obtain ⟨shown, isShown, rfl⟩ := List.mem_map.mp leaving
    obtain ⟨isMatch, spectates⟩ := Option.filter_eq_some_iff.mp (Option.mem_toList.mp isShown)
    exact ⟨shown, isMatch, spectates, rfl⟩
  · rw [List.mem_singleton.mp requesting]
    trivial

theorem handle_fine (typed : Typed controller) (replies : TransportReplies)
    (action : LobbyAction) : Fine controller (controller.handle replies action) := by
  cases action with
  | focusUsername => exact .silent (typed.setForm_same rfl rfl rfl)
  | focusPassword => exact .silent (typed.setForm_same rfl rfl rfl)
  | focusConfirmPassword =>
      rw [handle]
      refine .silent ?_
      split
      · exact typed.setForm_same rfl rfl rfl
      · exact typed
  | toggleAuthMode => exact .silent (toggleAuthMode_typed typed)
  | login => exact beginAuthentication_fine typed false
  | register => exact register_fine typed
  | openCreateRoom =>
      rw [handle]
      refine .silent ?_
      split
      · exact { typed with }
      · exact typed
  | openJoinHidden =>
      rw [handle]
      refine .silent ?_
      split
      · exact { typed with code := by change ("" : String).length ≤ 6; decide }
      · exact typed
  | openMatchHistory =>
      rw [handle]
      split
      · next enabled =>
          exact .single { typed with } enabled
      · exact .silent typed
  | selectPublicVisibility => exact .silent (typed.setForm_same rfl rfl rfl)
  | selectHiddenVisibility => exact .silent (typed.setForm_same rfl rfl rfl)
  | submitCreateRoom => exact submitCreateRoom_fine typed replies
  | submitHiddenCode => exact submitHiddenCode_fine typed replies
  | cancelModal =>
      rw [handle]
      refine .silent ?_
      split
      · exact typed.setView_same rfl rfl
      · exact typed
  | joinPublicRoom roomId => exact roomAction_fine typed replies _ _ _ fun enabled => enabled
  | watchRoom roomId => exact roomAction_fine typed replies _ _ _ fun enabled => enabled
  | findMatch => exact roomAction_fine typed replies _ _ _ fun enabled => enabled
  | cancelFindMatch =>
      rw [handle]
      split
      · next searching => exact .single typed searching
      · exact .silent typed
  | backToLobby => exact backToLobby_fine typed
  | logout =>
      refine .single ?_ trivial
      exact { typed.reset with
        password := .empty 128
        confirmPassword := .empty 128
        passwordLength := .inl rfl
        confirmPasswordLength := .inl rfl }
  | nextWaitingPage lastPage => exact .silent (typed.setView_same rfl rfl)
  | previousWaitingPage => exact .silent (typed.setView_same rfl rfl)
  | nextActivePage lastPage => exact .silent (typed.setView_same rfl rfl)
  | previousActivePage => exact .silent (typed.setView_same rfl rfl)

/-! ### Typing -/

theorem inputCharacter_typed (typed : Typed controller) (value : Char) :
    Typed (controller.inputCharacter value) := by
  unfold inputCharacter
  dsimp only
  split
  · split
    · split
      · exact typed.setForm_same rfl rfl rfl
      · exact typed
    · split
      · next accepted =>
          obtain ⟨_, printable, short⟩ := accepted
          exact typed.setConfirmPassword (typed.confirmPassword.push printable short) rfl rfl
      · exact typed
    · split
      · next accepted =>
          have pushed := typed.password.push accepted.1 accepted.2
          split
          · exact typed.setPassword pushed rfl rfl
          · exact typed.setPassword pushed rfl rfl
      · exact typed
  · split
    · split
      · next printed =>
          split
          · next short =>
              rw [String.length_push] at short
              exact typed.setView (typed.roomName.push printed short) typed.selected
          · exact typed.showError _
      · exact typed
    · split
      · next accepted =>
          refine { typed with code := ?_ }
          exact (String.length_push ..).trans_le accepted.2
      · exact typed
    · exact typed

theorem backspace_typed (typed : Typed controller) : Typed controller.backspace := by
  unfold backspace
  dsimp only
  split
  · split
    · exact typed.setForm_same rfl rfl rfl
    · split
      · exact typed.setConfirmPassword typed.confirmPassword.popBack rfl rfl
      · exact typed
    · split
      · have shortened := typed.password.popBack
        split
        · exact typed.setPassword shortened rfl rfl
        · exact typed.setPassword shortened rfl rfl
      · exact typed
  · split
    · split
      · exact typed.setView typed.roomName.popBack typed.selected
      · exact typed
    · exact { typed with code := (length_popBack _).trans typed.code }
    · exact typed

theorem handleTab_fine (typed : Typed controller) (replies : TransportReplies) :
    Fine controller (controller.handleTab replies) := by
  unfold handleTab
  split
  · exact .silent typed
  · exact handle_fine typed replies _

theorem handleEnter_fine (typed : Typed controller) (replies : TransportReplies) :
    Fine controller (controller.handleEnter replies) := by
  unfold handleEnter
  split
  · exact handle_fine typed replies _
  · exact handle_fine typed replies _
  · split
    · exact handle_fine typed replies _
    · exact .silent typed

/-! ### The board -/

theorem playable_eq_some {cell : Position} {shown : AuthoritativeMatchView}
    (isPlayable : controller.playable cell = some shown) :
    controller.Commands shown.roomId shown.nextSequence ∧ isBoardPosition cell ∧
      shown ∈ controller.state.view.shownMatch := by
  obtain ⟨isShown, takes⟩ := Option.filter_eq_some_iff.mp isPlayable
  obtain ⟨player, playing, onScreen, board⟩ := of_decide_eq_true takes
  exact ⟨⟨shown, isShown, eq_false_of_ne_true player, playing, onScreen, rfl, rfl⟩, board, isShown⟩

theorem setMatch_typed (typed : Typed controller) {shown : AuthoritativeMatchView}
    (inside : ∀ cell ∈ shown.selectedSource, isBoardPosition cell) :
    Typed (controller.setMatch shown) := by
  refine typed.setView typed.roomName ?_
  intro other isShown
  cases isShown
  exact inside

theorem gameBoardClick_fine (typed : Typed controller) (replies : TransportReplies)
    (row col : Int) : Fine controller (controller.gameBoardClick replies row col) := by
  unfold gameBoardClick
  dsimp only
  split
  · exact .silent typed
  · next shown isPlayable =>
      obtain ⟨commands, board, isShown⟩ := playable_eq_some isPlayable
      split
      · next unselected =>
          refine .silent (setMatch_typed typed ?_)
          intro cell isSource
          split at isSource
          · cases isSource
            exact board
          · rw [unselected] at isSource
            cases isSource
      · next source selected =>
          have inside := typed.selected shown isShown source selected
          split
          · refine .single (setMatch_typed typed ?_) ⟨commands, board⟩
            intro cell isSource
            split at isSource
            · cases isSource
            · cases isSource
          · next distinct =>
              refine .single (setMatch_typed typed ?_) ⟨commands, inside, board, distinct⟩
              intro cell isSource
              cases isSource

theorem gameBoardJump_fine (typed : Typed controller) (replies : TransportReplies)
    (row col : Int) : Fine controller (controller.gameBoardJump replies row col) := by
  unfold gameBoardJump
  dsimp only
  split
  · exact .silent typed
  · next shown isPlayable =>
      obtain ⟨commands, board, isShown⟩ := playable_eq_some isPlayable
      split
      · exact .silent (setMatch_typed typed (typed.selected shown isShown))
      · refine .single (setMatch_typed typed ?_) ⟨commands, board⟩
        intro cell isSource
        split at isSource
        · cases isSource
        · cases isSource

/-! ### Ticks -/

/-- The calls of a tick are never about a room. -/
def IsConnecting (call : TransportCall) : Prop := call = .connectRealtime ∨ call = .subscribeLobby

theorem consume_typed (typed : Typed controller) (replies : TransportReplies)
    (event : LobbyClientEvent) :
    Typed (controller.consume replies event).2 ∧
      ∀ call ∈ (controller.consume replies event).1, IsConnecting call := by
  cases event with
  | authenticationFailed =>
      exact ⟨typed.reset.authenticationFailed _, fun _ member => absurd member List.not_mem_nil⟩
  | closed => exact ⟨typed.setConnectionState _, fun _ member => absurd member List.not_mem_nil⟩
  | transportError =>
      exact ⟨typed.setConnectionState _, fun _ member => absurd member List.not_mem_nil⟩
  | protocol event =>
      cases event with
      | connected user =>
          refine ⟨?_, fun call member => .inr (List.mem_singleton.mp member)⟩
          rw [consume]
          dsimp only
          split
          · exact typed.applyEvent _
          · exact (typed.applyEvent _).showError _
      | _ => exact ⟨typed.applyEvent _, fun _ member => absurd member List.not_mem_nil⟩
  | parseError => exact ⟨typed.showError _, fun _ member => absurd member List.not_mem_nil⟩

theorem consumeNetworkEvents_typed (replies : TransportReplies) :
    ∀ (events : List LobbyClientEvent) {controller : LobbyController}, Typed controller →
      Typed (consumeNetworkEvents replies events controller).2 ∧
        ∀ call ∈ (consumeNetworkEvents replies events controller).1, IsConnecting call := by
  intro events
  induction events with
  | nil => exact fun typed => ⟨typed, fun _ member => absurd member List.not_mem_nil⟩
  | cons event waiting ih =>
      intro controller typed
      obtain ⟨consumed, calls⟩ := consume_typed typed replies event
      obtain ⟨rest, others⟩ := ih consumed
      refine ⟨rest, fun call member => ?_⟩
      rcases List.mem_append.mp member with first | later
      · exact calls call first
      · exact others call later

theorem pickUp_typed (typed : Typed controller) (replies : TransportReplies)
    (readings : TickReadings) :
    Typed (controller.pickUp replies readings).2 ∧
      ∀ call ∈ (controller.pickUp replies readings).1, IsConnecting call := by
  unfold pickUp
  split
  · unfold finishAuthentication
    dsimp only
    have cleared : Typed ({ controller with authenticationTask := none }.clearPasswords.setForm
        { controller.state.form with passwordLength := 0, confirmPasswordLength := 0 }) :=
      { typed with
        password := .empty 128
        confirmPassword := .empty 128
        passwordLength := .inl rfl
        confirmPasswordLength := .inl rfl
        task := fun _ isTask => by cases isTask }
    split
    · split
      · refine ⟨?_, fun call member => .inl (List.mem_singleton.mp member)⟩
        exact { cleared with }
      · refine ⟨?_, fun call member => .inl (List.mem_singleton.mp member)⟩
        exact { cleared with }
    · exact ⟨cleared.authenticationFailed _, fun _ member => absurd member List.not_mem_nil⟩
  · exact ⟨typed, fun _ member => absurd member List.not_mem_nil⟩

theorem tick_fine (typed : Typed controller) (replies : TransportReplies)
    (readings : TickReadings) : Fine controller (controller.tick replies readings) := by
  obtain ⟨picked, first⟩ := pickUp_typed typed replies readings
  obtain ⟨consumed, later⟩ := consumeNetworkEvents_typed replies readings.events
    (picked.setConnectionState readings.connectionState)
  refine ⟨consumed, fun call member => ?_⟩
  have connecting : IsConnecting call := by
    rcases List.mem_append.mp member with isFirst | isLater
    · exact first call isFirst
    · exact later call isLater
  rcases connecting with rfl | rfl
  · trivial
  · trivial

theorem receive_fine (typed : Typed controller) (replies : TransportReplies)
    (input : LobbyInput) : Fine controller (controller.receive replies input) := by
  cases input with
  | action action => exact handle_fine typed replies action
  | character value => exact .silent (inputCharacter_typed typed value)
  | backspace => exact .silent (backspace_typed typed)
  | tab => exact handleTab_fine typed replies
  | enter => exact handleEnter_fine typed replies
  | boardClick row col => exact gameBoardClick_fine typed replies row col
  | boardJump row col => exact gameBoardJump_fine typed replies row col
  | tick readings => exact tick_fine typed replies readings

theorem step_typed (typed : Typed controller) (input : TransportReplies × LobbyInput) :
    Typed (controller.step input) :=
  (receive_fine typed input.1 input.2).1

theorem run_typed (inputs : List (TransportReplies × LobbyInput)) :
    Typed (Trace.run step {} inputs) := by
  refine Trace.run_invariant (motive := Typed) ?_ inputs typed_start
  exact fun _ input typed => step_typed typed input

/-- Every input of a run is handled finely. -/
theorem visits_fine {inputs : List (TransportReplies × LobbyInput)}
    {visit : LobbyController × (TransportReplies × LobbyInput)}
    (member : visit ∈ Trace.visits step {} inputs) :
    Fine visit.1 (visit.1.receive visit.2.1 visit.2.2) := by
  obtain ⟨before, _, _, reached⟩ := Trace.visits_split member
  have typed : Typed visit.1 := reached ▸ run_typed before
  exact receive_fine typed visit.2.1 visit.2.2

/-- **Every call of the lobby client is a proper one.** Whatever the player types and
clicks, and whatever the transport answers and reports: the inputs keep to their bounds,
and each call is made in a state that allows it. A registration or a login has a name of
three characters and a password of ten to 128 and is alone; a room action is made from the
lobby, connected, with nothing pending, with a trimmed name of at most forty bytes or a
code of the alphabet; and a command is one of the player's match while it goes on, with its
next number, between cells of the board. -/
theorem run_proper (inputs : List (TransportReplies × LobbyInput)) :
    Typed (Trace.run step {} inputs) ∧
    ∀ visit ∈ Trace.visits step {} inputs,
      ∀ call ∈ (visit.1.receive visit.2.1 visit.2.2).1, visit.1.Proper call :=
  ⟨run_typed inputs, fun _ member => (visits_fine member).2⟩

end LobbyController

end Lobby

end KungFuChess

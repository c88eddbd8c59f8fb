import KungFuChess.Library.Mailbox
import KungFuChess.Messaging.Message
import Mathlib.Logic.Function.Basic

/-!
# The network client of a game

`GameClient` shares its flags, its message queue and its connection between the thread
that receives and the thread of the window. Each access to an atomic flag and each
section under a mutex is one step; the steps of the two threads interleave in any order.
What a thread has still to do in straight code is a list of actions, and the receiving
thread has a point in the loops of `receiveLoop` besides.

This module holds the machine and what a single action of straight code does.
-/

set_option autoImplicit false

namespace KungFuChess

/-! ## The state -/

/-- The atomic flags of the client. -/
inductive ClientFlag where
  | connected
  | playerAssigned
  | gameStarted
  | gameEverStarted
  | gameFull
  | reconnecting
  | tryingToReconnect
  | gameClosed
  | stopRequested
  deriving DecidableEq, Repr

/-- A step of straight code: an access to atomic flags, or a section under a mutex. -/
inductive ClientAction where
  | store (flag : ClientFlag) (value : Bool)
  | storeSeconds (seconds : Int)
  | storeColor (color : PieceColor)
  | recordNames (message : Message)
  | recordIdentity (message : Message)
  | push (message : Message)
  | recordError (error : String)
  /-- The test of `markConnectionLost`. -/
  | testLost
  /-- The test for `WaitingForOpponent`. -/
  | testEverStarted
  | unlockSending
  | join
  deriving DecidableEq

/-- Where the receiving thread is in `receiveLoop` and in the functions it calls. -/
inductive ReceiverPoint where
  /-- At the test of the outer loop. -/
  | outer
  /-- At the first and at the second load of the test of the inner loop. -/
  | inner
  | innerStop
  /-- Waiting for data, or reading a message. -/
  | reading
  | caught (error : String)
  /-- At the test behind the inner loop. -/
  | deciding
  | tryingAgain
  /-- At the test of the loop over attempts, and at its last load. -/
  | retry
  | retryConnected
  | pausing
  /-- In `connectWithSavedToken`: before it copies the token, dialing with it, before the
  test for a stop, and before the sections that take the connection over. -/
  | copying
  | dialing (token : String)
  | dialed
  | adopting
  | ending
  | finished
  deriving DecidableEq

structure GameClient where
  flags : ClientFlag → Bool := fun _ => false
  reconnectSecondsRemaining : Int := 0
  assignedColor : PieceColor := .white
  nextSequence : Nat := 1
  incomingMessages : List Message := []
  connectionError : String := ""
  reconnectToken : String := ""
  username : String := ""
  whiteUsername : String := ""
  blackUsername : String := ""
  sendingLocked : Bool := false
  point : ReceiverPoint := .outer
  receiverTodo : List ClientAction := []
  windowTodo : List ClientAction := []

namespace GameClient

/-- The client after `connectTo` has succeeded, with the token it was started with. -/
def connectedAs (reconnectToken username : String) : GameClient where
  flags := Function.update (fun _ => false) .connected true
  reconnectToken := reconnectToken
  username := username

def store (client : GameClient) (flag : ClientFlag) (value : Bool) : GameClient :=
  { client with flags := Function.update client.flags flag value }

/-! ## Straight code -/

/-- The section of `receiveLoop` that keeps the names of both players. -/
def recordNames (client : GameClient) (message : Message) : GameClient :=
  if message.hasSnapshot then
    { client with
      whiteUsername :=
        if message.snapshot.whiteUsername ≠ "" then message.snapshot.whiteUsername
        else client.whiteUsername
      blackUsername :=
        if message.snapshot.blackUsername ≠ "" then message.snapshot.blackUsername
        else client.blackUsername }
  else if message.type = .playerAssigned ∨ message.type = .gameStarted then
    { client with
      whiteUsername := message.whiteUsername
      blackUsername := message.blackUsername }
  else client

/-- One action: the client after it, and what it adds in front of the remaining ones. -/
def act (client : GameClient) : ClientAction → List ClientAction × GameClient
  | .store flag value => ([], client.store flag value)
  | .storeSeconds seconds => ([], { client with reconnectSecondsRemaining := seconds })
  | .storeColor color => ([], { client with assignedColor := color })
  | .recordNames message => ([], client.recordNames message)
  | .recordIdentity message =>
      ([], { client with reconnectToken := message.reconnectToken, username := message.username })
  | .push message =>
      ([], { client with incomingMessages := client.incomingMessages ++ [message] })
  | .recordError error => ([], { client with connectionError := error })
  | .testLost =>
      (if client.flags .playerAssigned && !client.flags .gameFull && !client.flags .gameClosed &&
          !client.flags .stopRequested then [.store .tryingToReconnect true] else [], client)
  | .testEverStarted =>
      (if client.flags .gameEverStarted then [] else [.store .gameStarted false], client)
  | .unlockSending => ([], { client with sendingLocked := false })
  | .join => (if client.point = .finished then [] else [.join], client)

/-- `markConnectionLost`. -/
def markConnectionLost (error : String) : List ClientAction :=
  [.store .connected false, .testLost, .recordError error]

/-- What `receiveLoop` does with a message once it has kept the names: the actions, or the
exception it throws. -/
def handling (message : Message) : Except String (List ClientAction) :=
  match message.type with
  | .playerAssigned =>
      if message.playerColor = "white" then
        .ok [.storeColor .white, .store .playerAssigned true, .recordIdentity message]
      else if message.playerColor = "black" then
        .ok [.storeColor .black, .store .playerAssigned true, .recordIdentity message]
      else .error "Server assigned an invalid player color"
  | .waitingForOpponent =>
      .ok [.testEverStarted, .store .reconnecting false, .store .tryingToReconnect false,
        .storeSeconds 0, .push message]
  | .gameStarted =>
      .ok [.store .gameStarted true, .store .gameEverStarted true, .store .reconnecting false,
        .store .tryingToReconnect false, .storeSeconds 0, .push message]
  | .gameFull =>
      .ok [.store .gameStarted false, .store .tryingToReconnect false, .store .gameFull true,
        .push message]
  | .reconnecting =>
      .ok [.store .reconnecting true, .storeSeconds message.secondsRemaining, .push message]
  | .gameClosed =>
      .ok [.store .gameStarted false, .store .reconnecting false,
        .store .tryingToReconnect false, .store .gameClosed true, .storeSeconds 0, .push message]
  | _ => .ok [.push message]

/-! ## The receiving thread -/

/-- What the network and the clock give a step of the receiving thread. -/
inductive Io where
  | quiet
  | message (message : Message)
  | closed
  | failed (error : String)
  | succeeded
  deriving DecidableEq

/-- The receiving thread goes to a point, with actions to do before. -/
def goTo (client : GameClient) (point : ReceiverPoint) (todo : List ClientAction := []) :
    GameClient :=
  { client with point := point, receiverTodo := todo }

/-- Between two actions: a test of a loop, or a call that waits for the network. -/
def advance (client : GameClient) (io : Io) : GameClient :=
  match client.point with
  | .outer => client.goTo (if client.flags .stopRequested then .ending else .inner)
  | .inner => client.goTo (if client.flags .connected then .innerStop else .deciding)
  | .innerStop => client.goTo (if client.flags .stopRequested then .deciding else .reading)
  | .reading =>
      match io with
      | .quiet => client.goTo .inner
      | .message message =>
          match handling message with
          | .ok actions => client.goTo .inner (.recordNames message :: actions)
          | .error error => client.goTo (.caught error) [.recordNames message]
      | .closed => client.goTo .deciding (markConnectionLost "Server disconnected")
      | .failed error => client.goTo (.caught error)
      | .succeeded => client
  | .caught error =>
      client.goTo .deciding
        (if client.flags .stopRequested then [] else markConnectionLost error)
  | .deciding =>
      client.goTo
        (if client.flags .stopRequested || client.flags .gameFull || client.flags .gameClosed ||
            !client.flags .playerAssigned then .ending else .tryingAgain)
  | .tryingAgain => client.goTo .retry [.store .tryingToReconnect true]
  | .retry =>
      client.goTo
        (if client.flags .stopRequested || client.flags .gameClosed || client.flags .gameFull then
          .outer else .retryConnected)
  | .retryConnected => client.goTo (if client.flags .connected then .outer else .pausing)
  | .pausing => client.goTo (if client.flags .stopRequested then .outer else .copying)
  | .copying => client.goTo (.dialing client.reconnectToken)
  | .dialing _ =>
      match io with
      | .succeeded => client.goTo .dialed
      | .failed error => client.goTo .retry [.recordError error]
      | _ => client
  | .dialed => client.goTo (if client.flags .stopRequested then .retry else .adopting)
  | .adopting =>
      if client.sendingLocked then client
      else (client.store .connected true).goTo .outer [.recordError ""]
  | .ending => client.goTo .finished [.store .connected false]
  | .finished => client

/-- One step of the receiving thread. -/
def receive (client : GameClient) (io : Io) : GameClient :=
  match client.receiverTodo with
  | action :: rest =>
      let acted := client.act action
      { acted.2 with receiverTodo := acted.1 ++ rest }
  | [] => client.advance io

/-! ## The thread of the window -/

/-- One step of the thread of the window. -/
def work (client : GameClient) : GameClient :=
  match client.windowTodo with
  | action :: rest =>
      let acted := client.act action
      { acted.2 with windowTodo := acted.1 ++ rest }
  | [] => client

/-- `disconnect`. -/
def disconnect (client : GameClient) : GameClient :=
  if client.windowTodo = [] then
    { client with
      windowTodo :=
        [.store .stopRequested true, .store .tryingToReconnect false, .store .gameStarted false,
          .join, .store .connected false] }
  else client

/-- `send` on a connection that fails: the mutex is held until the loss is marked. -/
def sendFails (client : GameClient) : GameClient :=
  if client.windowTodo = [] then
    { client with
      sendingLocked := true
      windowTodo := markConnectionLost "TcpConnection: send failed" ++ [.unlockSending] }
  else client

/-- `createSequence`; the counter is a 64-bit number. -/
def createSequence (client : GameClient) : Nat × GameClient :=
  (client.nextSequence, { client with nextSequence := (client.nextSequence + 1) % 2 ^ 64 })

/-- The kind of a message in the queue: a response to the request with a number, or an
update. -/
def kindOf (message : Message) : Option Nat :=
  if message.type = .moveAccepted ∨ message.type = .moveRejected then some message.sequence
  else none

/-- `waitForResponse` at its end, for a kind with a number, and `tryReceiveUpdate`: the
oldest message of the kind is removed, if there is one. -/
def takeMessage (client : GameClient) (kind : Option Nat) : Option Message × GameClient :=
  match Mailbox.oldest kindOf kind client.incomingMessages with
  | none => (none, client)
  | some message =>
      (some message,
        { client with
          incomingMessages := Mailbox.without kindOf kind client.incomingMessages })

end GameClient

/-! ## Both threads -/

/-- A client with its past: the messages that arrived, those the window took, and the
tokens it dialed with. -/
structure ClientRun where
  client : GameClient
  arrived : List Message := []
  taken : List Message := []
  dials : List String := []

namespace ClientRun

/-- A step of one of the two threads. -/
inductive Step where
  | receive (io : GameClient.Io)
  | work
  | disconnect
  | sendFails
  | createSequence
  | takeMessage (kind : Option Nat)
  deriving DecidableEq

/-- The message that a step of the receiving thread reads. -/
def reads (client : GameClient) (io : GameClient.Io) : List Message :=
  match client.receiverTodo, client.point, io with
  | [], .reading, .message message => [message]
  | _, _, _ => []

/-- The token that a step of the receiving thread starts to dial with. -/
def dialed (client : GameClient) : List String :=
  match client.receiverTodo, client.point with
  | [], .copying => [client.reconnectToken]
  | _, _ => []

def step (run : ClientRun) : Step → ClientRun
  | .receive io =>
      { run with
        client := run.client.receive io
        arrived := run.arrived ++ reads run.client io
        dials := run.dials ++ dialed run.client }
  | .work => { run with client := run.client.work }
  | .disconnect => { run with client := run.client.disconnect }
  | .sendFails => { run with client := run.client.sendFails }
  | .createSequence => { run with client := run.client.createSequence.2 }
  | .takeMessage kind =>
      { run with
        client := (run.client.takeMessage kind).2
        taken := run.taken ++ (run.client.takeMessage kind).1.toList }

/-- The client after the steps of both threads. -/
def after (reconnectToken username : String) (steps : List Step) : ClientRun :=
  Trace.run step { client := .connectedAs reconnectToken username } steps

end ClientRun

/-! ## What an action does -/

namespace ClientAction

/-- The message an action puts into the queue. -/
def pushed : ClientAction → Option Message
  | .push message => some message
  | _ => none

/-- The token after an action. -/
def tokenAfter (token : String) : ClientAction → String
  | .recordIdentity message => message.reconnectToken
  | _ => token

/-- Actions that touch neither the queue nor the token. -/
def Quiet (action : ClientAction) : Prop :=
  action.pushed = none ∧ ∀ token, action.tokenAfter token = token

/-- The flags that are only ever raised, and the connection, that actions only end. -/
def Lasting : ClientAction → Prop
  | .store .playerAssigned value => value = true
  | .store .gameFull value => value = true
  | .store .gameClosed value => value = true
  | .store .connected value => value = false
  | _ => True

/-- Actions that raise the flag of a full or closed game. -/
def Ends (action : ClientAction) : Prop :=
  action = .store .gameFull true ∨ action = .store .gameClosed true

end ClientAction

namespace GameClient

open ClientAction

/-- A game that is full or closed, as the flags have it. -/
def Over (client : GameClient) : Prop :=
  client.flags .gameFull = true ∨ client.flags .gameClosed = true

variable (client : GameClient) (action : ClientAction)

theorem act_incomingMessages :
    (client.act action).2.incomingMessages =
      client.incomingMessages ++ action.pushed.toList := by
  cases action with
  | push message => rfl
  | recordNames message =>
      refine Eq.trans ?_ (List.append_nil _).symm
      simp only [act, recordNames]
      split
      · rfl
      · split <;> rfl
  | _ => exact (List.append_nil _).symm

theorem act_reconnectToken :
    (client.act action).2.reconnectToken = action.tokenAfter client.reconnectToken := by
  cases action with
  | recordNames message =>
      simp only [act, recordNames]
      split
      · rfl
      · split <;> rfl
  | _ => rfl

/-- An action leaves the place of both threads alone. -/
theorem act_place :
    (client.act action).2.point = client.point ∧
      (client.act action).2.receiverTodo = client.receiverTodo ∧
      (client.act action).2.windowTodo = client.windowTodo := by
  cases action with
  | recordNames message =>
      simp only [act, recordNames]
      split
      · exact ⟨rfl, rfl, rfl⟩
      · split <;> exact ⟨rfl, rfl, rfl⟩
  | _ => exact ⟨rfl, rfl, rfl⟩

/-- What an action adds is quiet and lasting. -/
theorem act_added {added : ClientAction} (member : added ∈ (client.act action).1) :
    added.Quiet ∧ added.Lasting := by
  have quiet : ∀ flag value, (ClientAction.store flag value).Quiet :=
    fun _ _ => ⟨rfl, fun _ => rfl⟩
  cases action with
  | testLost =>
      simp only [act] at member
      split at member
      · rw [List.mem_singleton.mp member]
        exact ⟨quiet _ _, trivial⟩
      · exact absurd member List.not_mem_nil
  | testEverStarted =>
      simp only [act] at member
      split at member
      · exact absurd member List.not_mem_nil
      · rw [List.mem_singleton.mp member]
        exact ⟨quiet _ _, trivial⟩
  | join =>
      simp only [act] at member
      split at member
      · exact absurd member List.not_mem_nil
      · rw [List.mem_singleton.mp member]
        exact ⟨⟨rfl, fun _ => rfl⟩, trivial⟩
  | _ => exact absurd member List.not_mem_nil

/-- The flags after an action. -/
theorem act_flags : (client.act action).2.flags =
    match action with
    | .store flag value => Function.update client.flags flag value
    | _ => client.flags := by
  cases action with
  | recordNames message =>
      simp only [act, recordNames]
      split
      · rfl
      · split <;> rfl
  | _ => rfl

variable {client action}

/-- A lasting action keeps a raised flag, and does not connect. -/
theorem act_lasting (client : GameClient) (lasting : action.Lasting) :
    (client.flags .playerAssigned = true →
      (client.act action).2.flags .playerAssigned = true) ∧
    (client.Over → (client.act action).2.Over) ∧
    (client.flags .connected = false → (client.act action).2.flags .connected = false) := by
  unfold Over
  rw [act_flags]
  cases action with
  | store flag value =>
      dsimp only
      cases flag with
      | playerAssigned =>
          cases (show value = true from lasting)
          exact ⟨fun _ => rfl, id, id⟩
      | gameFull =>
          cases (show value = true from lasting)
          exact ⟨id, fun _ => .inl rfl, id⟩
      | gameClosed =>
          cases (show value = true from lasting)
          exact ⟨id, fun _ => .inr rfl, id⟩
      | connected =>
          cases (show value = false from lasting)
          exact ⟨id, id, fun _ => rfl⟩
      | _ => exact ⟨id, id, id⟩
  | _ => exact ⟨id, id, id⟩

/-- The action that raises a flag of the end has raised it. -/
theorem act_ends (ends : action.Ends) : (client.act action).2.Over := by
  rcases ends with rfl | rfl
  · exact .inl rfl
  · exact .inr rfl

end GameClient

end KungFuChess

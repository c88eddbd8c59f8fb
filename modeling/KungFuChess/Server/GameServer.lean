import KungFuChess.Engine.GameEngine
import KungFuChess.IO.BoardParser
import KungFuChess.Messaging.Message
import Mathlib.Logic.Function.Basic

/-!
# The game server

`GameServer` shares two seats, an engine and the reservation of a lost seat between
the accept thread, one thread for each client and the game loop. Each section
that the source runs under one of its mutexes, and each access to an atomic flag,
is one step of `GameServer.step`; the steps of different threads interleave in
any order. A step whose thread is not at that point does nothing.

What a thread has still to do is part of the state: the phase of each client in
`handleClient`, and the phase of the game loop in `runGameLoop` and
`closeExpiredGame`. The values a section reads from outside (the clocks, the
random device, the network) are arguments of its step.
-/

set_option autoImplicit false

namespace KungFuChess

/-! ## Requests -/

/-- What a client asks for. -/
structure Request where
  type : MessageType
  source : Position := {}
  destination : Position := {}
  deriving DecidableEq, Repr

/-- What it is answered. -/
structure Response where
  type : MessageType
  accepted : Bool
  reason : String
  deriving DecidableEq, Repr

/-- `GameEngine::handleMessage`. -/
def GameEngine.handleMessage (load : PieceConfigReader) (engine : GameEngine) (request : Request) :
    Response × GameEngine :=
  let respond (answered : MoveResult × GameEngine) : Response × GameEngine :=
    (⟨if answered.1.isAccepted then .moveAccepted else .moveRejected, answered.1.isAccepted,
      answered.1.reason⟩, answered.2)
  match request.type with
  | .moveRequest => respond (engine.requestMove load request.source request.destination)
  | .jumpRequest => respond (engine.requestJump load request.source)
  | _ => (⟨.moveRejected, false, "unsupported_request_type"⟩, engine)

/-! ## The shared state -/

/-- The identity of a session: the pointer the seats and the threads hold. -/
abbrev ClientId := Nat

structure ClientSession where
  assignedColor : PieceColor
  username : String
  connected : Bool := true
  deriving DecidableEq, Repr

/-- Where the thread of a client is in `handleClient`: before its check for two
players, between this check and the exchange of `gameStarted`, before the section
of the start block, before the call that publishes the start, between the section
of this call and the bus, in the loop over requests, or past its end. -/
inductive ClientPhase where
  | greeting
  | starting
  | started
  | announcing
  | publishing
  | serving
  | finished
  deriving DecidableEq, Repr

/-- A session with its thread. `reconnectToken` is the token of the seat it was
given, and `closedGames` tells which game it joined. -/
structure Client where
  session : ClientSession
  reconnectToken : String
  phase : ClientPhase := .greeting
  closedGames : Nat
  deriving DecidableEq, Repr

/-- The player, the token and the name the server keeps for one colour. -/
structure Seat where
  player : Option ClientId := none
  reconnectToken : String := ""
  username : String := ""
  deriving DecidableEq, Repr

/-- `GameLifecyclePublisher`: which ends of the lifecycle were published. -/
structure LifecyclePublisher where
  started : Bool := false
  ended : Bool := false
  deriving DecidableEq, Repr

/-- Where the game loop is: between two actions, before the wait it has decided on,
before the close it has decided on, closing the sessions it has collected, before
the last section of `closeExpiredGame`, or before the publisher is reset. -/
inductive LoopPhase where
  | idle
  | ticking
  | expired
  | closing (sessions : List ClientId) (wasActiveGame : Bool)
  | clearing
  | resetting
  deriving DecidableEq, Repr

/-- The state of the server. `closedGames` counts the games that were closed; no
code reads it. -/
structure GameServer where
  engine : GameEngine
  lifecyclePublisher : LifecyclePublisher := {}
  seat : PieceColor → Seat := fun _ => {}
  nextClientId : ClientId := 1
  gameStarted : Bool := false
  expiredReconnectTokens : List String := []
  gameWasStarted : Bool := false
  reconnectionPending : Bool := false
  closingExpiredGame : Bool := false
  reservedColor : PieceColor := .white
  reconnectionDeadline : Int := 0
  lastReconnectSecondsSent : Int := -1
  gameplayStartsAtEpochMs : Int := 0
  clients : ClientId → Option Client := fun _ => none
  loop : LoopPhase := .idle
  closedGames : Nat := 0

namespace GameServer

/-- The constructor. -/
def fresh : GameServer where
  engine := .new createInitialBoard (some {})

/-! ### Reading -/

/-- Whether a session is still connected. -/
def isConnected (server : GameServer) (client : ClientId) : Bool :=
  match server.clients client with
  | none => false
  | some known => known.session.connected

/-- A seat nobody holds, or whose session is lost. -/
def Vacant (server : GameServer) (color : PieceColor) : Prop :=
  ∀ client ∈ (server.seat color).player, server.isConnected client = false

instance (server : GameServer) (color : PieceColor) : Decidable (server.Vacant color) :=
  inferInstanceAs (Decidable (∀ _ ∈ _, _))

def hasTwoPlayers (server : GameServer) : Bool :=
  !decide (server.Vacant .white) && !decide (server.Vacant .black)

def isGameplayEnabled (server : GameServer) (epochMs : Int) : Bool :=
  server.gameStarted && decide (0 < server.gameplayStartsAtEpochMs) &&
    decide (server.gameplayStartsAtEpochMs ≤ epochMs)

/-! ### Writing -/

def setSeat (server : GameServer) (color : PieceColor) (seat : Seat) : GameServer :=
  { server with seat := Function.update server.seat color seat }

def setClient (server : GameServer) (client : ClientId) (value : Client) : GameServer :=
  { server with clients := Function.update server.clients client (some value) }

/-- Change the thread or the session of a client. -/
def modifyClient (server : GameServer) (client : ClientId) (change : Client → Client) :
    GameServer :=
  { server with
    clients := Function.update server.clients client ((server.clients client).map change) }

def setPhase (server : GameServer) (client : ClientId) (phase : ClientPhase) : GameServer :=
  server.modifyClient client fun known => { known with phase := phase }

/-- `ClientSession::disconnect`. -/
def disconnect (server : GameServer) (client : ClientId) : GameServer :=
  server.modifyClient client fun known =>
    { known with session := { known.session with connected := false } }

/-! ## Sessions -/

/-- How `createSession` answers a handshake. -/
inductive SessionReply where
  | rejected (type : MessageType) (reason : String)
  | seated (client : ClientId)
  deriving DecidableEq, Repr

/-- Whether a handshake presents the token of the reserved seat. -/
def ValidReconnect (server : GameServer) (requestedToken : String) : Prop :=
  server.reconnectionPending = true ∧ requestedToken ≠ "" ∧
    requestedToken = (server.seat server.reservedColor).reconnectToken

instance (server : GameServer) (requestedToken : String) :
    Decidable (server.ValidReconnect requestedToken) :=
  inferInstanceAs (Decidable (_ ∧ _ ∧ _))

/-- Give a seat to a session, with a thread to serve it. -/
def seatClient (server : GameServer) (color : PieceColor) (client : ClientId)
    (reconnectToken username : String) : GameServer :=
  (server.setSeat color ⟨some client, reconnectToken, username⟩).setClient client
    { session := ⟨color, username, true⟩
      reconnectToken := reconnectToken
      closedGames := server.closedGames }

/-- The branch of `createSession` in which the reserved seat is reclaimed. -/
def reclaimSeat (server : GameServer) (client : ClientId) : GameServer :=
  let seat := server.seat server.reservedColor
  { server.seatClient server.reservedColor client seat.reconnectToken seat.username with
    reconnectionPending := false
    lastReconnectSecondsSent := -1 }

/-- `createSession`; `newToken` is what `createReconnectToken` draws. -/
def createSession (server : GameServer) (requestedToken requestedUsername newToken : String) :
    SessionReply × GameServer :=
  let trimmedUsername := Username.trim requestedUsername
  let clientId := server.nextClientId
  let server : GameServer := { server with nextClientId := clientId + 1 }
  if server.closingExpiredGame then (.rejected .gameFull "game_closing", server)
  else if requestedToken ≠ "" ∧ requestedToken ∈ server.expiredReconnectTokens then
    (.rejected .gameClosed "opponent_did_not_reconnect", server)
  else if ¬ server.ValidReconnect requestedToken ∧ ¬ Username.isValid trimmedUsername then
    (.rejected .invalidUsername
      (if trimmedUsername = "" then "empty_username" else "invalid_username"), server)
  else if server.ValidReconnect requestedToken then (.seated clientId, server.reclaimSeat clientId)
  else if server.reconnectionPending = false ∧ server.Vacant .white then
    (.seated clientId, server.seatClient .white clientId newToken trimmedUsername)
  else if server.reconnectionPending = false ∧ server.Vacant .black then
    (.seated clientId, server.seatClient .black clientId newToken trimmedUsername)
  else (.rejected .gameFull "game_full", server)

/-- Take a session off the seat it holds. -/
def vacate (server : GameServer) (client : ClientId) : GameServer :=
  { server with
    seat := fun color =>
      if (server.seat color).player = some client then { server.seat color with player := none }
      else server.seat color }

/-- The section of `removeSession`; `nowMs` is what the steady clock shows. -/
def removeSession (server : GameServer) (client : ClientId) (nowMs : Int) : GameServer :=
  match server.clients client with
  | none => server
  | some known =>
      if (server.seat .white).player ≠ some client ∧ (server.seat .black).player ≠ some client then
        server
      else
        let color := known.session.assignedColor
        let server : GameServer := { server.vacate client with gameStarted := false }
        let remainingPlayer := (server.seat .white).player.or (server.seat .black).player
        if server.gameWasStarted ∧ ¬ server.closingExpiredGame ∧
            remainingPlayer.any server.isConnected then
          { server with
            reservedColor := color
            reconnectionPending := true
            reconnectionDeadline := nowMs + 20000
            lastReconnectSecondsSent := -1 }
        else if ¬ server.gameWasStarted then
          server.setSeat color { server.seat color with reconnectToken := "", username := "" }
        else server

/-! ## The thread of a client -/

/-- The exchange of `gameStarted` after the check for two players. -/
def exchangeStarted (server : GameServer) (client : ClientId) : GameServer :=
  { server.setPhase client (if server.gameStarted then .serving else .started) with
    gameStarted := true }

/-- The section of the start block; `epochMs` is what the system clock shows. -/
def beginGame (server : GameServer) (client : ClientId) (epochMs : Int) : GameServer :=
  let firstGameStart := !server.gameWasStarted
  { server.setPhase client (if firstGameStart then .announcing else .serving) with
    gameplayStartsAtEpochMs :=
      if firstGameStart then epochMs + 4000 else server.gameplayStartsAtEpochMs
    gameWasStarted := true
    reconnectionPending := false }

/-- The section of `GameLifecyclePublisher::publishStarted`. -/
def publishStarted (server : GameServer) (client : ClientId) : GameServer :=
  { server.setPhase client
      (if server.lifecyclePublisher.started then .serving else .publishing) with
    lifecyclePublisher := { server.lifecyclePublisher with started := true } }

/-- The event that `GameLifecyclePublisher::publishStarted` publishes after its section. -/
def publishEvent (server : GameServer) (client : ClientId) : GameServer :=
  { server.setPhase client .serving with
    engine := server.engine.publish { type := .gameStarted } }

/-- The section in which a request is answered. -/
def handleRequest (load : PieceConfigReader) (server : GameServer) (client : ClientId)
    (request : Request) (epochMs : Int) : Response × GameServer :=
  match server.clients client with
  | none => (⟨.moveRejected, false, ""⟩, server)
  | some known =>
      if ¬ server.isGameplayEnabled epochMs then
        (⟨.moveRejected, false,
          if server.gameStarted then "countdown_in_progress" else "waiting_for_opponent"⟩, server)
      else if (server.engine.board.getPieceAt request.source).any fun piece =>
          server.engine.colorOf piece ≠ known.session.assignedColor then
        (⟨.moveRejected, false, "not_your_piece"⟩, server)
      else
        let (response, engine) := server.engine.handleMessage load request
        (response, { server with engine := engine })

/-! ## The game loop -/

/-- The section of `updateReconnectionState`. -/
def updateReconnectionState (server : GameServer) (nowMs : Int) : GameServer :=
  if ¬ server.reconnectionPending then server
  else if server.reconnectionDeadline ≤ nowMs then { server with loop := .expired }
  else { server with
    lastReconnectSecondsSent := (server.reconnectionDeadline - nowMs + 999) / 1000 }

/-- The wait of the game loop. The engine publishes the end of a game when it sets
`gameOver`, and the publisher hears of it. -/
def tick (load : PieceConfigReader) (server : GameServer) (deltaMs : Int) : GameServer :=
  let engine := if 0 < deltaMs then server.engine.wait load deltaMs else server.engine
  { server with
    engine := engine
    lifecyclePublisher :=
      { server.lifecyclePublisher with
        ended := server.lifecyclePublisher.ended || (engine.gameOver && !server.engine.gameOver) }
    loop := .idle }

/-- The first section of `closeExpiredGame`. -/
def closeGame (server : GameServer) : GameServer :=
  let tokens := [(server.seat .white).reconnectToken, (server.seat .black).reconnectToken]
  { server with
    closingExpiredGame := true
    reconnectionPending := false
    gameStarted := false
    expiredReconnectTokens := tokens.filter (· ≠ "") ++ server.expiredReconnectTokens
    loop := .closing ((server.seat .white).player.toList ++ (server.seat .black).player.toList)
      server.gameWasStarted }

/-- `GameLifecyclePublisher::publishEnded` of a game that is closed. -/
def publishEnded (server : GameServer) : GameServer :=
  if server.lifecyclePublisher.ended then server
  else
    { server with
      lifecyclePublisher := { server.lifecyclePublisher with ended := true }
      engine := server.engine.publish
        { type := .gameEnded
          gameEndReason := "opponent_did_not_reconnect"
          whiteScore := server.engine.whiteScore
          blackScore := server.engine.blackScore } }

/-- The section of `closeExpiredGame` that replaces the engine. -/
def replaceEngine (server : GameServer) (wasActiveGame : Bool) : GameServer :=
  let server := if wasActiveGame then server.publishEnded else server
  { server with
    engine := .new createInitialBoard server.engine.eventBus
    loop := .clearing }

/-- The last section of `closeExpiredGame`. -/
def clearSeats (server : GameServer) : GameServer :=
  { server with
    seat := fun _ => {}
    gameWasStarted := false
    closingExpiredGame := false
    lastReconnectSecondsSent := -1
    gameplayStartsAtEpochMs := 0
    loop := .resetting
    closedGames := server.closedGames + 1 }

/-! ## Steps -/

end GameServer

/-- One section of one thread. -/
inductive ServerStep where
  /-- The accept thread answers a handshake. -/
  | createSession (requestedToken requestedUsername newToken : String)
  /-- A connection is lost, or closed. -/
  | disconnect (client : ClientId)
  /-- A thread whose broadcast failed removes a session. -/
  | removeSession (client : ClientId) (nowMs : Int)
  /-- The thread of a client checks for two players. -/
  | checkPlayers (client : ClientId)
  | exchangeStarted (client : ClientId)
  | beginGame (client : ClientId) (epochMs : Int)
  | publishStarted (client : ClientId)
  /-- Its event reaches the bus. -/
  | publishEvent (client : ClientId)
  | handleRequest (client : ClientId) (request : Request) (epochMs : Int)
  /-- The thread of a client ends and removes its session. -/
  | finish (client : ClientId) (nowMs : Int)
  | updateReconnectionState (nowMs : Int)
  /-- The game loop reads `gameStarted`. -/
  | readStarted
  | tick (deltaMs : Int)
  | closeGame
  /-- The game loop disconnects the next session of a closed game. -/
  | closeSession
  | replaceEngine
  | clearSeats
  | resetPublisher
  deriving DecidableEq

namespace GameServer

/-- The phase of a client's thread; a client that does not exist has none. -/
def phaseOf (server : GameServer) (client : ClientId) : Option ClientPhase :=
  (server.clients client).map Client.phase

/-- A step of the server. -/
def step (load : PieceConfigReader) (server : GameServer) : ServerStep → GameServer
  | .createSession requestedToken requestedUsername newToken =>
      (server.createSession requestedToken requestedUsername newToken).2
  | .disconnect client => server.disconnect client
  | .removeSession client nowMs =>
      if server.isConnected client then server else server.removeSession client nowMs
  | .checkPlayers client =>
      if server.phaseOf client = some .greeting then
        server.setPhase client (if server.hasTwoPlayers then .starting else .serving)
      else server
  | .exchangeStarted client =>
      if server.phaseOf client = some .starting then server.exchangeStarted client else server
  | .beginGame client epochMs =>
      if server.phaseOf client = some .started then server.beginGame client epochMs else server
  | .publishStarted client =>
      if server.phaseOf client = some .announcing then server.publishStarted client else server
  | .publishEvent client =>
      if server.phaseOf client = some .publishing then server.publishEvent client else server
  | .handleRequest client request epochMs =>
      if server.phaseOf client = some .serving then
        (server.handleRequest load client request epochMs).2
      else server
  | .finish client nowMs =>
      if server.isConnected client = false ∧
          (server.phaseOf client = some .greeting ∨ server.phaseOf client = some .serving) then
        (server.removeSession client nowMs).setPhase client .finished
      else server
  | .updateReconnectionState nowMs =>
      if server.loop = .idle then server.updateReconnectionState nowMs else server
  | .readStarted =>
      if server.loop = .idle ∧ server.gameStarted then { server with loop := .ticking } else server
  | .tick deltaMs => if server.loop = .ticking then server.tick load deltaMs else server
  | .closeGame => if server.loop = .expired then server.closeGame else server
  | .closeSession =>
      match server.loop with
      | .closing (client :: rest) wasActiveGame =>
          { server.disconnect client with loop := .closing rest wasActiveGame }
      | _ => server
  | .replaceEngine =>
      match server.loop with
      | .closing [] wasActiveGame => server.replaceEngine wasActiveGame
      | _ => server
  | .clearSeats => if server.loop = .clearing then server.clearSeats else server
  | .resetPublisher =>
      if server.loop = .resetting then { server with lifecyclePublisher := {}, loop := .idle }
      else server

end GameServer

end KungFuChess

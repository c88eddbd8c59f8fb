import KungFuChess.Library.Pipeline
import KungFuChess.Server.Requests

/-!
# The message bus

`MessageBus` carries requests to the engine and responses back, in two queues.
`EngineMessageHandler` takes the oldest request, lets the engine answer it and adds
the snapshot of the engine after the answer. Neither of the two is bound to the
other's pace, so the moves of the bus are those of a pipeline: a client sends and
receives, the handler processes, and the clock of the engine runs in between.
-/

set_option autoImplicit false

namespace KungFuChess

/-! ## The two queues -/

structure MessageBus where
  clientToEngine : List Message := []
  engineToClient : List Message := []
  deriving DecidableEq

namespace MessageBus

def sendToEngine (bus : MessageBus) (message : Message) : MessageBus :=
  { bus with clientToEngine := bus.clientToEngine ++ [message] }

/-- The oldest request and the bus without it; the source throws when there is none. -/
def receiveForEngine (bus : MessageBus) : Option (Message × MessageBus) :=
  match bus.clientToEngine with
  | [] => none
  | message :: rest => some (message, { bus with clientToEngine := rest })

def sendToClient (bus : MessageBus) (message : Message) : MessageBus :=
  { bus with engineToClient := bus.engineToClient ++ [message] }

/-- The oldest response and the bus without it; the source throws when there is none. -/
def receiveForClient (bus : MessageBus) : Option (Message × MessageBus) :=
  match bus.engineToClient with
  | [] => none
  | message :: rest => some (message, { bus with engineToClient := rest })

end MessageBus

/-! ## The handler -/

/-- The call that a request makes on the engine; other types make none. -/
def Message.call (request : Message) : Option Call :=
  match request.type with
  | .moveRequest => some (.requestMove request.source request.destination)
  | .jumpRequest => some (.requestJump request.source)
  | _ => none

theorem EngineMessageHandler.processNextMessage_engine (load : PieceConfigReader)
    (engine : GameEngine) (request : Message) :
    (EngineMessageHandler.processNextMessage load engine request).2 =
      engine.run load request.call.toList := by
  unfold EngineMessageHandler.processNextMessage GameEngine.handleMessage Message.request
    Message.call
  cases request.type <;> rfl

namespace Messaging

/-- The handler with its bus. `KungFuChess.EngineMessageHandler.processNextMessage` is what it
does with one message. -/
structure EngineMessageHandler where
  engine : GameEngine
  messageBus : MessageBus := {}

namespace EngineMessageHandler

variable (load : PieceConfigReader)

/-- The response to a request: the engine's answer with the snapshot after it. -/
abbrev respond : GameEngine → Message → Message × GameEngine :=
  KungFuChess.EngineMessageHandler.processNextMessage load

/-- `processNextMessage`: whether there was a request to process. -/
def processNextMessage (handler : EngineMessageHandler) : Bool × EngineMessageHandler :=
  match handler.messageBus.receiveForEngine with
  | none => (false, handler)
  | some (request, messageBus) =>
      let responded := respond load handler.engine request
      (true,
        { engine := responded.2
          messageBus := messageBus.sendToClient responded.1 })

/-! ## The bus in use -/

/-- The engine's clock runs; this sends nothing. -/
def tick (engine : GameEngine) (ms : Int) : List Message × GameEngine :=
  ([], engine.wait load ms)

/-- A handler and what its client has received. -/
structure Session where
  handler : EngineMessageHandler
  received : List Message := []

/-- One move on the bus: a send or a receive of the client, a turn of the handler, or
a wait of the engine. -/
def move (session : Session) : Pipeline.Move Message Int → Session
  | .send request =>
      { session with
        handler := { session.handler with
          messageBus := session.handler.messageBus.sendToEngine request } }
  | .serve => { session with handler := (session.handler.processNextMessage load).2 }
  | .act ms =>
      { session with
        handler := { session.handler with engine := session.handler.engine.wait load ms } }
  | .receive =>
      match session.handler.messageBus.receiveForClient with
      | none => session
      | some (response, messageBus) =>
          { handler := { session.handler with messageBus := messageBus }
            received := session.received ++ [response] }

/-- A session as the line of a pipeline. -/
def Session.line (session : Session) : Pipeline.Line GameEngine Message Message where
  server := session.handler.engine
  requests := session.handler.messageBus.clientToEngine
  responses := session.handler.messageBus.engineToClient
  received := session.received

/-- **The bus is a pipeline.** -/
theorem line_move (session : Session) (moved : Pipeline.Move Message Int) :
    (move load session moved).line =
      Pipeline.step (respond load) (tick load) session.line moved := by
  obtain ⟨⟨engine, ⟨requests, responses⟩⟩, received⟩ := session
  cases moved with
  | send request => rfl
  | serve => cases requests <;> rfl
  | act ms => exact congrArg (Pipeline.Line.mk _ _ · _) (List.append_nil _).symm
  | receive => cases responses <;> rfl

theorem line_run (moves : List (Pipeline.Move Message Int)) :
    ∀ session : Session, (Trace.run (move load) session moves).line =
      Trace.run (Pipeline.step (respond load) (tick load)) session.line moves := by
  induction moves with
  | nil => exact fun _ => rfl
  | cons first rest ih =>
      intro session
      rw [Trace.run_cons, Trace.run_cons, ih, line_move]

/-- The call on the engine behind a request or a wait. -/
def callOf : Message ⊕ Int → Option Call
  | .inl request => request.call
  | .inr ms => some (.wait ms)

/-- What the engine met, it was called with. -/
theorem after_eq_run (met : List (Message ⊕ Int)) : ∀ engine : GameEngine,
    Pipeline.after (respond load) (tick load) engine met =
      engine.run load (met.filterMap callOf) := by
  induction met with
  | nil => exact fun _ => rfl
  | cons first rest ih =>
      intro engine
      have onward := ih (Pipeline.respond (respond load) (tick load) engine first).2
      refine onward.trans ?_
      cases first with
      | inl request =>
          have called :=
            KungFuChess.EngineMessageHandler.processNextMessage_engine load engine request
          change GameEngine.run load (respond load engine request).2 _ = _
          rw [called, List.filterMap_cons, callOf]
          cases request.call <;> rfl
      | inr ms => rfl

/-- Every response repeats the sequence number of its request. -/
theorem said_sequences (met : List (Message ⊕ Int)) : ∀ engine : GameEngine,
    (Pipeline.said (respond load) (tick load) engine met).map Message.sequence =
      (met.filterMap Sum.getLeft?).map Message.sequence := by
  induction met with
  | nil => exact fun _ => rfl
  | cons first rest ih =>
      intro engine
      have onward := ih (Pipeline.respond (respond load) (tick load) engine first).2
      cases first with
      | inl request => exact congrArg (request.sequence :: ·) onward
      | inr ms => exact onward

/-- **No request is lost, doubled or overtaken on the bus.** In every order of the
moves the engine was called with the requests in the order they were sent, between its
waits; the responses that were received and those that still wait are, in this order,
its answers to them with the snapshots right after each; and what the client received
carries the sequence numbers of its first requests. -/
theorem run_accounts (engine : GameEngine) (moves : List (Pipeline.Move Message Int)) :
    ∃ met : List (Message ⊕ Int),
      let session := Trace.run (move load) { handler := { engine := engine } } moves
      met.filterMap Sum.getLeft? ++ session.handler.messageBus.clientToEngine =
        Pipeline.sent moves ∧
      met.filterMap Sum.getRight? = Pipeline.acted moves ∧
      session.handler.engine = engine.run load (met.filterMap callOf) ∧
      session.received ++ session.handler.messageBus.engineToClient =
        Pipeline.said (respond load) (tick load) engine met ∧
      session.received.map Message.sequence <+: (Pipeline.sent moves).map Message.sequence := by
  obtain ⟨met, accounts⟩ : ∃ met, Pipeline.Accounts (respond load) (tick load) engine
      (Pipeline.sent moves) (Pipeline.acted moves) met
      (Trace.run (Pipeline.step (respond load) (tick load)) { server := engine } moves) :=
    Pipeline.accounts engine moves
  have same : (Trace.run (move load) { handler := { engine := engine } } moves).line =
      Trace.run (Pipeline.step (respond load) (tick load)) { server := engine } moves :=
    line_run load moves { handler := { engine := engine } }
  rw [← same] at accounts
  refine ⟨met, accounts.requests, accounts.events,
    accounts.server.trans (after_eq_run load met engine), accounts.responses, ?_⟩
  refine List.IsPrefix.trans ⟨_, List.map_append.symm.trans
    (congrArg (List.map Message.sequence) accounts.responses)⟩ ?_
  rw [said_sequences, ← accounts.requests, List.map_append]
  exact List.prefix_append _ _

end EngineMessageHandler

end Messaging

end KungFuChess

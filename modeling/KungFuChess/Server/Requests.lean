import KungFuChess.Network.Updates
import KungFuChess.Server.StartBlock

/-!
# Requests of the players

How the thread of a client answers a request: it looks at the piece on the requested
cell, refuses the request itself when the game does not run or the piece is not one
of its player, and passes it to the engine otherwise. The first part says what a
request of one side can change; the second compares the snapshots of the answers.
-/

set_option autoImplicit false

namespace KungFuChess

/-! ## What a request of one side can change -/

namespace GameEngine

/-- Nothing but pieces of one side is changed or set in motion. -/
structure Commands (side : PieceColor) (engine next : GameEngine) : Prop where
  pieces : ∀ piece, engine.colorOf piece ≠ side → next.pieces.get piece = engine.pieces.get piece
  board : next.board = engine.board
  scores : next.whiteScore = engine.whiteScore ∧ next.blackScore = engine.blackScore
  histories : next.whiteMoveHistory = engine.whiteMoveHistory ∧
    next.blackMoveHistory = engine.blackMoveHistory
  gameOver : next.gameOver = engine.gameOver
  motions : ∀ motion ∈ next.realTime.activeMotions,
    motion ∈ engine.realTime.activeMotions ∨ engine.colorOf motion.piece = side
  jumps : ∀ jump ∈ next.realTime.activeJumps,
    jump ∈ engine.realTime.activeJumps ∨ engine.colorOf jump.piece = side

namespace Commands

variable {side : PieceColor} {engine : GameEngine}

theorem refl (side : PieceColor) (engine : GameEngine) : Commands side engine engine where
  pieces _ _ := rfl
  board := rfl
  scores := ⟨rfl, rfl⟩
  histories := ⟨rfl, rfl⟩
  gameOver := rfl
  motions _ := .inl
  jumps _ := .inl

/-- Changing one of its own pieces leaves the pieces of the other side alone. -/
theorem other_ne {piece own : PieceId} (other : engine.colorOf piece ≠ side)
    (isOwn : engine.colorOf own = side) : piece ≠ own := by
  rintro rfl
  exact other isOwn

theorem startMove (load : PieceConfigReader) {piece : PieceId} (own : engine.colorOf piece = side)
    (source destination : Position) :
    Commands side engine (engine.startMove load piece source destination) where
  pieces other isOther := by
    have distinct := other_ne isOther own
    simp only [GameEngine.startMove, startMotion, setState, modifyPiece,
      Heap.get_modify_of_ne _ _ distinct]
  board := rfl
  scores := ⟨rfl, rfl⟩
  histories := ⟨rfl, rfl⟩
  gameOver := rfl
  motions motion member := by
    rcases List.mem_append.mp member with old | new
    · exact .inl old
    · rw [List.mem_singleton.mp new]
      exact .inr own
  jumps _ := .inl

theorem startCastle (load : PieceConfigReader) {castle : PendingCastle}
    (king : engine.colorOf castle.king = side) (rook : engine.colorOf castle.rook = side) :
    Commands side engine (engine.startCastle load castle) where
  pieces other isOther := by
    have notKing := other_ne isOther king
    have notRook := other_ne isOther rook
    simp only [GameEngine.startCastle, startMotion, setState, modifyPiece,
      Heap.get_modify_of_ne _ _ notKing, Heap.get_modify_of_ne _ _ notRook]
  board := rfl
  scores := ⟨rfl, rfl⟩
  histories := ⟨rfl, rfl⟩
  gameOver := rfl
  motions motion member := by
    rcases List.mem_append.mp member with before | new
    · rcases List.mem_append.mp before with old | new
      · exact .inl old
      · rw [List.mem_singleton.mp new]
        exact .inr king
    · rw [List.mem_singleton.mp new]
      exact .inr rook
  jumps _ := .inl

theorem startJump (load : PieceConfigReader) {piece : PieceId} (own : engine.colorOf piece = side)
    (cell : Position) : Commands side engine (engine.startJump load piece cell) where
  pieces other isOther := by
    have distinct := other_ne isOther own
    simp only [GameEngine.startJump, setState, modifyPiece, Heap.get_modify_of_ne _ _ distinct]
  board := rfl
  scores := ⟨rfl, rfl⟩
  histories := ⟨rfl, rfl⟩
  gameOver := rfl
  motions _ := .inl
  jumps jump member := by
    rcases List.mem_append.mp member with old | new
    · exact .inl old
    · rw [List.mem_singleton.mp new]
      exact .inr own

/-- A move request acts on the piece on its source cell, and on a rook of the same side. -/
theorem requestMove (load : PieceConfigReader) {source : Position} (destination : Position)
    (own : ∀ piece, engine.board.getPieceAt source = some piece → engine.colorOf piece = side) :
    Commands side engine (engine.requestMove load source destination).2 ∧
      ((engine.requestMove load source destination).1.isAccepted = false →
        (engine.requestMove load source destination).2 = engine) := by
  rw [GameEngine.requestMove]
  split
  · exact ⟨refl side engine, fun _ => rfl⟩
  · split
    · exact ⟨refl side engine, fun _ => rfl⟩
    · next inside =>
        split
        · exact ⟨refl side engine, fun _ => rfl⟩
        · next piece here =>
            split
            · exact ⟨refl side engine, fun _ => rfl⟩
            · next ready =>
                have idle : engine.stateOf piece = .idle := not_not.mp (not_or.mp ready).1
                have rested := Bool.eq_false_iff.mpr (not_or.mp ready).2
                have onBoard := not_not.mp (not_or.mp inside).2
                split
                · next request =>
                    split
                    · exact ⟨refl side engine, fun _ => rfl⟩
                    · next castle found =>
                        obtain ⟨checked, from_, -⟩ :=
                          canCastle_checked onBoard here idle rested request found
                        have king := checked.king
                        rw [from_] at king
                        have kingOwn := own castle.king king
                        exact ⟨startCastle load kingOwn (checked.color.trans kingOwn),
                          Bool.noConfusion⟩
                · dsimp only
                  split
                  · exact ⟨refl side engine, fun _ => rfl⟩
                  · exact ⟨startMove load (own piece here) source destination, Bool.noConfusion⟩

/-- A jump request acts on the piece on its cell. -/
theorem requestJump (load : PieceConfigReader) {cell : Position}
    (own : ∀ piece, engine.board.getPieceAt cell = some piece → engine.colorOf piece = side) :
    Commands side engine (engine.requestJump load cell).2 ∧
      ((engine.requestJump load cell).1.isAccepted = false →
        (engine.requestJump load cell).2 = engine) := by
  rw [GameEngine.requestJump]
  split
  · exact ⟨refl side engine, fun _ => rfl⟩
  · split
    · exact ⟨refl side engine, fun _ => rfl⟩
    · split
      · exact ⟨refl side engine, fun _ => rfl⟩
      · next piece here =>
          split
          · exact ⟨refl side engine, fun _ => rfl⟩
          · exact ⟨startJump load (own piece here) cell, Bool.noConfusion⟩

/-- A request of any type, whose source cell holds no piece of the other side. -/
theorem handleMessage (load : PieceConfigReader) {request : Request}
    (own : ∀ piece, engine.board.getPieceAt request.source = some piece →
      engine.colorOf piece = side) :
    Commands side engine (engine.handleMessage load request).2 ∧
      ((engine.handleMessage load request).1.accepted = false →
        (engine.handleMessage load request).2 = engine) := by
  rw [GameEngine.handleMessage]
  split
  · exact requestMove load request.destination own
  · exact requestJump load own
  · exact ⟨refl side engine, fun _ => rfl⟩

end Commands

end GameEngine

/-- A response of the engine is a rejection or an acceptance. -/
theorem GameEngine.accepted_of_moveRejected (load : PieceConfigReader) (engine : GameEngine)
    (request : Request) (rejected : (engine.handleMessage load request).1.type = .moveRejected) :
    (engine.handleMessage load request).1.accepted = false := by
  have answered : ∀ result : MoveResult × GameEngine,
      (if result.1.isAccepted then MessageType.moveAccepted else .moveRejected) = .moveRejected →
        result.1.isAccepted = false := by
    intro result
    cases result.1.isAccepted with
    | true => exact MessageType.noConfusion
    | false => exact fun _ => rfl
  rw [handleMessage] at rejected ⊢
  split at rejected
  · exact answered _ rejected
  · exact answered _ rejected
  · rfl

/-! ## The whole response -/

/-- What the engine looks at in a message. -/
def Message.request (message : Message) : Request :=
  ⟨message.type, message.source, message.destination⟩

@[simp] theorem Message.request_source (message : Message) :
    message.request.source = message.source := rfl

/-- `EngineMessageHandler::processNextMessage`, with a single message waiting: the response of
the engine, with the snapshot of the engine alone. -/
def EngineMessageHandler.processNextMessage (load : PieceConfigReader) (engine : GameEngine)
    (request : Message) : Message × GameEngine :=
  let (response, next) := engine.handleMessage load request.request
  ({ type := response.type
     sequence := request.sequence
     source := request.source
     destination := request.destination
     accepted := response.accepted
     reason := response.reason
     createdAtMs := engine.getCurrentTimeMs
     hasSnapshot := true
     snapshot := GameStateSnapshotBuilder.build next }, next)

namespace GameServer

def buildSnapshot (server : GameServer) : GameStateSnapshot :=
  GameStateSnapshotBuilder.addPlayers (GameStateSnapshotBuilder.build server.engine)
    (server.seat .white).username (server.seat .black).username
    (server.gameStarted || (server.gameWasStarted && server.hasTwoPlayers))
    server.gameplayStartsAtEpochMs

/-- The response of `handleClient` to a request that it refuses itself. -/
def refusal (server : GameServer) (request : Message) (reason : String) : Message where
  type := .moveRejected
  sequence := request.sequence
  source := request.source
  destination := request.destination
  accepted := false
  reason := reason
  createdAtMs := server.engine.getCurrentTimeMs
  hasSnapshot := true
  snapshot := server.buildSnapshot

/-- The section of `handleClient` in which a request of a session of one colour is answered. -/
def answerRequest (load : PieceConfigReader) (server : GameServer) (assignedColor : PieceColor)
    (request : Message) (epochMs : Int) : Message × GameServer :=
  let sourcePiece := server.engine.board.getPieceAt request.source
  if ¬ server.isGameplayEnabled epochMs then
    (server.refusal request
      (if server.gameStarted then "countdown_in_progress" else "waiting_for_opponent"), server)
  else if sourcePiece.any fun piece => server.engine.colorOf piece ≠ assignedColor then
    (server.refusal request "not_your_piece", server)
  else
    let (response, engine) :=
      EngineMessageHandler.processNextMessage load server.engine request
    (response, { server with engine := engine })

/-- The step of the server is this section: it leaves the same server and says the same. -/
theorem handleRequest_eq (load : PieceConfigReader) (server : GameServer) {client : ClientId}
    {known : Client} (is : server.clients client = some known) (request : Message)
    (epochMs : Int) :
    let answer := server.answerRequest load known.session.assignedColor request epochMs
    server.handleRequest load client request.request epochMs =
      (⟨answer.1.type, answer.1.accepted, answer.1.reason⟩, answer.2) := by
  simp only [handleRequest, answerRequest, is]
  by_cases enabled : server.isGameplayEnabled epochMs
  · rw [if_neg (not_not.mpr enabled), if_neg (not_not.mpr enabled)]
    by_cases foreign : (server.engine.board.getPieceAt request.source).any fun piece =>
        server.engine.colorOf piece ≠ known.session.assignedColor
    · refine (if_pos foreign).trans ?_
      rw [if_pos foreign]
      rfl
    · refine (if_neg foreign).trans ?_
      rw [if_neg foreign]
      rfl
  · rw [if_pos enabled, if_pos enabled]
    rfl

/-- **A player commands only their own pieces**: nothing else changes, and nothing at all when
the request is rejected. -/
theorem answerRequest_commands (load : PieceConfigReader) (server : GameServer)
    (assignedColor : PieceColor) (request : Message) (epochMs : Int) :
    GameEngine.Commands assignedColor server.engine
        (server.answerRequest load assignedColor request epochMs).2.engine ∧
      ((server.answerRequest load assignedColor request epochMs).1.accepted = false ∨
          (server.answerRequest load assignedColor request epochMs).1.type = .moveRejected →
        (server.answerRequest load assignedColor request epochMs).2.engine = server.engine) := by
  simp only [answerRequest]
  split
  · exact ⟨.refl _ _, fun _ => rfl⟩
  · split
    · exact ⟨.refl _ _, fun _ => rfl⟩
    · next mine =>
        have own : ∀ piece, server.engine.board.getPieceAt request.request.source = some piece →
            server.engine.colorOf piece = assignedColor := by
          intro piece here
          rw [Message.request_source] at here
          rw [here, Option.any_some, decide_eq_true_eq, not_not] at mine
          exact mine
        obtain ⟨commands, rejected⟩ := GameEngine.Commands.handleMessage load own
        refine ⟨commands, fun refused => rejected ?_⟩
        rcases refused with refused | refused
        · exact refused
        · exact GameEngine.accepted_of_moveRejected load server.engine request.request refused

/-! ## The snapshot of a response -/

/-- **The snapshot of a response is that of the server just in case the thread of the client
refuses the request itself**: the engine knows neither names nor the start of the game. -/
theorem answerRequest_snapshot (load : PieceConfigReader) (server : GameServer)
    (assignedColor : PieceColor) (request : Message) (epochMs : Int) :
    (server.answerRequest load assignedColor request epochMs).1.snapshot =
        (server.answerRequest load assignedColor request epochMs).2.buildSnapshot ↔
      server.isGameplayEnabled epochMs = false ∨
        ∃ piece, server.engine.board.getPieceAt request.source = some piece ∧
          server.engine.colorOf piece ≠ assignedColor := by
  simp only [answerRequest]
  by_cases enabled : server.isGameplayEnabled epochMs
  · rw [if_neg (not_not.mpr enabled)]
    by_cases foreign : (server.engine.board.getPieceAt request.source).any fun piece =>
        server.engine.colorOf piece ≠ assignedColor
    · rw [if_pos foreign]
      rw [Option.any_eq_true] at foreign
      obtain ⟨piece, here, other⟩ := foreign
      exact iff_of_true rfl (.inr ⟨piece, here, of_decide_eq_true other⟩)
    · rw [if_neg foreign]
      refine iff_of_false (fun same => ?_) ?_
      · -- the game runs, so the server knows when it has started
        have start := congrArg GameStateSnapshot.gameplayStartsAtEpochMs same
        rw [isGameplayEnabled, Bool.and_eq_true, Bool.and_eq_true, decide_eq_true_eq] at enabled
        exact absurd start enabled.1.2.ne
      · rintro (disabled | ⟨piece, here, other⟩)
        · exact Bool.false_ne_true (disabled.symm.trans enabled)
        · refine foreign ?_
          rw [here, Option.any_some]
          exact decide_eq_true other
  · rw [if_pos enabled]
    exact iff_of_true rfl (.inl (Bool.eq_false_iff.mpr enabled))

/-- Alice opens with her king's pawn. -/
def pawnOpening : Message where
  type := .moveRequest
  sequence := 1
  source := ⟨6, 4⟩
  destination := ⟨4, 4⟩

/-- Her response shows a game without names. -/
theorem pawnOpening_snapshot :
    let server := Trace.run (step .fallback) fresh startedGame
    let answer := server.answerRequest .fallback .white pawnOpening 6000
    answer.1.accepted = true ∧ answer.1.snapshot ≠ answer.2.buildSnapshot := by
  refine ⟨by decide +kernel, fun same => ?_⟩
  have name := congrArg GameStateSnapshot.whiteUsername same
  exact absurd name (by decide +kernel)

end GameServer

end KungFuChess

import KungFuChess.Realtime
import KungFuChess.Rules

/-!
# The game engine

`GameEngine` as the source computes it: requests are validated against the
logical board and start motions and jumps in the arbiter; `wait` advances the
arbiter and applies the events it emits, in batches, until an advance of zero
milliseconds emits none.

The engine holds the heap of pieces, since its member functions change the
pieces behind the pointers. An attached event bus is the list of the events
published to it so far; without one nothing is published.

The loop of `wait` runs on fuel. `GameEngine.dueBudget` is enough of it
(`KungFuChess/Engine/Settling.lean`): every batch uses up part of the budget of
the state it starts from.
-/

set_option autoImplicit false

namespace KungFuChess

/-! ## Published events -/

inductive GameEventType where
  | moveCompleted
  | scoreUpdated
  | gameStarted
  | gameEnded
  | soundRequested
  deriving DecidableEq, Repr

structure GameEvent where
  type : GameEventType := .moveCompleted
  source : Position := {}
  destination : Position := {}
  movingPieceKind : PieceKind := .pawn
  movingPieceColor : PieceColor := .white
  wasCapture : Bool := false
  hasCapturedPiece : Bool := false
  capturedPieceKind : PieceKind := .pawn
  capturedPieceColor : PieceColor := .black
  wasPromotion : Bool := false
  wasJump : Bool := false
  completedAtMs : Int := 0
  whiteScore : Int := 0
  blackScore : Int := 0
  hasWinner : Bool := false
  winner : PieceColor := .white
  gameEndReason : String := ""
  sound : String := ""
  deriving DecidableEq, Repr

/-- An event bus, seen from the engine: what was published to it. -/
structure EventBus where
  published : List GameEvent := []
  deriving DecidableEq, Repr

/-! ## The state -/

structure PendingCastle where
  king : PieceId
  rook : PieceId
  kingSource : Position
  kingDestination : Position
  rookSource : Position
  rookDestination : Position
  deriving DecidableEq, Repr

structure GameEngine where
  board : Board
  pieces : Heap
  realTime : RealTimeArbiter
  gameOver : Bool
  whiteScore : Int
  blackScore : Int
  whiteMoveHistory : List MoveHistoryEntry
  blackMoveHistory : List MoveHistoryEntry
  pendingCastles : List PendingCastle
  eventBus : Option EventBus

namespace GameEngine

/-- The constructor: a layout, an empty arbiter and an optional event bus. -/
def new (layout : Layout) (eventBus : Option EventBus) : GameEngine where
  board := layout.board
  pieces := layout.pieces
  realTime := {}
  gameOver := false
  whiteScore := 0
  blackScore := 0
  whiteMoveHistory := []
  blackMoveHistory := []
  pendingCastles := []
  eventBus := eventBus

def getCurrentTimeMs (engine : GameEngine) : Int := engine.realTime.currentTimeMs

/-- The state of the piece behind a pointer. -/
def stateOf (engine : GameEngine) (piece : PieceId) : PieceState := (engine.pieces.get piece).state

def colorOf (engine : GameEngine) (piece : PieceId) : PieceColor := (engine.pieces.get piece).color

def kindOf (engine : GameEngine) (piece : PieceId) : PieceKind := (engine.pieces.get piece).kind

/-- Call a member function of one piece. -/
def modifyPiece (engine : GameEngine) (piece : PieceId) (change : Piece → Piece) : GameEngine :=
  { engine with pieces := engine.pieces.modify piece change }

def setState (engine : GameEngine) (piece : PieceId) (newState : PieceState) : GameEngine :=
  engine.modifyPiece piece (·.setState newState)

/-! ## Scores, histories and events -/

def publish (engine : GameEngine) (event : GameEvent) : GameEngine :=
  { engine with eventBus := engine.eventBus.map fun bus => ⟨bus.published ++ [event]⟩ }

def getPieceValue : PieceKind → Int
  | .pawn => 1
  | .knight => 3
  | .bishop => 3
  | .rook => 5
  | .queen => 9
  | .king => 0

def addCaptureScore (engine : GameEngine) (attackerColor : PieceColor)
    (capturedKind : PieceKind) : GameEngine :=
  let value := getPieceValue capturedKind
  if value = 0 then engine
  else
    let scored :=
      if attackerColor = .white then { engine with whiteScore := engine.whiteScore + value }
      else { engine with blackScore := engine.blackScore + value }
    scored.publish
      { type := .scoreUpdated, whiteScore := scored.whiteScore, blackScore := scored.blackScore }

def buildMoveNotation (engine : GameEngine) (kind : PieceKind) (source destination : Position)
    (wasCapture wasPromotion : Bool) : String :=
  -- `static_cast<char>` keeps one byte of the sum.
  let column (col : Int) : String :=
    String.ofList [Char.ofNat ((('a'.toNat : Int) + col) % 256).toNat]
  (if kind ≠ .pawn then String.ofList [Piece.kindToChar kind]
    else if wasCapture then column source.col else "") ++
  (if wasCapture then "x" else "") ++ column destination.col ++
  toString (engine.board.height - destination.row) ++
  (if wasPromotion then "=Q" else "")

/-- Append to the history of the entry's colour. -/
def pushHistory (engine : GameEngine) (entry : MoveHistoryEntry) : GameEngine :=
  if entry.color = .white then
    { engine with whiteMoveHistory := engine.whiteMoveHistory ++ [entry] }
  else { engine with blackMoveHistory := engine.blackMoveHistory ++ [entry] }

def recordMove (engine : GameEngine) (piece : PieceId) (originalKind : PieceKind)
    (source destination : Position) (wasCapture wasPromotion wasJump : Bool)
    (completedAtMs : Int) : GameEngine :=
  engine.pushHistory
    { completedAtMs := completedAtMs
      color := engine.colorOf piece
      pieceKind := originalKind
      source := source
      destination := destination
      wasCapture := wasCapture
      wasPromotion := wasPromotion
      wasJump := wasJump
      notationText := engine.buildMoveNotation originalKind source destination wasCapture
        wasPromotion }

def publishMoveCompleted (engine : GameEngine) (entry : MoveHistoryEntry)
    (hasCapturedPiece : Bool := false) (capturedKind : PieceKind := .pawn)
    (capturedColor : PieceColor := .black) : GameEngine :=
  engine.publish
    { type := .moveCompleted
      source := entry.source
      destination := entry.destination
      movingPieceKind := entry.pieceKind
      movingPieceColor := entry.color
      wasCapture := entry.wasCapture
      hasCapturedPiece := hasCapturedPiece
      capturedPieceKind := capturedKind
      capturedPieceColor := capturedColor
      wasPromotion := entry.wasPromotion
      wasJump := entry.wasJump
      completedAtMs := entry.completedAtMs
      whiteScore := engine.whiteScore
      blackScore := engine.blackScore }

/-- Record an entry and publish it. -/
def announce (engine : GameEngine) (entry : MoveHistoryEntry) : GameEngine :=
  (engine.pushHistory entry).publishMoveCompleted entry

/-- Publish the latest move in the history of the piece's colour. -/
def publishLatestMove (engine : GameEngine) (piece : PieceId) (wasCapture : Bool)
    (capturedKind : PieceKind) (capturedColor : PieceColor) : GameEngine :=
  let history :=
    if engine.colorOf piece = .white then engine.whiteMoveHistory else engine.blackMoveHistory
  match history.getLast? with
  | some entry => engine.publishMoveCompleted entry wasCapture capturedKind capturedColor
  | none => engine

def endGame (engine : GameEngine) (winner : PieceColor) (reason : String) : GameEngine :=
  if engine.gameOver then engine
  else
    { engine with gameOver := true }.publish
      { type := .gameEnded
        hasWinner := true
        winner := winner
        gameEndReason := reason
        whiteScore := engine.whiteScore
        blackScore := engine.blackScore }

/-! ## The board as the engine writes it -/

/-- The piece on a cell for collisions: the piece whose motion is there, or else
the piece the grid holds, unless it is the excepted one or has moved away. -/
def findPieceAtRealOrVirtualCell (engine : GameEngine) (cell : Position)
    (exceptPiece : PieceId) : Option PieceId :=
  let motions := engine.realTime.activeMotions
  match motions.find? fun motion => motion.piece ≠ exceptPiece ∧
      engine.stateOf motion.piece = .moving ∧ motion.currentCell = cell with
  | some motion => some motion.piece
  | none =>
      match engine.board.getPieceAt cell with
      | none => none
      | some boardPiece =>
          if boardPiece = exceptPiece then none
          else if engine.stateOf boardPiece = .moving ∧
              ∃ motion ∈ motions, motion.piece = boardPiece ∧ motion.currentCell ≠ cell then
            none
          else some boardPiece

def getLogicalCellOfPiece (engine : GameEngine) (piece : PieceId) : Position :=
  engine.board.logicalCellOf piece

def removePieceFromBoard (engine : GameEngine) (piece : PieceId) : GameEngine :=
  { engine with board := engine.board.takeOff piece }

def commitPieceToCell (engine : GameEngine) (piece : PieceId) (source destination : Position) :
    GameEngine :=
  { engine with board := engine.board.commit piece source destination }

/-! ## Ending a motion -/

/-- Whether a pawn on this cell becomes a queen. -/
def promotes (engine : GameEngine) (piece : PieceId) (cell : Position) : Bool :=
  engine.kindOf piece = .pawn &&
    ((engine.colorOf piece = .white && decide (cell.row = 0)) ||
      (engine.colorOf piece = .black && decide (cell.row = engine.board.height - 1)))

def promotePawnIfNeeded (engine : GameEngine) (piece : PieceId) (cell : Position) :
    Bool × GameEngine :=
  if engine.promotes piece cell then (true, engine.modifyPiece piece (·.setKind .queen))
  else (false, engine)

def updateMotionCell (engine : GameEngine) (piece : PieceId) (cell : Position) : GameEngine :=
  { engine with realTime := engine.realTime.updateMotionCell piece cell }

def cancelMotion (engine : GameEngine) (piece : PieceId) : GameEngine :=
  { engine with realTime := engine.realTime.cancelMotion piece }

def finishMotion (engine : GameEngine) (piece : PieceId) : GameEngine :=
  { engine with realTime := engine.realTime.finishMotion piece }

def stopMovingPieceAt (engine : GameEngine) (piece : PieceId) (source finalCell : Position)
    (eventTimeMs : Int) (wasCapture : Bool) (capturedKind : PieceKind := .pawn)
    (capturedColor : PieceColor := .black) : GameEngine :=
  let originalKind := engine.kindOf piece
  let engine := engine.commitPieceToCell piece source finalCell
  let (promoted, engine) := engine.promotePawnIfNeeded piece finalCell
  let engine := engine.setState piece .idle
  let distance := source.distance finalCell
  let engine := engine.modifyPiece piece (·.startCooldown eventTimeMs (distance * 1000))
  let engine := engine.finishMotion piece
  let engine := engine.recordMove piece originalKind source finalCell wasCapture promoted false
    eventTimeMs
  engine.publishLatestMove piece wasCapture capturedKind capturedColor

/-! ## Castling -/

def isCastlingRequest (engine : GameEngine) (source destination : Position) : Bool :=
  match engine.board.getPieceAt source with
  | none => false
  | some piece =>
      engine.kindOf piece = .king ∧ source.row = destination.row ∧
        (destination.col - source.col).natAbs = 2

/-- Whether the piece on `source` attacks `cell`, by the shapes of the piece rules. -/
def attacksFrom (engine : GameEngine) (source cell : Position) (byColor : PieceColor) : Bool :=
  match engine.board.getPieceAt source with
  | none => false
  | some attacker =>
      if engine.colorOf attacker ≠ byColor ∨ engine.stateOf attacker = .captured then false
      else
        match engine.kindOf attacker with
        | .pawn =>
            let direction : Int := if byColor = .white then -1 else 1
            cell.row - source.row = direction ∧ (cell.col - source.col).natAbs = 1
        | .king => PieceRules.canMoveLikeKing source cell
        | .knight => PieceRules.canMoveLikeKnight source cell
        | .rook => PieceRules.canMoveLikeRook engine.board source cell
        | .bishop => PieceRules.canMoveLikeBishop engine.board source cell
        | .queen => PieceRules.canMoveLikeQueen engine.board source cell

def isSquareAttacked (engine : GameEngine) (cell : Position) (byColor : PieceColor) : Bool :=
  engine.board.positions.any fun source => engine.attacksFrom source cell byColor

/-- The cells strictly between the king and the rook. -/
def castlingPath (homeRow kingCol rookCol : Int) : List Position :=
  (List.range (rookCol - kingCol).natAbs.pred).map fun step : Nat =>
    ⟨homeRow, if rookCol > kingCol then kingCol + 1 + step else kingCol - 1 - step⟩

/-- `homeRow` of `canCastle`. -/
def castlingHomeRow (color : PieceColor) : Int := if color = .white then 7 else 0

/-- `direction` of `canCastle`: towards the rook. -/
def castlingDirection (source destination : Position) : Int :=
  if destination.col > source.col then 1 else -1

/-- The column of the rook on the side of the castle. -/
def castlingRookCol (direction : Int) : Int := if direction > 0 then 7 else 0

/-- The castle a request stands for, when it may be started. -/
def canCastle (engine : GameEngine) (source destination : Position) : Option PendingCastle :=
  if engine.board.height ≠ 8 ∨ engine.board.width ≠ 8 ∨ source.col ≠ 4 then none
  else
    match engine.board.getPieceAt source with
    | none => none
    | some king =>
        if engine.kindOf king ≠ .king ∨ (engine.pieces.get king).hasMoved then none
        else
          let homeRow := castlingHomeRow (engine.colorOf king)
          if source.row ≠ homeRow ∨ destination.row ≠ homeRow then none
          else
            let direction := castlingDirection source destination
            let rookSource : Position := ⟨homeRow, castlingRookCol direction⟩
            let rookDestination : Position := ⟨homeRow, source.col + direction⟩
            match engine.board.getPieceAt rookSource with
            | none => none
            | some rook =>
                if engine.kindOf rook ≠ .rook ∨ engine.colorOf rook ≠ engine.colorOf king ∨
                    (engine.pieces.get rook).hasMoved ∨ engine.stateOf rook ≠ .idle ∨
                    (engine.pieces.get rook).isOnCooldown engine.getCurrentTimeMs then none
                else if ¬ (castlingPath homeRow source.col rookSource.col).all
                    engine.board.isEmpty then none
                else
                  let enemy := (engine.colorOf king).opposite
                  let middle : Position := ⟨homeRow, source.col + direction⟩
                  if engine.isSquareAttacked source enemy ∨ engine.isSquareAttacked middle enemy ∨
                      engine.isSquareAttacked destination enemy then none
                  else some ⟨king, rook, source, destination, rookSource, rookDestination⟩

/-- Put both pieces of a castle on their destinations. -/
def placeCastle (engine : GameEngine) (castle : PendingCastle) (completedAt : Int) : GameEngine :=
  let board := engine.board.removePiece castle.kingSource
  let board := board.removePiece castle.rookSource
  let board := board.setPieceAt castle.kingDestination (some castle.king)
  let board := board.setPieceAt castle.rookDestination (some castle.rook)
  let engine := { engine with board := board }
  let engine := engine.setState castle.king .idle
  let engine := engine.setState castle.rook .idle
  let engine := engine.modifyPiece castle.king (·.startCooldown completedAt 2000)
  let engine := engine.modifyPiece castle.rook (·.startCooldown completedAt 2000)
  let engine := engine.finishMotion castle.king
  engine.finishMotion castle.rook

/-- Place a castle and record the move. -/
def finishCastle (engine : GameEngine) (castle : PendingCastle) (completedAt : Int) :
    GameEngine :=
  let placed := engine.placeCastle castle completedAt
  placed.announce
    { completedAtMs := completedAt
      color := placed.colorOf castle.king
      pieceKind := .king
      source := castle.kingSource
      destination := castle.kingDestination
      notationText :=
        if castle.kingDestination.col > castle.kingSource.col then "O-O" else "O-O-O" }

/-- The pending castle an event belongs to. -/
def castleOf (engine : GameEngine) (event : StepEvent) : Option PendingCastle :=
  engine.pendingCastles.find? fun castle => event.piece = castle.king ∨ event.piece = castle.rook

/-- Complete the castle an event belongs to; nothing when there is none. -/
def completeCastleFor (engine : GameEngine) (event : StepEvent) : Option GameEngine :=
  (engine.castleOf event).map fun castle =>
    let finished := engine.finishCastle castle event.eventTimeMs
    { finished with pendingCastles := finished.pendingCastles.erase castle }

/-! ## Requests -/

/-- Start a motion and set its piece moving. -/
def startMotion (engine : GameEngine) (piece : PieceId) (source destination : Position)
    (stepDurationMs : Int) (forceDirectMove : Bool) : GameEngine :=
  { engine.setState piece .moving with
    realTime := engine.realTime.startMotion piece (engine.kindOf piece) source destination
      stepDurationMs forceDirectMove }

/-- The accepting branch of `requestMove` for an ordinary move. -/
def startMove (load : PieceConfigReader) (engine : GameEngine) (piece : PieceId)
    (source destination : Position) : GameEngine :=
  let moveConfig := load (engine.pieces.get piece).token "move"
  let engine := engine.modifyPiece piece (·.markAsMoved)
  engine.startMotion piece source destination moveConfig.moveTimePerCellMs false

/-- The accepting branch of `requestMove` for a castling request. -/
def startCastle (load : PieceConfigReader) (engine : GameEngine) (castle : PendingCastle) :
    GameEngine :=
  let kingConfig := load (engine.pieces.get castle.king).token "move"
  let duration := max 1 (kingConfig.moveTimePerCellMs * 2)
  let engine := engine.modifyPiece castle.king (·.markAsMoved)
  let engine := engine.modifyPiece castle.rook (·.markAsMoved)
  let engine :=
    engine.startMotion castle.king castle.kingSource castle.kingDestination duration true
  let engine :=
    engine.startMotion castle.rook castle.rookSource castle.rookDestination duration true
  { engine with pendingCastles := engine.pendingCastles ++ [castle] }

def requestMove (load : PieceConfigReader) (engine : GameEngine) (source destination : Position) :
    MoveResult × GameEngine :=
  if engine.gameOver then (⟨false, Reasons.gameOver⟩, engine)
  else if ¬ engine.board.isInside source ∨ ¬ engine.board.isInside destination then
    (⟨false, Reasons.outsideBoard⟩, engine)
  else
    match engine.board.getPieceAt source with
    | none => (⟨false, Reasons.emptySource⟩, engine)
    | some piece =>
        if engine.stateOf piece ≠ .idle ∨
            (engine.pieces.get piece).isOnCooldown engine.getCurrentTimeMs then
          (⟨false, Reasons.motionInProgress⟩, engine)
        else if engine.isCastlingRequest source destination then
          match engine.canCastle source destination with
          | none => (⟨false, Reasons.illegalPieceMove⟩, engine)
          | some castle => (⟨true, Reasons.ok⟩, engine.startCastle load castle)
        else
          let validation := RuleEngine.validateMove engine.board engine.pieces source destination
          if ¬ validation.isValid then (⟨false, validation.reason⟩, engine)
          else (⟨true, Reasons.ok⟩, engine.startMove load piece source destination)

/-- The accepting branch of `requestJump`. -/
def startJump (load : PieceConfigReader) (engine : GameEngine) (piece : PieceId)
    (cell : Position) : GameEngine :=
  let jumpConfig := load (engine.pieces.get piece).token "jump"
  { engine.setState piece .airborne with
    realTime := engine.realTime.startJump piece cell jumpConfig.jumpDurationMs }

def requestJump (load : PieceConfigReader) (engine : GameEngine) (cell : Position) :
    MoveResult × GameEngine :=
  if engine.gameOver then (⟨false, Reasons.gameOver⟩, engine)
  else if ¬ engine.board.isInside cell then (⟨false, Reasons.outsideBoard⟩, engine)
  else
    match engine.board.getPieceAt cell with
    | none => (⟨false, Reasons.emptySource⟩, engine)
    | some piece =>
        if engine.stateOf piece ≠ .idle ∨
            (engine.pieces.get piece).isOnCooldown engine.getCurrentTimeMs then
          (⟨false, Reasons.cannotJump⟩, engine)
        else (⟨true, Reasons.jumpStarted⟩, engine.startJump load piece cell)

/-! ## Applying time events -/

/-- The branch of `processStepEvent` in which the moving piece meets an airborne
enemy: the moving piece is captured. -/
def loseToAirborne (engine : GameEngine) (piece target : PieceId) : GameEngine :=
  let capturedKind := engine.kindOf piece
  let engine := engine.removePieceFromBoard piece
  let engine := engine.setState piece .captured
  let engine := engine.cancelMotion piece
  let engine := engine.addCaptureScore (engine.colorOf target) capturedKind
  if capturedKind = .king then engine.endGame (engine.colorOf target) "king_captured" else engine

/-- The branch of `processStepEvent` in which the moving piece captures the piece
on the cell it enters, and stops there. -/
def captureTarget (engine : GameEngine) (piece target : PieceId) (source : Position)
    (event : StepEvent) : GameEngine :=
  let capturedKind := engine.kindOf target
  let engine := engine.setState target .captured
  let engine := engine.removePieceFromBoard target
  let engine := engine.cancelMotion target
  let engine := engine.addCaptureScore (engine.colorOf piece) capturedKind
  let engine := engine.updateMotionCell piece event.toCell
  let engine := engine.stopMovingPieceAt piece source event.toCell event.eventTimeMs true
    capturedKind (engine.colorOf target)
  if capturedKind = .king then engine.endGame (engine.colorOf piece) "king_captured" else engine

def processStepEvent (engine : GameEngine) (event : StepEvent) : GameEngine :=
  let piece := event.piece
  if engine.stateOf piece ≠ .moving then engine
  else
    match engine.completeCastleFor event with
    | some completed => completed
    | none =>
        match engine.realTime.activeMotions.find? fun motion => motion.piece = piece with
        | none => engine
        | some motion =>
            if ¬ engine.board.isInside event.toCell then
              engine.stopMovingPieceAt piece motion.source event.fromCell event.eventTimeMs false
            else
              match engine.findPieceAtRealOrVirtualCell event.toCell piece with
              | none =>
                  let moved := engine.updateMotionCell piece event.toCell
                  if event.reachedDestination then
                    moved.stopMovingPieceAt piece motion.source event.toCell event.eventTimeMs false
                  else moved
              | some target =>
                  if engine.colorOf target = engine.colorOf piece then
                    engine.stopMovingPieceAt piece motion.source event.fromCell event.eventTimeMs
                      false
                  else if engine.stateOf target = .airborne then
                    engine.loseToAirborne piece target
                  else engine.captureTarget piece target motion.source event

def processJumpLanding (load : PieceConfigReader) (engine : GameEngine)
    (event : JumpLandingEvent) : GameEngine :=
  let piece := event.piece
  if engine.stateOf piece ≠ .airborne then engine
  else if engine.board.getPieceAt event.cell ≠ some piece then engine
  else
    let engine := engine.setState piece .idle
    let jumpConfig := load (engine.pieces.get piece).token "jump"
    let engine := engine.modifyPiece piece
      (·.startCooldown event.eventTimeMs jumpConfig.shortCooldownMs)
    engine.announce
      { completedAtMs := event.eventTimeMs
        color := engine.colorOf piece
        pieceKind := engine.kindOf piece
        source := event.cell
        destination := event.cell
        wasJump := true
        notationText := "Jump" }

def applyTimeEvents (load : PieceConfigReader) (engine : GameEngine) (events : TimeEvents) :
    GameEngine :=
  events.jumpLandings.foldl (processJumpLanding load) (events.steps.foldl processStepEvent engine)

/-- `RealTimeArbiter::advanceTime` on the engine's arbiter and pieces. -/
def advanceTime (engine : GameEngine) (ms : Int) : TimeEvents × GameEngine :=
  let (events, realTime) := engine.realTime.advanceTime engine.pieces ms
  (events, { engine with realTime := realTime })

/-! ## Waiting -/

/-- How many more steps a motion can make before its step time passes `now`. -/
def motionBudget (now : Int) (motion : Motion) : Nat :=
  (now + 1 - motion.nextStepTimeMs).toNat

/-- A bound on the events the engine can still apply before `now`. -/
def dueBudget (engine : GameEngine) (now : Int) : Nat :=
  (engine.realTime.activeMotions.map (motionBudget now)).sum +
    engine.realTime.activeJumps.length

/-- The loop of `wait`: apply the events and advance by zero until there are none. -/
def drainEvents (load : PieceConfigReader) : Nat → TimeEvents → GameEngine → GameEngine
  | 0, _, engine => engine
  | fuel + 1, events, engine =>
      if events.isEmpty then engine
      else
        let (next, advanced) := (engine.applyTimeEvents load events).advanceTime 0
        drainEvents load fuel next advanced

def wait (load : PieceConfigReader) (engine : GameEngine) (ms : Int) : GameEngine :=
  if ms < 0 then engine
  else
    let (events, advanced) := engine.advanceTime ms
    drainEvents load (engine.dueBudget (engine.getCurrentTimeMs + ms) + 1) events advanced

end GameEngine

end KungFuChess

import KungFuChess.Engine.Runs
import KungFuChess.Network.RoundTrip
import Mathlib.Tactic.IntervalCases

/-!
# Reachable games are presentable

The receiver of a snapshot checks cells, tokens, steps and times. The engine
keeps what these checks ask for: every cell it stores is a cell of the standard
board, a cooldown starts at a time the clock has passed, and no time, score or
duration is negative.

The invariant is stated of a moment, so that it covers the events of a batch
while they are processed.
-/

set_option autoImplicit false

namespace KungFuChess

open Protocol

/-! ## Presentable values -/

/-- The cooldown of a piece has a duration, and it started before `now`. -/
structure Piece.Cooling (now : Int) (piece : Piece) : Prop where
  started : piece.cooldownStartedAtMs ≤ now
  duration : 0 ≤ piece.totalCooldownMs
  finish : piece.cooldownUntilMs = piece.cooldownStartedAtMs + piece.totalCooldownMs

namespace Piece.Cooling

variable {now : Int} {piece : Piece}

theorem later (cooling : piece.Cooling now) {after : Int} (order : now ≤ after) :
    piece.Cooling after where
  started := cooling.started.trans order
  duration := cooling.duration
  finish := cooling.finish

theorem restart {eventTimeMs : Int} (passed : eventTimeMs ≤ now) (durationMs : Int) :
    (piece.startCooldown eventTimeMs durationMs).Cooling now where
  started := passed
  duration := by
    simp only [startCooldown]
    split <;> omega
  finish := rfl

/-- **What remains of a cooldown** is a part of it. -/
theorem remaining (cooling : piece.Cooling now) :
    0 ≤ piece.getRemainingCooldownMs now ∧
      piece.getRemainingCooldownMs now ≤ piece.totalCooldownMs := by
  obtain ⟨started, duration, finish⟩ := cooling
  rw [getRemainingCooldownMs]
  split
  · exact ⟨le_rfl, duration⟩
  · next cools =>
      simp only [isOnCooldown, Bool.not_eq_true', Bool.not_eq_false, Bool.and_eq_true,
        decide_eq_true_eq] at cools
      omega

end Piece.Cooling

/-- A motion between cells of the standard board. -/
structure Motion.OnBoard (motion : Motion) : Prop where
  source : isBoardPosition motion.source
  destination : isBoardPosition motion.destination
  currentCell : isBoardPosition motion.currentCell
  steps : -1 ≤ motion.rowStep ∧ motion.rowStep ≤ 1 ∧ -1 ≤ motion.colStep ∧ motion.colStep ≤ 1
  nextStepTime : 0 ≤ motion.nextStepTimeMs

theorem Motion.OnBoard.moveOn {motion : Motion} (onBoard : motion.OnBoard) {cell : Position}
    (inside : isBoardPosition cell) : (motion.moveOn cell).OnBoard where
  source := onBoard.source
  destination := onBoard.destination
  currentCell := inside
  steps := onBoard.steps
  nextStepTime := Int.add_nonneg onBoard.nextStepTime motion.stepPositive.le

/-- A printable text of at most so many characters. -/
def IsShort (limit : Nat) (text : String) : Prop := IsText text ∧ text.toList.length ≤ limit

instance (limit : Nat) (text : String) : Decidable (IsShort limit text) :=
  inferInstanceAs (Decidable (_ ∧ _))

theorem IsShort.append {first second : String} {limit more : Nat} (one : IsShort limit first)
    (two : IsShort more second) : IsShort (limit + more) (first ++ second) := by
  rw [IsShort, IsText, String.toList_append, List.length_append]
  exact ⟨List.forall_mem_append.mpr ⟨one.1, two.1⟩, Nat.add_le_add one.2 two.2⟩

/-- An entry of a history that was completed before `now`. -/
structure MoveHistoryEntry.Presentable (now : Int) (entry : MoveHistoryEntry) : Prop where
  notNegative : 0 ≤ entry.completedAtMs
  completed : entry.completedAtMs ≤ now
  source : isBoardPosition entry.source
  destination : isBoardPosition entry.destination
  text : IsShort 6 entry.notationText

theorem MoveHistoryEntry.Presentable.later {now after : Int} {entry : MoveHistoryEntry}
    (presentable : entry.Presentable now) (order : now ≤ after) : entry.Presentable after where
  notNegative := presentable.notNegative
  completed := presentable.completed.trans order
  source := presentable.source
  destination := presentable.destination
  text := presentable.text

/-- **What the receiver of a snapshot relies on**, as a property of the engine. -/
structure GameEngine.Presentable (engine : GameEngine) : Prop where
  board : ∀ cell, engine.board.isInside cell ↔ isBoardPosition cell
  clock : 0 ≤ engine.getCurrentTimeMs
  scores : 0 ≤ engine.whiteScore ∧ 0 ≤ engine.blackScore
  cooling : ∀ piece, (engine.pieces.get piece).Cooling engine.getCurrentTimeMs
  motions : ∀ motion ∈ engine.realTime.activeMotions, motion.OnBoard
  jumps : ∀ jump ∈ engine.realTime.activeJumps, isBoardPosition jump.cell ∧ 0 ≤ jump.finishTimeMs
  castles : ∀ castle ∈ engine.pendingCastles,
    isBoardPosition castle.kingSource ∧ isBoardPosition castle.kingDestination
  whiteHistory : ∀ entry ∈ engine.whiteMoveHistory, entry.Presentable engine.getCurrentTimeMs
  blackHistory : ∀ entry ∈ engine.blackMoveHistory, entry.Presentable engine.getCurrentTimeMs

namespace GameEngine.Presentable

variable {engine : GameEngine}

/-- The board has eight rows. -/
theorem height (presentable : engine.Presentable) : engine.board.height = 8 := by
  have last := (presentable.board ⟨7, 0⟩).mpr (by decide)
  have beyond := mt (presentable.board ⟨8, 0⟩).mp (by decide)
  simp only [Board.isInside] at last beyond
  omega

/-! ## Operations of the engine -/

theorem modifyPiece (presentable : engine.Presentable) {piece : PieceId} {change : Piece → Piece}
    (cools : (change (engine.pieces.get piece)).Cooling engine.getCurrentTimeMs) :
    (engine.modifyPiece piece change).Presentable where
  board := presentable.board
  clock := presentable.clock
  scores := presentable.scores
  cooling := fun other => by
    change ((engine.pieces.modify piece change).get other).Cooling engine.getCurrentTimeMs
    rw [Heap.get_modify]
    split
    · exact cools
    · exact presentable.cooling other
  motions := presentable.motions
  jumps := presentable.jumps
  castles := presentable.castles
  whiteHistory := presentable.whiteHistory
  blackHistory := presentable.blackHistory

theorem setState (presentable : engine.Presentable) (piece : PieceId) (newState : PieceState) :
    (engine.setState piece newState).Presentable :=
  have cooling := presentable.cooling piece
  presentable.modifyPiece ⟨cooling.started, cooling.duration, cooling.finish⟩

theorem markAsMoved (presentable : engine.Presentable) (piece : PieceId) :
    (engine.modifyPiece piece (·.markAsMoved)).Presentable :=
  have cooling := presentable.cooling piece
  presentable.modifyPiece ⟨cooling.started, cooling.duration, cooling.finish⟩

theorem startCooldown (presentable : engine.Presentable) (piece : PieceId) {eventTimeMs : Int}
    (passed : eventTimeMs ≤ engine.getCurrentTimeMs) (durationMs : Int) :
    (engine.modifyPiece piece (·.startCooldown eventTimeMs durationMs)).Presentable :=
  presentable.modifyPiece (.restart passed durationMs)

theorem promotePawnIfNeeded (presentable : engine.Presentable) (piece : PieceId)
    (cell : Position) : (engine.promotePawnIfNeeded piece cell).2.Presentable := by
  rw [GameEngine.promotePawnIfNeeded]
  split
  · have cooling := presentable.cooling piece
    exact presentable.modifyPiece ⟨cooling.started, cooling.duration, cooling.finish⟩
  · exact presentable

/-- A board of the same size is as good. -/
theorem setBoard (presentable : engine.Presentable) {board : Board}
    (same : ∀ cell, board.isInside cell ↔ engine.board.isInside cell) :
    ({ engine with board := board } : GameEngine).Presentable where
  board := fun cell => (same cell).trans (presentable.board cell)
  clock := presentable.clock
  scores := presentable.scores
  cooling := presentable.cooling
  motions := presentable.motions
  jumps := presentable.jumps
  castles := presentable.castles
  whiteHistory := presentable.whiteHistory
  blackHistory := presentable.blackHistory

theorem removePieceFromBoard (presentable : engine.Presentable) (piece : PieceId) :
    (engine.removePieceFromBoard piece).Presentable :=
  presentable.setBoard (engine.board.isInside_takeOff piece)

theorem commitPieceToCell (presentable : engine.Presentable) (piece : PieceId)
    (source destination : Position) :
    (engine.commitPieceToCell piece source destination).Presentable :=
  presentable.setBoard (engine.board.isInside_commit piece source destination)

/-- Nothing depends on the end of the game and on the bus. -/
theorem setBooks (presentable : engine.Presentable) {gameOver : Bool} {whiteScore blackScore : Int}
    {eventBus : Option EventBus} (scores : 0 ≤ whiteScore ∧ 0 ≤ blackScore) :
    ({ engine with
        gameOver := gameOver
        whiteScore := whiteScore
        blackScore := blackScore
        eventBus := eventBus } : GameEngine).Presentable where
  board := presentable.board
  clock := presentable.clock
  scores := scores
  cooling := presentable.cooling
  motions := presentable.motions
  jumps := presentable.jumps
  castles := presentable.castles
  whiteHistory := presentable.whiteHistory
  blackHistory := presentable.blackHistory

theorem publish (presentable : engine.Presentable) (event : GameEvent) :
    (engine.publish event).Presentable :=
  presentable.setBooks presentable.scores

/-- The arbiter may change its motions and jumps, as long as they stay on the board. -/
theorem setRealTime (presentable : engine.Presentable) {realTime : RealTimeArbiter}
    (later : engine.getCurrentTimeMs ≤ realTime.currentTimeMs)
    (motions : ∀ motion ∈ realTime.activeMotions, motion.OnBoard)
    (jumps : ∀ jump ∈ realTime.activeJumps, isBoardPosition jump.cell ∧ 0 ≤ jump.finishTimeMs) :
    ({ engine with realTime := realTime } : GameEngine).Presentable where
  board := presentable.board
  clock := presentable.clock.trans later
  scores := presentable.scores
  cooling := fun piece => (presentable.cooling piece).later later
  motions := motions
  jumps := jumps
  castles := presentable.castles
  whiteHistory := fun entry member => (presentable.whiteHistory entry member).later later
  blackHistory := fun entry member => (presentable.blackHistory entry member).later later

theorem cancelMotion (presentable : engine.Presentable) (piece : PieceId) :
    (engine.cancelMotion piece).Presentable :=
  presentable.setRealTime le_rfl
    (fun motion member => presentable.motions motion (List.mem_of_mem_filter member))
    presentable.jumps

theorem updateMotionCell (presentable : engine.Presentable) (piece : PieceId) {cell : Position}
    (inside : isBoardPosition cell) : (engine.updateMotionCell piece cell).Presentable := by
  refine presentable.setRealTime le_rfl ?_ presentable.jumps
  have motions := presentable.motions
  change ∀ motion ∈ RealTimeArbiter.updateMotionCellIn piece cell engine.realTime.activeMotions,
    motion.OnBoard
  generalize engine.realTime.activeMotions = active at motions ⊢
  induction active with
  | nil => exact motions
  | cons motion rest ih =>
      obtain ⟨first, others⟩ := List.forall_mem_cons.mp motions
      rw [RealTimeArbiter.updateMotionCellIn]
      split
      · exact List.forall_mem_cons.mpr ⟨first.moveOn inside, others⟩
      · exact List.forall_mem_cons.mpr ⟨first, ih others⟩

theorem pushHistory (presentable : engine.Presentable) {entry : MoveHistoryEntry}
    (added : entry.Presentable engine.getCurrentTimeMs) :
    (engine.pushHistory entry).Presentable := by
  unfold GameEngine.pushHistory
  split
  · exact ⟨presentable.board, presentable.clock, presentable.scores, presentable.cooling,
      presentable.motions, presentable.jumps, presentable.castles,
      List.forall_mem_append.mpr ⟨presentable.whiteHistory, List.forall_mem_singleton.mpr added⟩,
      presentable.blackHistory⟩
  · exact ⟨presentable.board, presentable.clock, presentable.scores, presentable.cooling,
      presentable.motions, presentable.jumps, presentable.castles, presentable.whiteHistory,
      List.forall_mem_append.mpr ⟨presentable.blackHistory, List.forall_mem_singleton.mpr added⟩⟩

theorem announce (presentable : engine.Presentable) {entry : MoveHistoryEntry}
    (added : entry.Presentable engine.getCurrentTimeMs) : (engine.announce entry).Presentable :=
  (presentable.pushHistory added).publish _

theorem publishLatestMove (presentable : engine.Presentable) (piece : PieceId)
    (wasCapture : Bool) (kind : PieceKind) (color : PieceColor) :
    (engine.publishLatestMove piece wasCapture kind color).Presentable := by
  simp only [GameEngine.publishLatestMove]
  split
  · exact presentable.publish _
  · exact presentable

theorem addCaptureScore (presentable : engine.Presentable) (attacker : PieceColor)
    (kind : PieceKind) : (engine.addCaptureScore attacker kind).Presentable := by
  have value : 0 ≤ getPieceValue kind := by cases kind <;> decide
  obtain ⟨white, black⟩ := presentable.scores
  simp only [GameEngine.addCaptureScore]
  split
  · exact presentable
  · refine Presentable.publish ?_ _
    split
    · exact presentable.setBooks ⟨Int.add_nonneg white value, black⟩
    · exact presentable.setBooks ⟨white, Int.add_nonneg black value⟩

theorem endGame (presentable : engine.Presentable) (winner : PieceColor) (reason : String) :
    (engine.endGame winner reason).Presentable := by
  rw [GameEngine.endGame]
  split
  · exact presentable
  · exact (presentable.setBooks presentable.scores).publish _

/-! ## Ending a motion -/

/-- The notation of a move between cells of the board is short. -/
theorem isShort_buildMoveNotation (presentable : engine.Presentable) (kind : PieceKind)
    {source destination : Position} (start : isBoardPosition source)
    (finish : isBoardPosition destination) (wasCapture wasPromotion : Bool) :
    IsShort 6 (engine.buildMoveNotation kind source destination wasCapture wasPromotion) := by
  have columns : ∀ col : Int, 0 ≤ col → col ≤ 7 →
      IsShort 1 (String.ofList [Char.ofNat ((('a'.toNat : Int) + col) % 256).toNat]) := by
    intro col low high
    interval_cases col <;> decide
  have rows : ∀ row : Int, 0 ≤ row → row ≤ 7 → IsShort 1 (toString (8 - row)) := by
    intro row low high
    interval_cases row <;> decide
  have letter : IsShort 1 (String.ofList [Piece.kindToChar kind]) := by cases kind <;> decide
  rw [GameEngine.buildMoveNotation, presentable.height]
  change IsShort (1 + 1 + 1 + 1 + 2) _
  refine .append (.append (.append (.append ?_ ?_) (columns _ finish.2.2.1 finish.2.2.2))
    (rows _ finish.1 finish.2.1)) ?_
  · split
    · exact letter
    · split
      · exact columns source.col start.2.2.1 start.2.2.2
      · decide
  · split <;> decide
  · split <;> decide

theorem stopMovingPieceAt (presentable : engine.Presentable) (piece : PieceId)
    {source cell : Position} (start : isBoardPosition source) (inside : isBoardPosition cell)
    {eventTimeMs : Int} (notNegative : 0 ≤ eventTimeMs)
    (passed : eventTimeMs ≤ engine.getCurrentTimeMs) (wasCapture : Bool) (kind : PieceKind)
    (color : PieceColor) :
    (engine.stopMovingPieceAt piece source cell eventTimeMs wasCapture kind color).Presentable := by
  have committed := presentable.commitPieceToCell piece source cell
  have promoted := committed.promotePawnIfNeeded piece cell
  have same : ((engine.commitPieceToCell piece source cell).promotePawnIfNeeded piece
      cell).2.getCurrentTimeMs = engine.getCurrentTimeMs := by
    rw [GameEngine.promotePawnIfNeeded]
    split <;> rfl
  rw [← same] at passed
  have cooled := (promoted.setState piece .idle).startCooldown piece passed
    ((source.distance cell : Int) * 1000)
  have stopped := cooled.cancelMotion piece
  refine Presentable.publishLatestMove (stopped.pushHistory ?_) piece wasCapture kind color
  exact ⟨notNegative, passed, start, inside,
    stopped.isShort_buildMoveNotation _ start inside wasCapture _⟩

theorem finishCastle (presentable : engine.Presentable) {castle : PendingCastle}
    (start : isBoardPosition castle.kingSource) (inside : isBoardPosition castle.kingDestination)
    {completedAt : Int} (notNegative : 0 ≤ completedAt)
    (passed : completedAt ≤ engine.getCurrentTimeMs) :
    (engine.finishCastle castle completedAt).Presentable := by
  have placed : (engine.placeCastle castle completedAt).Presentable := by
    have board : ({ engine with
        board := Table.castleBoard engine.board castle } : GameEngine).Presentable :=
      presentable.setBoard fun cell => by
        simp only [Table.castleBoard, Board.isInside_setPieceAt, Board.isInside_removePiece]
    have idle := (board.setState castle.king .idle).setState castle.rook .idle
    have cooled :=
      (idle.startCooldown castle.king passed 2000).startCooldown castle.rook passed 2000
    exact (cooled.cancelMotion castle.king).cancelMotion castle.rook
  refine placed.announce ⟨notNegative, passed, start, inside, ?_⟩
  dsimp only
  split <;> decide

theorem loseToAirborne (presentable : engine.Presentable) (piece target : PieceId) :
    (engine.loseToAirborne piece target).Presentable := by
  have taken :=
    ((presentable.removePieceFromBoard piece).setState piece .captured).cancelMotion piece
  simp only [GameEngine.loseToAirborne]
  split
  · exact (taken.addCaptureScore _ _).endGame _ _
  · exact taken.addCaptureScore _ _

theorem getCurrentTimeMs_addCaptureScore (engine : GameEngine) (attacker : PieceColor)
    (kind : PieceKind) :
    (engine.addCaptureScore attacker kind).getCurrentTimeMs = engine.getCurrentTimeMs := by
  simp only [GameEngine.addCaptureScore]
  split
  · rfl
  · split <;> rfl

theorem captureTarget (presentable : engine.Presentable) (piece target : PieceId)
    {source : Position} (start : isBoardPosition source) {event : StepEvent}
    (inside : isBoardPosition event.toCell) (notNegative : 0 ≤ event.eventTimeMs)
    (passed : event.eventTimeMs ≤ engine.getCurrentTimeMs) :
    (engine.captureTarget piece target source event).Presentable := by
  have taken := ((presentable.setState target .captured).removePieceFromBoard target).cancelMotion
    target
  have stopped : ∀ color kind victim, ((((((engine.setState target .captured).removePieceFromBoard
      target).cancelMotion target).addCaptureScore color kind).updateMotionCell piece
        event.toCell).stopMovingPieceAt piece source event.toCell event.eventTimeMs true kind
          victim).Presentable := by
    intro color kind victim
    refine Presentable.stopMovingPieceAt ((taken.addCaptureScore color kind).updateMotionCell piece
      inside) piece start inside notNegative ?_ true kind victim
    exact passed.trans (getCurrentTimeMs_addCaptureScore _ color kind).ge
  simp only [GameEngine.captureTarget]
  split
  · exact (stopped _ _ _).endGame _ _
  · exact stopped _ _ _

/-! ## Processing events -/

/-- **A step event keeps the engine presentable.** -/
theorem processStepEvent (presentable : engine.Presentable) {event : StepEvent}
    (fromInside : isBoardPosition event.fromCell) (notNegative : 0 ≤ event.eventTimeMs)
    (passed : event.eventTimeMs ≤ engine.getCurrentTimeMs) :
    (engine.processStepEvent event).Presentable := by
  have start : ∀ motion, engine.Follows event motion → isBoardPosition motion.source :=
    fun motion follows => (presentable.motions motion (List.mem_of_find?_eq_some follows)).source
  have onBoard := presentable.board event.toCell
  have handled := engine.processStepEvent_handled event
  generalize engine.processStepEvent event = next, engine.verdict event = verdict at handled ⊢
  cases handled with
  | ignored => exact presentable
  | castled found =>
      have pending := presentable.castles _ (List.mem_of_find?_eq_some found)
      have finished := presentable.finishCastle pending.1 pending.2 notNegative passed
      exact ⟨finished.board, finished.clock, finished.scores, finished.cooling, finished.motions,
        finished.jumps, fun other member => finished.castles other (List.mem_of_mem_erase member),
        finished.whiteHistory, finished.blackHistory⟩
  | halted follows =>
      exact presentable.stopMovingPieceAt _ (start _ follows) fromInside notNegative passed _ _ _
  | arrived follows inside =>
      have inside := onBoard.mp inside
      have moved := presentable.updateMotionCell event.piece inside
      exact moved.stopMovingPieceAt _ (start _ follows) inside notNegative passed _ _ _
  | slid inside => exact presentable.updateMotionCell event.piece (onBoard.mp inside)
  | lost target => exact presentable.loseToAirborne event.piece target
  | captured target follows inside =>
      exact presentable.captureTarget event.piece target (start _ follows) (onBoard.mp inside)
        notNegative passed

/-- **So does a landing.** -/
theorem processJumpLanding (presentable : engine.Presentable) (load : PieceConfigReader)
    {event : JumpLandingEvent} (inside : isBoardPosition event.cell)
    (notNegative : 0 ≤ event.eventTimeMs) (passed : event.eventTimeMs ≤ engine.getCurrentTimeMs) :
    (engine.processJumpLanding load event).Presentable := by
  simp only [GameEngine.processJumpLanding]
  split
  · exact presentable
  · split
    · exact presentable
    · refine Presentable.announce ((presentable.setState event.piece .idle).startCooldown
        event.piece
        passed _) ⟨notNegative, passed, inside, inside, ?_⟩
      exact (by decide : IsShort 6 "Jump")

/-! ## Starting motions and jumps -/

theorem startMotion (presentable : engine.Presentable) (piece : PieceId)
    {source destination : Position} (start : isBoardPosition source)
    (finish : isBoardPosition destination) (stepDurationMs : Int) (forceDirectMove : Bool) :
    (engine.startMotion piece source destination stepDurationMs forceDirectMove).Presentable := by
  have clock := presentable.clock
  refine (presentable.setState piece .moving).setRealTime le_rfl ?_ presentable.jumps
  refine List.forall_mem_append.mpr ⟨presentable.motions, List.forall_mem_singleton.mpr ?_⟩
  have unit : ∀ value, -1 ≤ RealTimeArbiter.signValue value ∧
    RealTimeArbiter.signValue value ≤ 1 := by
    intro value
    simp only [RealTimeArbiter.signValue]
    split
    · decide
    · split <;> decide
  have rows := unit (destination.row - source.row)
  have columns := unit (destination.col - source.col)
  refine ⟨start, finish, start, ⟨rows.1, rows.2, columns.1, columns.2⟩, Int.add_nonneg clock ?_⟩
  split <;> omega

theorem startMove (presentable : engine.Presentable) (load : PieceConfigReader) (piece : PieceId)
    {source destination : Position} (start : isBoardPosition source)
    (finish : isBoardPosition destination) :
    (engine.startMove load piece source destination).Presentable :=
  (presentable.markAsMoved piece).startMotion piece start finish _ false

theorem startCastle (presentable : engine.Presentable) (load : PieceConfigReader)
    {castle : PendingCastle} (checked : engine.CastleChecked castle) :
    (engine.startCastle load castle).Presentable := by
  have inside : ∀ {cell piece}, engine.board.getPieceAt cell = some piece → isBoardPosition cell :=
    fun found => (presentable.board _).mp (Board.isInside_of_getPieceAt found)
  have kingInside := (presentable.board _).mp checked.kingInside
  have rookInside := (presentable.board _).mp checked.rookInside
  have marked := (presentable.markAsMoved castle.king).markAsMoved castle.rook
  have moving := (marked.startMotion castle.king (inside checked.king) kingInside
    (max 1 ((load (engine.pieces.get castle.king).token "move").moveTimePerCellMs * 2)) true)
    |>.startMotion castle.rook (inside checked.rook) rookInside
      (max 1 ((load (engine.pieces.get castle.king).token "move").moveTimePerCellMs * 2)) true
  exact ⟨moving.board, moving.clock, moving.scores, moving.cooling, moving.motions, moving.jumps,
    List.forall_mem_append.mpr ⟨moving.castles, List.forall_mem_singleton.mpr
      ⟨inside checked.king, kingInside⟩⟩, moving.whiteHistory, moving.blackHistory⟩

theorem startJump (presentable : engine.Presentable) (load : PieceConfigReader) (piece : PieceId)
    {cell : Position} (inside : isBoardPosition cell) :
    (engine.startJump load piece cell).Presentable := by
  refine (presentable.setState piece .airborne).setRealTime le_rfl presentable.motions ?_
  refine List.forall_mem_append.mpr ⟨presentable.jumps, List.forall_mem_singleton.mpr ⟨inside, ?_⟩⟩
  refine Int.add_nonneg presentable.clock ?_
  split <;> omega

/-- **A move request keeps the engine presentable.** -/
theorem requestMove (presentable : engine.Presentable) (load : PieceConfigReader)
    (source destination : Position) :
    (engine.requestMove load source destination).2.Presentable := by
  have inside : ∀ {cell piece}, engine.board.getPieceAt cell = some piece → isBoardPosition cell :=
    fun found => (presentable.board _).mp (Board.isInside_of_getPieceAt found)
  rcases requestMove_cases load engine source destination with
    same | ⟨piece, checked, started⟩ | ⟨castle, _, _, checked, started⟩
  · rw [same]
    exact presentable
  · by_cases finish : engine.board.isInside destination
    · rw [started]
      exact presentable.startMove load piece (inside checked.here)
        ((presentable.board _).mp finish)
    · have refused : (engine.requestMove load source destination).2 = engine := by
        rw [GameEngine.requestMove, checked.ongoing, if_neg Bool.false_ne_true,
          if_pos (.inr finish)]
      rw [refused]
      exact presentable
  · rw [started]
    exact presentable.startCastle load checked

/-- **So does a jump request.** -/
theorem requestJump (presentable : engine.Presentable) (load : PieceConfigReader)
    (cell : Position) : (engine.requestJump load cell).2.Presentable := by
  rcases requestJump_cases load engine cell with same | ⟨piece, checked, started⟩
  · rw [same]
    exact presentable
  · rw [started]
    exact presentable.startJump load piece
      ((presentable.board _).mp (Board.isInside_of_getPieceAt checked.here))

end GameEngine.Presentable

/-! ## Runs -/

/-- An engine and the events of its batch. -/
structure Moment.Presentable (moment : Moment) : Prop where
  engine : moment.engine.Presentable
  steps : ∀ event ∈ moment.steps, isBoardPosition event.fromCell ∧ 0 ≤ event.eventTimeMs ∧
    event.eventTimeMs ≤ moment.engine.getCurrentTimeMs
  landings : ∀ event ∈ moment.landings, isBoardPosition event.cell ∧ 0 ≤ event.eventTimeMs ∧
    event.eventTimeMs ≤ moment.engine.getCurrentTimeMs

namespace Moment.Presentable

/-- Processing the next event keeps a moment presentable. -/
theorem process {moment : Moment} (presentable : moment.Presentable) (load : PieceConfigReader) :
    (moment.process load).Presentable := by
  obtain ⟨engine, steps, landings⟩ := moment
  obtain ⟨showable, stepping, landing⟩ := presentable
  cases steps with
  | cons event steps =>
      obtain ⟨⟨inside, notNegative, passed⟩, others⟩ := List.forall_mem_cons.mp stepping
      have clock := (engine.processStepEvent_clock event).1.ge
      exact ⟨showable.processStepEvent inside notNegative passed,
        fun other member => ⟨(others other member).1, (others other member).2.1,
          (others other member).2.2.trans clock⟩,
        fun other member => ⟨(landing other member).1, (landing other member).2.1,
          (landing other member).2.2.trans clock⟩⟩
  | nil =>
      cases landings with
      | nil => exact ⟨showable, stepping, landing⟩
      | cons event landings =>
          obtain ⟨⟨inside, notNegative, passed⟩, others⟩ := List.forall_mem_cons.mp landing
          have clock := (engine.processJumpLanding_clock load event).1.ge
          exact ⟨showable.processJumpLanding load inside notNegative passed,
            fun _ member => absurd member List.not_mem_nil,
            fun other member => ⟨(others other member).1, (others other member).2.1,
              (others other member).2.2.trans clock⟩⟩

theorem quiet {engine : GameEngine} (presentable : engine.Presentable) :
    (Moment.quiet engine).Presentable :=
  ⟨presentable, fun _ member => absurd member List.not_mem_nil,
    fun _ member => absurd member List.not_mem_nil⟩

/-- The events an advance of the clock emits lie between the start of the game and now. -/
theorem advance {engine : GameEngine} (presentable : engine.Presentable) {ms : Int}
    (elapsed : 0 ≤ ms) : (Moment.advance engine ms).Presentable := by
  simp only [Moment.advance, GameEngine.advanceTime, RealTimeArbiter.advanceTime,
    not_lt.mpr elapsed, if_false]
  refine ⟨presentable.setRealTime (Int.le_add_of_nonneg_right elapsed) ?_ ?_, ?_, ?_⟩
  · exact fun motion member => presentable.motions motion (List.mem_of_mem_filter member)
  · exact fun jump member => presentable.jumps jump (List.mem_of_mem_filter member)
  · intro event member
    obtain ⟨motion, due, rfl⟩ :=
      List.mem_map.mp ((List.perm_insertionSort _ _).mem_iff.mp member)
    obtain ⟨active, isDue⟩ := List.mem_filter.mp due
    have onBoard := presentable.motions motion active
    exact ⟨onBoard.currentCell, onBoard.nextStepTime, (of_decide_eq_true isDue).2⟩
  · intro event member
    obtain ⟨jump, due, rfl⟩ := List.mem_map.mp member
    obtain ⟨active, isDue⟩ := List.mem_filter.mp due
    have onBoard := presentable.jumps jump active
    exact ⟨onBoard.1, onBoard.2, of_decide_eq_true isDue⟩

/-- What happens between two batches keeps a moment presentable. -/
theorem silent {load : PieceConfigReader} {admitted : GameEngine → Call → Prop}
    {first next : Moment} (silent : Moment.Silent load admitted first next)
    (presentable : first.Presentable) : next.Presentable := by
  cases silent with
  | advances advances =>
      cases advances with
      | mk engine elapsed => exact advance presentable.engine elapsed
  | @requests engine call _ request =>
      cases call with
      | requestMove source destination =>
          exact quiet (presentable.engine.requestMove load source destination)
      | requestJump cell => exact quiet (presentable.engine.requestJump load cell)
      | wait ms => exact absurd rfl (request ms)

end Moment.Presentable

namespace GameEngine

/-- A new engine on a board of the standard size whose pieces have no cooldown. -/
theorem new_presentable {layout : Layout} (eventBus : Option EventBus)
    (board : ∀ cell, layout.board.isInside cell ↔ isBoardPosition cell)
    (cooling : ∀ piece, (layout.pieces.get piece).Cooling 0) :
    (new layout eventBus).Presentable where
  board := board
  clock := le_rfl
  scores := ⟨le_rfl, le_rfl⟩
  cooling := cooling
  motions := fun _ member => absurd member List.not_mem_nil
  jumps := fun _ member => absurd member List.not_mem_nil
  castles := fun _ member => absurd member List.not_mem_nil
  whiteHistory := fun _ member => absurd member List.not_mem_nil
  blackHistory := fun _ member => absurd member List.not_mem_nil

/-- **Every run keeps an engine presentable.** -/
theorem run_presentable {engine : GameEngine} (load : PieceConfigReader) (calls : List Call)
    (coherent : (engine.view []).Coherent) (presentable : engine.Presentable) :
    (engine.run load calls).Presentable :=
  (run_rule load (motive := Moment.Presentable) (fun _ => True) (fun _ _ => True)
    (fun _ _ silent running holds =>
      ⟨(silent_captured load silent running 0).1, holds.silent silent⟩)
    (fun _ _ _ holds => holds.process load) coherent (fun _ _ => trivial) (fun _ _ => trivial)
    (.quiet presentable)).engine

end GameEngine

/-! ## Layouts -/

/-- A layout on the standard board whose pieces have no cooldown. -/
structure Layout.Presentable (layout : Layout) : Prop where
  board : ∀ cell, layout.board.isInside cell ↔ isBoardPosition cell
  cooling : ∀ piece, (layout.pieces.get piece).Cooling 0

namespace Layout.Presentable

theorem empty : (Layout.empty 8 8).Presentable where
  board := fun cell => by
    simp only [Layout.empty, Board.empty, Board.isInside, isBoardPosition]
    omega
  cooling := fun _ => ⟨le_rfl, le_rfl, rfl⟩

theorem placeNew {layout : Layout} (presentable : layout.Presentable) (position : Position)
    (color : PieceColor) (kind : PieceKind) :
    (layout.placeNew position color kind).Presentable where
  board := fun cell => by
    refine Iff.trans ?_ (presentable.board cell)
    simp only [Layout.placeNew, Board.placePiece]
    split
    · rfl
    · split
      · rfl
      · exact Board.isInside_setPieceAt _ _ _ _
  cooling := fun piece => by
    simp only [Layout.placeNew, Heap.get_set]
    split
    · exact ⟨le_rfl, le_rfl, rfl⟩
    · exact presentable.cooling piece

theorem placeRank {layout : Layout} (presentable : layout.Presentable) (row : Int)
    (color : PieceColor) (kinds : List PieceKind) :
    (layout.placeRank row color kinds).Presentable :=
  List.foldlRecOn (motive := Layout.Presentable) _ _ presentable
    fun _ built entry _ => built.placeNew _ color entry.1

/-- The standard chess board is presentable. -/
theorem initialBoard : createInitialBoard.Presentable :=
  (((empty.placeRank 0 .black backRank).placeRank 1 .black _).placeRank 6 .white _).placeRank 7
    .white backRank

end Layout.Presentable

end KungFuChess

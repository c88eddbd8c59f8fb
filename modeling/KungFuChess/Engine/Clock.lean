import KungFuChess.Engine.GameEngine

/-!
# Processing does not look at the clock

The clock and the jumps of the arbiter are changed by requests and by advances of
the clock only. Processing an event neither reads nor writes them: it commutes
with replacing both.
-/

set_option autoImplicit false

namespace KungFuChess

namespace GameEngine

/-- The engine with another clock and other jumps. -/
def withClock (engine : GameEngine) (currentTimeMs : Int) (activeJumps : List Jump) : GameEngine :=
  { engine with
    realTime :=
      { engine.realTime with currentTimeMs := currentTimeMs, activeJumps := activeJumps } }

section Commutes

variable (engine : GameEngine) (currentTimeMs : Int) (activeJumps : List Jump)

theorem withClock_pushHistory (entry : MoveHistoryEntry) :
    (engine.withClock currentTimeMs activeJumps).pushHistory entry =
      (engine.pushHistory entry).withClock currentTimeMs activeJumps := by
  simp only [pushHistory]
  split <;> rfl

theorem withClock_announce (entry : MoveHistoryEntry) :
    (engine.withClock currentTimeMs activeJumps).announce entry =
      (engine.announce entry).withClock currentTimeMs activeJumps :=
  congrArg (fun pushed : GameEngine => pushed.publishMoveCompleted entry)
    (withClock_pushHistory engine currentTimeMs activeJumps entry)

theorem withClock_addCaptureScore (attackerColor : PieceColor) (capturedKind : PieceKind) :
    (engine.withClock currentTimeMs activeJumps).addCaptureScore attackerColor capturedKind =
      (engine.addCaptureScore attackerColor capturedKind).withClock currentTimeMs activeJumps := by
  simp only [addCaptureScore]
  split
  · rfl
  · split <;> rfl

theorem withClock_endGame (winner : PieceColor) (reason : String) :
    (engine.withClock currentTimeMs activeJumps).endGame winner reason =
      (engine.endGame winner reason).withClock currentTimeMs activeJumps := by
  cases isOver : engine.gameOver with
  | true =>
      have isOver' : (engine.withClock currentTimeMs activeJumps).gameOver = true := isOver
      simp only [endGame, isOver, isOver', if_true]
  | false =>
      have isOver' : (engine.withClock currentTimeMs activeJumps).gameOver = false := isOver
      simp only [endGame, isOver, isOver', Bool.false_eq_true, if_false]
      rfl

theorem withClock_publishLatestMove (piece : PieceId) (wasCapture : Bool)
    (capturedKind : PieceKind) (capturedColor : PieceColor) :
    (engine.withClock currentTimeMs activeJumps).publishLatestMove piece wasCapture capturedKind
        capturedColor =
      (engine.publishLatestMove piece wasCapture capturedKind capturedColor).withClock currentTimeMs
        activeJumps := by
  have histories : (if (engine.withClock currentTimeMs activeJumps).colorOf piece = .white
        then (engine.withClock currentTimeMs activeJumps).whiteMoveHistory
        else (engine.withClock currentTimeMs activeJumps).blackMoveHistory) =
      if engine.colorOf piece = .white then engine.whiteMoveHistory
        else engine.blackMoveHistory := rfl
  simp only [publishLatestMove, histories]
  split <;> rfl

theorem withClock_recordMove (piece : PieceId) (kind : PieceKind) (source cell : Position)
    (wasCapture promoted wasJump : Bool) (completedAtMs : Int) :
    (engine.withClock currentTimeMs activeJumps).recordMove piece kind source cell wasCapture
        promoted wasJump completedAtMs =
      (engine.recordMove piece kind source cell wasCapture promoted wasJump
        completedAtMs).withClock currentTimeMs activeJumps :=
  withClock_pushHistory engine currentTimeMs activeJumps _

theorem withClock_promotePawnIfNeeded (piece : PieceId) (cell : Position) :
    (engine.withClock currentTimeMs activeJumps).promotePawnIfNeeded piece cell =
      ((engine.promotePawnIfNeeded piece cell).1,
        (engine.promotePawnIfNeeded piece cell).2.withClock currentTimeMs activeJumps) := by
  have same : (engine.withClock currentTimeMs activeJumps).promotes piece cell =
      engine.promotes piece cell := rfl
  simp only [promotePawnIfNeeded, same]
  split <;> rfl

theorem withClock_stopMovingPieceAt (piece : PieceId) (source cell : Position)
    (eventTimeMs : Int) (wasCapture : Bool) (capturedKind : PieceKind)
    (capturedColor : PieceColor) :
    (engine.withClock currentTimeMs activeJumps).stopMovingPieceAt piece source cell eventTimeMs
        wasCapture capturedKind capturedColor =
      (engine.stopMovingPieceAt piece source cell eventTimeMs wasCapture capturedKind
        capturedColor).withClock currentTimeMs activeJumps := by
  have committed : (engine.withClock currentTimeMs activeJumps).commitPieceToCell piece source cell
      = (engine.commitPieceToCell piece source cell).withClock currentTimeMs activeJumps := rfl
  have ended : ∀ stopped : GameEngine,
      (((stopped.withClock currentTimeMs activeJumps).setState piece .idle).modifyPiece piece
        (·.startCooldown eventTimeMs (source.distance cell * 1000))).finishMotion piece =
      (((stopped.setState piece .idle).modifyPiece piece
        (·.startCooldown eventTimeMs (source.distance cell * 1000))).finishMotion piece).withClock
          currentTimeMs activeJumps := fun _ => rfl
  simp only [stopMovingPieceAt, committed, withClock_promotePawnIfNeeded, ended,
    withClock_recordMove, withClock_publishLatestMove]
  rfl

theorem withClock_loseToAirborne (piece target : PieceId) :
    (engine.withClock currentTimeMs activeJumps).loseToAirborne piece target =
      (engine.loseToAirborne piece target).withClock currentTimeMs activeJumps := by
  have captured : (((engine.withClock currentTimeMs activeJumps).removePieceFromBoard
      piece).setState piece .captured).cancelMotion piece =
    (((engine.removePieceFromBoard piece).setState piece .captured).cancelMotion piece).withClock
      currentTimeMs activeJumps := rfl
  have kind : (engine.withClock currentTimeMs activeJumps).kindOf piece = engine.kindOf piece := rfl
  simp only [loseToAirborne, captured, kind, withClock_addCaptureScore]
  split
  · rw [withClock_endGame]
    rfl
  · rfl

theorem withClock_captureTarget (piece target : PieceId) (source : Position) (event : StepEvent) :
    (engine.withClock currentTimeMs activeJumps).captureTarget piece target source event =
      (engine.captureTarget piece target source event).withClock currentTimeMs activeJumps := by
  have kind : (engine.withClock currentTimeMs activeJumps).kindOf target = engine.kindOf target :=
    rfl
  have removed : ((((engine.withClock currentTimeMs activeJumps).setState target
      .captured).removePieceFromBoard target).cancelMotion target) =
    (((engine.setState target .captured).removePieceFromBoard target).cancelMotion
      target).withClock currentTimeMs activeJumps := rfl
  have moved : ∀ removed : GameEngine,
      (removed.withClock currentTimeMs activeJumps).updateMotionCell piece event.toCell =
        (removed.updateMotionCell piece event.toCell).withClock currentTimeMs activeJumps :=
    fun _ => rfl
  have color : ∀ (after : GameEngine) (other : PieceId),
      (after.withClock currentTimeMs activeJumps).colorOf other = after.colorOf other :=
    fun _ _ => rfl
  simp only [captureTarget, removed, kind, color, withClock_addCaptureScore, moved,
    withClock_stopMovingPieceAt]
  split
  · rw [withClock_endGame]
  · rfl

theorem withClock_finishCastle (castle : PendingCastle) (completedAt : Int) :
    (engine.withClock currentTimeMs activeJumps).finishCastle castle completedAt =
      (engine.finishCastle castle completedAt).withClock currentTimeMs activeJumps :=
  withClock_announce (engine.placeCastle castle completedAt) currentTimeMs activeJumps _

/-- **Processing a step event commutes with the clock.** -/
theorem withClock_processStepEvent (event : StepEvent) :
    (engine.withClock currentTimeMs activeJumps).processStepEvent event =
      (engine.processStepEvent event).withClock currentTimeMs activeJumps := by
  have state : ∀ piece, (engine.withClock currentTimeMs activeJumps).stateOf piece =
      engine.stateOf piece := fun _ => rfl
  have color : ∀ piece, (engine.withClock currentTimeMs activeJumps).colorOf piece =
      engine.colorOf piece := fun _ => rfl
  have castle : (engine.withClock currentTimeMs activeJumps).castleOf event =
      engine.castleOf event := rfl
  have search : (engine.withClock currentTimeMs activeJumps).findPieceAtRealOrVirtualCell
      event.toCell event.piece = engine.findPieceAtRealOrVirtualCell event.toCell event.piece := rfl
  have board : (engine.withClock currentTimeMs activeJumps).board = engine.board := rfl
  have motions : (engine.withClock currentTimeMs activeJumps).realTime.activeMotions =
      engine.realTime.activeMotions := rfl
  have moved : (engine.withClock currentTimeMs activeJumps).updateMotionCell event.piece
      event.toCell = (engine.updateMotionCell event.piece event.toCell).withClock currentTimeMs
        activeJumps := rfl
  simp only [processStepEvent, completeCastleFor, state, color, castle, search, board, motions,
    moved]
  split
  · rfl
  · cases engine.castleOf event with
    | some castle =>
        simp only [Option.map_some, withClock_finishCastle]
        rfl
    | none =>
        simp only [Option.map_none]
        cases engine.realTime.activeMotions.find? fun motion => motion.piece = event.piece with
        | none => rfl
        | some motion =>
            simp only
            split
            · exact withClock_stopMovingPieceAt ..
            · cases engine.findPieceAtRealOrVirtualCell event.toCell event.piece with
              | none =>
                  simp only
                  split
                  · exact withClock_stopMovingPieceAt ..
                  · rfl
              | some target =>
                  simp only
                  split
                  · exact withClock_stopMovingPieceAt ..
                  · split
                    · exact withClock_loseToAirborne ..
                    · exact withClock_captureTarget ..

/-- **Processing a landing commutes with the clock.** -/
theorem withClock_processJumpLanding (load : PieceConfigReader) (event : JumpLandingEvent) :
    (engine.withClock currentTimeMs activeJumps).processJumpLanding load event =
      (engine.processJumpLanding load event).withClock currentTimeMs activeJumps := by
  have state : ∀ piece, (engine.withClock currentTimeMs activeJumps).stateOf piece =
      engine.stateOf piece := fun _ => rfl
  have board : (engine.withClock currentTimeMs activeJumps).board = engine.board := rfl
  simp only [processJumpLanding, state, board]
  split
  · rfl
  · split
    · rfl
    · exact withClock_announce ((engine.setState event.piece .idle).modifyPiece event.piece
        (·.startCooldown event.eventTimeMs
          (load ((engine.setState event.piece .idle).pieces.get event.piece).token
            "jump").shortCooldownMs)) currentTimeMs activeJumps _

end Commutes

/-- An engine with its own clock and jumps. -/
@[simp] theorem withClock_self (engine : GameEngine) :
    engine.withClock engine.realTime.currentTimeMs engine.realTime.activeJumps = engine := rfl

theorem processStepEvent_clock (engine : GameEngine) (event : StepEvent) :
    (engine.processStepEvent event).realTime.currentTimeMs = engine.realTime.currentTimeMs ∧
      (engine.processStepEvent event).realTime.activeJumps = engine.realTime.activeJumps := by
  have commutes := withClock_processStepEvent engine engine.realTime.currentTimeMs
    engine.realTime.activeJumps event
  rw [withClock_self] at commutes
  rw [commutes]
  exact ⟨rfl, rfl⟩

theorem processJumpLanding_clock (load : PieceConfigReader) (engine : GameEngine)
    (event : JumpLandingEvent) :
    (engine.processJumpLanding load event).realTime.currentTimeMs =
        engine.realTime.currentTimeMs ∧
      (engine.processJumpLanding load event).realTime.activeJumps =
        engine.realTime.activeJumps := by
  have commutes := withClock_processJumpLanding engine engine.realTime.currentTimeMs
    engine.realTime.activeJumps load event
  rw [withClock_self] at commutes
  rw [commutes]
  exact ⟨rfl, rfl⟩

end GameEngine

end KungFuChess

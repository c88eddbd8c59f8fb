import KungFuChess.Engine.EventStream

/-!
# The move histories

Every moment of a run enters at most one move: a motion that ends where it is put
down, a castle that is completed, a jump that has landed. The histories list what
the moments entered, in order, the moves of each colour in its own history.
-/

set_option autoImplicit false

namespace KungFuChess

namespace GameEngine

/-! ## Entries -/

/-- The entry of a motion that ends on a cell. -/
def stopEntry (engine : GameEngine) (piece : PieceId) (source cell : Position)
    (eventTimeMs : Int) (wasCapture : Bool) : MoveHistoryEntry where
  completedAtMs := eventTimeMs
  color := engine.colorOf piece
  pieceKind := engine.kindOf piece
  source := source
  destination := cell
  wasCapture := wasCapture
  wasPromotion := engine.promotes piece cell
  notationText := engine.buildMoveNotation (engine.kindOf piece) source cell wasCapture
    (engine.promotes piece cell)

/-- The entry of a completed castle. -/
def castleEntry (engine : GameEngine) (castle : PendingCastle) (completedAt : Int) :
    MoveHistoryEntry where
  completedAtMs := completedAt
  color := engine.colorOf castle.king
  pieceKind := .king
  source := castle.kingSource
  destination := castle.kingDestination
  notationText :=
    if castle.kingDestination.col > castle.kingSource.col then "O-O" else "O-O-O"

/-- The entry of a jump that has landed. -/
def landingEntry (engine : GameEngine) (event : JumpLandingEvent) : MoveHistoryEntry where
  completedAtMs := event.eventTimeMs
  color := engine.colorOf event.piece
  pieceKind := engine.kindOf event.piece
  source := event.cell
  destination := event.cell
  wasJump := true
  notationText := "Jump"

/-- What a verdict on a step event enters. -/
def stepEntry (engine : GameEngine) (event : StepEvent) : StepVerdict → Option MoveHistoryEntry
  | .castled castle => some (engine.castleEntry castle event.eventTimeMs)
  | .stopped source cell =>
      some (engine.stopEntry event.piece source cell event.eventTimeMs false)
  | .captured source _ =>
      some (engine.stopEntry event.piece source event.toCell event.eventTimeMs true)
  | .ignored | .slid | .lost _ => none

/-- The entries of one colour. -/
def entriesOf (side : PieceColor) (entry : Option MoveHistoryEntry) : List MoveHistoryEntry :=
  entry.toList.filter fun entry => entry.color = side

theorem mem_entriesOf {side : PieceColor} {entered : Option MoveHistoryEntry}
    {entry : MoveHistoryEntry} :
    entry ∈ entriesOf side entered ↔ entered = some entry ∧ entry.color = side := by
  rw [entriesOf, List.mem_filter, decide_eq_true_eq, Option.mem_toList]

/-! ## What is entered -/

section Entered

variable (engine : GameEngine) (side : PieceColor)

theorem moveHistory_pushHistory (entry : MoveHistoryEntry) :
    (engine.pushHistory entry).moveHistory side =
      engine.moveHistory side ++ entriesOf side (some entry) := by
  rw [Mirrored.moveHistory_pushHistory, entriesOf, Option.toList_some, List.filter_cons,
    List.filter_nil]
  split
  · next own => rw [if_pos (decide_eq_true own)]
  · next other => rw [if_neg (by rw [decide_eq_true_eq]; exact other), List.append_nil]

@[simp] theorem moveHistory_publish (event : GameEvent) :
    (engine.publish event).moveHistory side = engine.moveHistory side := by
  cases side <;> rfl

theorem moveHistory_publishLatestMove (piece : PieceId) (captured : Bool) (kind : PieceKind)
    (color : PieceColor) :
    (engine.publishLatestMove piece captured kind color).moveHistory side =
      engine.moveHistory side := by
  simp only [publishLatestMove]
  split
  · exact moveHistory_publish ..
  · rfl

theorem moveHistory_addCaptureScore (attacker : PieceColor) (kind : PieceKind) :
    (engine.addCaptureScore attacker kind).moveHistory side = engine.moveHistory side := by
  simp only [addCaptureScore]
  split
  · rfl
  · rw [moveHistory_publish]
    split <;> cases side <;> rfl

theorem moveHistory_endGame (winner : PieceColor) (reason : String) :
    (engine.endGame winner reason).moveHistory side = engine.moveHistory side := by
  rw [endGame]
  split
  · rfl
  · exact (moveHistory_publish ..).trans (by cases side <;> rfl)

/-- The notation of a move depends on the height of the board alone. -/
theorem buildMoveNotation_congr {next : GameEngine} (same : next.board.height = engine.board.height)
    (kind : PieceKind) (source cell : Position) (captured promoted : Bool) :
    next.buildMoveNotation kind source cell captured promoted =
      engine.buildMoveNotation kind source cell captured promoted := by
  simp only [buildMoveNotation, same]

/-- A motion that ends enters its move. -/
theorem moveHistory_stopMovingPieceAt (piece : PieceId) (source cell : Position)
    (eventTimeMs : Int) (captured : Bool) (kind : PieceKind) (color : PieceColor) :
    (engine.stopMovingPieceAt piece source cell eventTimeMs captured kind color).moveHistory side =
      engine.moveHistory side ++
        entriesOf side (some (engine.stopEntry piece source cell eventTimeMs captured)) := by
  simp only [stopMovingPieceAt, promotePawnIfNeeded, promotes_commitPieceToCell]
  rw [moveHistory_publishLatestMove, recordMove, moveHistory_pushHistory]
  have height : (engine.board.commit piece source cell).height = engine.board.height :=
    Board.commit_height ..
  cases promoted : engine.promotes piece cell with
  | true =>
      simp only [if_true]
      refine congrArg₂ (· ++ ·) (by cases side <;> rfl)
        (congrArg (fun entry => entriesOf side (some entry)) ?_)
      rw [stopEntry, promoted, MoveHistoryEntry.mk.injEq]
      refine ⟨rfl, ?_, rfl, rfl, rfl, rfl, rfl, rfl, buildMoveNotation_congr _ height ..⟩
      simp only [colorOf, finishMotion, modifyPiece, setState, Heap.get_modify_self]
      rfl
  | false =>
      simp only [Bool.false_eq_true, if_false]
      refine congrArg₂ (· ++ ·) (by cases side <;> rfl)
        (congrArg (fun entry => entriesOf side (some entry)) ?_)
      rw [stopEntry, promoted, MoveHistoryEntry.mk.injEq]
      refine ⟨rfl, ?_, rfl, rfl, rfl, rfl, rfl, rfl, buildMoveNotation_congr _ height ..⟩
      simp only [colorOf, finishMotion, modifyPiece, setState, Heap.get_modify_self]
      rfl

/-- The entry of a motion depends on what the table shows of its piece. -/
theorem stopEntry_congr {next : GameEngine} (piece : PieceId) (source cell : Position)
    (eventTimeMs : Int) (captured : Bool) (height : next.board.height = engine.board.height)
    (color : next.colorOf piece = engine.colorOf piece)
    (kind : next.kindOf piece = engine.kindOf piece) :
    next.stopEntry piece source cell eventTimeMs captured =
      engine.stopEntry piece source cell eventTimeMs captured := by
  have promotes : next.promotes piece cell = engine.promotes piece cell := by
    simp only [GameEngine.promotes, height, color, kind]
  rw [stopEntry, stopEntry, promotes, kind, color, buildMoveNotation_congr engine height]

/-- A completed castle enters its move. -/
theorem moveHistory_finishCastle (castle : PendingCastle) (completedAt : Int) :
    (engine.finishCastle castle completedAt).moveHistory side =
      engine.moveHistory side ++
        entriesOf side (some (engine.castleEntry castle completedAt)) := by
  have color : (engine.placeCastle castle completedAt).colorOf castle.king =
      engine.colorOf castle.king :=
    Table.lasting_finishCastle Piece.lasting_color (engine.view []) castle.king castle completedAt
  simp only [finishCastle, announce, publishMoveCompleted]
  rw [moveHistory_publish, moveHistory_pushHistory, color]
  exact congrArg (· ++ _) (by cases side <;> rfl)

/-- A capture enters its move. -/
theorem moveHistory_captureTarget (piece target : PieceId) (source : Position)
    (event : StepEvent) :
    (engine.captureTarget piece target source event).moveHistory side =
      engine.moveHistory side ++ entriesOf side
        (some (engine.stopEntry piece source event.toCell event.eventTimeMs true)) := by
  have taken : ∀ color kind,
      (((((engine.setState target .captured).removePieceFromBoard target).cancelMotion
        target).addCaptureScore color kind).updateMotionCell piece event.toCell).moveHistory side =
          engine.moveHistory side := fun color kind => by
    refine (?_ : _ = _).trans (moveHistory_addCaptureScore ((((engine.setState target
      .captured).removePieceFromBoard target).cancelMotion target)) side color kind |>.trans ?_)
    · cases side <;> rfl
    · cases side <;> rfl
  have seen : ∀ color kind, (((((engine.setState target .captured).removePieceFromBoard
      target).cancelMotion target).addCaptureScore color kind).updateMotionCell piece
        event.toCell).view [] = ((engine.view []).remove target).slide piece event.toCell :=
    fun color kind => by
      rw [view_updateMotionCell, view_addCaptureScore]
      rfl
  have entry : ∀ color kind, (((((engine.setState target .captured).removePieceFromBoard
      target).cancelMotion target).addCaptureScore color kind).updateMotionCell piece
        event.toCell).stopEntry piece source event.toCell event.eventTimeMs true =
      engine.stopEntry piece source event.toCell event.eventTimeMs true := fun color kind => by
    refine stopEntry_congr engine _ _ _ _ _ ?_ ?_ ?_
    · exact (congrArg (fun table : Table => table.board.height) (seen color kind)).trans
        (Board.takeOff_height engine.board target)
    · exact (congrArg (fun table : Table => table.colorOf piece) (seen color kind)).trans
        (Table.lasting_remove Piece.lasting_color (engine.view []) piece target)
    · exact (congrArg (fun table : Table => table.kindOf piece) (seen color kind)).trans
        (Table.kindOf_remove ..)
  simp only [captureTarget]
  split
  · rw [moveHistory_endGame, moveHistory_stopMovingPieceAt, taken, entry]
  · rw [moveHistory_stopMovingPieceAt, taken, entry]

theorem moveHistory_loseToAirborne (piece target : PieceId) :
    (engine.loseToAirborne piece target).moveHistory side = engine.moveHistory side := by
  simp only [loseToAirborne]
  split
  · rw [moveHistory_endGame, moveHistory_addCaptureScore]
    cases side <;> rfl
  · rw [moveHistory_addCaptureScore]
    cases side <;> rfl

/-- **A step event enters the move of its verdict.** -/
theorem moveHistory_processStepEvent (event : StepEvent) :
    (engine.processStepEvent event).moveHistory side = engine.moveHistory side ++
      entriesOf side (engine.stepEntry event (engine.verdict event)) := by
  have nothing : engine.moveHistory side = engine.moveHistory side ++ entriesOf side none :=
    (List.append_nil _).symm
  have moved : (engine.updateMotionCell event.piece event.toCell).moveHistory side =
      engine.moveHistory side := by cases side <;> rfl
  have handled := engine.processStepEvent_handled event
  generalize engine.processStepEvent event = next, engine.verdict event = verdict at handled ⊢
  cases handled with
  | ignored => exact nothing
  | @castled castle found =>
      refine Eq.trans ?_ (moveHistory_finishCastle engine side castle event.eventTimeMs)
      cases side <;> rfl
  | halted follows => exact moveHistory_stopMovingPieceAt ..
  | arrived follows inside =>
      rw [moveHistory_stopMovingPieceAt, moved]
      rfl
  | slid inside => exact moved.trans nothing
  | lost target => exact (moveHistory_loseToAirborne ..).trans nothing
  | captured target follows inside => exact moveHistory_captureTarget ..

/-- **A landing enters a jump.** -/
theorem moveHistory_processJumpLanding (load : PieceConfigReader) (event : JumpLandingEvent) :
    (engine.processJumpLanding load event).moveHistory side = engine.moveHistory side ++
      entriesOf side (if engine.Lands event then some (engine.landingEntry event) else none) := by
  simp only [processJumpLanding, Lands, ne_eq, ite_not]
  by_cases airborne : engine.stateOf event.piece = .airborne
  · by_cases here : engine.board.getPieceAt event.cell = some event.piece
    · simp only [airborne, here, and_self, if_true]
      rw [announce, publishMoveCompleted, moveHistory_publish, moveHistory_pushHistory]
      refine congrArg₂ (· ++ ·) (by cases side <;> rfl)
        (congrArg (fun entry => entriesOf side (some entry)) ?_)
      rw [landingEntry, MoveHistoryEntry.mk.injEq]
      refine ⟨rfl, ?_, ?_, rfl, rfl, rfl, rfl, rfl, rfl⟩
      · simp only [colorOf, modifyPiece, setState, Heap.get_modify_self]
        rfl
      · simp only [kindOf, modifyPiece, setState, Heap.get_modify_self]
        rfl
    · simp only [airborne, here, and_false, if_true, if_false]
      exact (List.append_nil _).symm
  · simp only [airborne, false_and, if_false]
    exact (List.append_nil _).symm

end Entered

end GameEngine

/-! ## What a run enters -/

/-- The move that processing the next event enters. -/
def Moment.entry : Moment → Option MoveHistoryEntry
  | ⟨engine, event :: _, _⟩ => engine.stepEntry event (engine.verdict event)
  | ⟨engine, [], event :: _⟩ =>
      if engine.Lands event then some (engine.landingEntry event) else none
  | ⟨_, [], []⟩ => none

namespace GameEngine

theorem moveHistory_process (load : PieceConfigReader) (moment : Moment) (side : PieceColor) :
    (moment.process load).engine.moveHistory side =
      moment.engine.moveHistory side ++ entriesOf side moment.entry := by
  obtain ⟨engine, steps, landings⟩ := moment
  cases steps with
  | cons event steps => exact moveHistory_processStepEvent ..
  | nil =>
      cases landings with
      | nil => exact (List.append_nil _).symm
      | cons event landings => exact moveHistory_processJumpLanding ..

/-- Requests and advances of the clock enter nothing. -/
theorem silent_moveHistory {load : PieceConfigReader} {admitted : GameEngine → Call → Prop}
    {first next : Moment} (silent : Moment.Silent load admitted first next)
    (running : first.Running) (side : PieceColor) :
    next.engine.moveHistory side = first.engine.moveHistory side := by
  refine (silent_rule load (motive := fun moment =>
    moment.engine.moveHistory side = first.engine.moveHistory side) ?_ ?_ ?_ ?_ silent running
      rfl).2
  · exact fun _ _ _ _ _ _ same => Eq.trans (by cases side <;> rfl) same
  · exact fun _ _ _ _ _ _ _ _ _ same => Eq.trans (by cases side <;> rfl) same
  · exact fun _ _ _ _ _ same => Eq.trans (by cases side <;> rfl) same
  · intro engine ms elapsed _ same
    simp only [Moment.advance, advanceTime, RealTimeArbiter.advanceTime, not_lt.mpr elapsed,
      if_false]
    exact Eq.trans (by cases side <;> rfl) same

/-- **The histories list what the moments of a run entered.** -/
theorem run_moveHistory (load : PieceConfigReader) {engine : GameEngine}
    (coherent : (engine.view []).Coherent) (calls : List Call) (side : PieceColor) :
    (engine.run load calls).moveHistory side = engine.moveHistory side ++
      (engine.runMoments load calls).flatMap fun moment => entriesOf side moment.entry :=
  (full_journey load coherent calls).log (motive := Moment.Running)
    (fun moment => moment.engine.moveHistory side) (fun moment => entriesOf side moment.entry)
    (fun _ _ silent running =>
      ⟨(silent_captured load silent running 0).1, silent_moveHistory silent running side⟩)
    (fun first next (processes : Moment.Processes load first next) running =>
      ⟨processes.running running, processes ▸ moveHistory_process load first side⟩)
    (Moment.of_landings coherent)

end GameEngine

end KungFuChess

import KungFuChess.Engine.Runs

/-!
# The event stream

An engine with a bus publishes what it does: every entry of a history, every
change of the scores and the end of the game. What was published mirrors the
engine. Each place that writes a history, a score or the end of the game publishes
it too, so every call keeps the mirror.
-/

set_option autoImplicit false

namespace KungFuChess

/-! ## Completed moves -/

/-- What a history entry and its event have in common. -/
structure CompletedMove where
  completedAtMs : Int
  color : PieceColor
  pieceKind : PieceKind
  source : Position
  destination : Position
  wasCapture : Bool
  wasPromotion : Bool
  wasJump : Bool
  deriving DecidableEq, Repr

def MoveHistoryEntry.completed (entry : MoveHistoryEntry) : CompletedMove :=
  ⟨entry.completedAtMs, entry.color, entry.pieceKind, entry.source, entry.destination,
    entry.wasCapture, entry.wasPromotion, entry.wasJump⟩

def GameEvent.completed (event : GameEvent) : CompletedMove :=
  ⟨event.completedAtMs, event.movingPieceColor, event.movingPieceKind, event.source,
    event.destination, event.wasCapture, event.wasPromotion, event.wasJump⟩

/-- The event tells of a completed move of this colour. -/
def GameEvent.IsMoveOf (color : PieceColor) (event : GameEvent) : Prop :=
  event.type = .moveCompleted ∧ event.movingPieceColor = color

instance (color : PieceColor) : DecidablePred (GameEvent.IsMoveOf color) :=
  fun _ => inferInstanceAs (Decidable (_ ∧ _))

namespace EventBus

/-- The completed moves of a colour, in the order they were published. -/
def completedMoves (bus : EventBus) (color : PieceColor) : List CompletedMove :=
  (bus.published.filter fun event => event.IsMoveOf color).map GameEvent.completed

/-- The scores last published; zero when none were. -/
def lastScores (bus : EventBus) : Int × Int :=
  match (bus.published.filter fun event => event.type = .scoreUpdated).getLast? with
  | none => (0, 0)
  | some event => (event.whiteScore, event.blackScore)

/-- How often an end of the game was published. -/
def endCount (bus : EventBus) : Nat :=
  (bus.published.filter fun event => event.type = .gameEnded).length

section Publish

variable (bus : EventBus) {event : GameEvent}

theorem completedMoves_other {color : PieceColor} (other : ¬ event.IsMoveOf color) :
    EventBus.completedMoves ⟨bus.published ++ [event]⟩ color = bus.completedMoves color := by
  simp only [completedMoves, List.filter_append, List.filter_cons, other, decide_false,
    Bool.false_eq_true, if_false, List.filter_nil, List.append_nil]

theorem completedMoves_move {color : PieceColor} (move : event.IsMoveOf color) :
    EventBus.completedMoves ⟨bus.published ++ [event]⟩ color =
      bus.completedMoves color ++ [event.completed] := by
  simp only [completedMoves, List.filter_append, List.filter_cons, move, decide_true, if_true,
    List.filter_nil, List.map_append, List.map_cons, List.map_nil]

theorem lastScores_other (other : event.type ≠ .scoreUpdated) :
    EventBus.lastScores ⟨bus.published ++ [event]⟩ = bus.lastScores := by
  simp only [lastScores, List.filter_append, List.filter_cons, other, decide_false,
    Bool.false_eq_true, if_false, List.filter_nil, List.append_nil]

theorem lastScores_score (score : event.type = .scoreUpdated) :
    EventBus.lastScores ⟨bus.published ++ [event]⟩ = (event.whiteScore, event.blackScore) := by
  simp only [lastScores, List.filter_append, List.filter_cons, score, decide_true, if_true,
    List.filter_nil, List.getLast?_append, List.getLast?_singleton, Option.some_or]

theorem endCount_other (other : event.type ≠ .gameEnded) :
    EventBus.endCount ⟨bus.published ++ [event]⟩ = bus.endCount := by
  simp only [endCount, List.filter_append, List.filter_cons, other, decide_false,
    Bool.false_eq_true, if_false, List.filter_nil, List.append_nil]

theorem endCount_end (finish : event.type = .gameEnded) :
    EventBus.endCount ⟨bus.published ++ [event]⟩ = bus.endCount + 1 := by
  simp only [endCount, List.filter_append, List.filter_cons, finish, decide_true, if_true,
    List.filter_nil, List.length_append, List.length_singleton]

end Publish

end EventBus

namespace GameEngine

/-- The move history of a colour. -/
def moveHistory (engine : GameEngine) : PieceColor → List MoveHistoryEntry
  | .white => engine.whiteMoveHistory
  | .black => engine.blackMoveHistory

/-- What the engine keeps books about: the histories, the scores, the end of the
game and what was published. -/
def books (engine : GameEngine) : Option EventBus × List MoveHistoryEntry × List MoveHistoryEntry ×
    Int × Int × Bool :=
  (engine.eventBus, engine.whiteMoveHistory, engine.blackMoveHistory, engine.whiteScore,
    engine.blackScore, engine.gameOver)

/-- **What was published mirrors the engine.** -/
structure MirroredBy (engine : GameEngine) (bus : EventBus) : Prop where
  attached : engine.eventBus = some bus
  moves : ∀ color, bus.completedMoves color =
    (engine.moveHistory color).map MoveHistoryEntry.completed
  scores : bus.lastScores = (engine.whiteScore, engine.blackScore)
  endings : bus.endCount = if engine.gameOver then 1 else 0

/-- The engine publishes to a bus that mirrors it. -/
def Mirrored (engine : GameEngine) : Prop := ∃ bus, engine.MirroredBy bus

namespace Mirrored

variable {engine : GameEngine}

/-- What leaves the books alone keeps the mirror. -/
theorem keep (mirrored : engine.Mirrored) {next : GameEngine} (same : next.books = engine.books) :
    next.Mirrored := by
  obtain ⟨bus, mirror⟩ := mirrored
  simp only [books, Prod.mk.injEq] at same
  obtain ⟨attached, white, black, whiteScore, blackScore, isOver⟩ := same
  refine ⟨bus, attached.trans mirror.attached, fun color => ?_, ?_, ?_⟩
  · rw [mirror.moves color]
    cases color with
    | white => exact congrArg _ white.symm
    | black => exact congrArg _ black.symm
  · rw [mirror.scores, whiteScore, blackScore]
  · rw [mirror.endings, isOver]

theorem moveHistory_pushHistory (engine : GameEngine) (entry : MoveHistoryEntry)
    (color : PieceColor) : (engine.pushHistory entry).moveHistory color =
      if entry.color = color then engine.moveHistory color ++ [entry]
      else engine.moveHistory color := by
  unfold pushHistory
  cases color <;> cases entry.color <;> rfl

/-- A history entry is written and published. -/
theorem enter (mirrored : engine.Mirrored) (entry : MoveHistoryEntry) (captured : Bool)
    (kind : PieceKind) (color : PieceColor) :
    ((engine.pushHistory entry).publishMoveCompleted entry captured kind color).Mirrored := by
  obtain ⟨bus, mirror⟩ := mirrored
  have kept : (engine.pushHistory entry).eventBus = engine.eventBus ∧
      (engine.pushHistory entry).whiteScore = engine.whiteScore ∧
      (engine.pushHistory entry).blackScore = engine.blackScore ∧
      (engine.pushHistory entry).gameOver = engine.gameOver := by
    unfold pushHistory
    split <;> exact ⟨rfl, rfl, rfl, rfl⟩
  obtain ⟨attached, white, black, isOver⟩ := kept
  refine ⟨_, by rw [publishMoveCompleted, publish, attached, mirror.attached]; rfl, ?_, ?_, ?_⟩
  · intro side
    refine Eq.trans ?_ (congrArg (List.map MoveHistoryEntry.completed)
      (moveHistory_pushHistory engine entry side).symm)
    split
    · next own =>
        rw [bus.completedMoves_move ⟨rfl, own⟩, mirror.moves side, List.map_append]
        rfl
    · next other =>
        rw [bus.completedMoves_other fun move => other move.2, mirror.moves side]
  · rw [bus.lastScores_other GameEventType.noConfusion, mirror.scores]
    exact (Prod.ext white black).symm
  · rw [bus.endCount_other GameEventType.noConfusion, mirror.endings]
    exact if_congr (by rw [← isOver]; rfl) rfl rfl

theorem addCaptureScore (mirrored : engine.Mirrored) (attacker : PieceColor) (kind : PieceKind) :
    (engine.addCaptureScore attacker kind).Mirrored := by
  obtain ⟨bus, mirror⟩ := mirrored
  simp only [GameEngine.addCaptureScore]
  split
  · exact ⟨bus, mirror⟩
  · cases attacker with
    | white =>
        refine ⟨_, by rw [if_pos rfl, publish, mirror.attached]; rfl, ?_, ?_, ?_⟩
        · intro side
          rw [bus.completedMoves_other fun move => GameEventType.noConfusion move.1]
          exact mirror.moves side
        · exact bus.lastScores_score rfl
        · rw [bus.endCount_other GameEventType.noConfusion]
          exact mirror.endings
    | black =>
        refine ⟨_, by rw [if_neg PieceColor.noConfusion, publish, mirror.attached]; rfl, ?_, ?_, ?_⟩
        · intro side
          rw [bus.completedMoves_other fun move => GameEventType.noConfusion move.1]
          exact mirror.moves side
        · exact bus.lastScores_score rfl
        · rw [bus.endCount_other GameEventType.noConfusion]
          exact mirror.endings

theorem endGame (mirrored : engine.Mirrored) (winner : PieceColor) (reason : String) :
    (engine.endGame winner reason).Mirrored := by
  obtain ⟨bus, mirror⟩ := mirrored
  rw [GameEngine.endGame]
  split
  · exact ⟨bus, mirror⟩
  · next ongoing =>
      refine ⟨_, by rw [publish, mirror.attached]; rfl, ?_, ?_, ?_⟩
      · intro side
        rw [bus.completedMoves_other fun move => GameEventType.noConfusion move.1]
        exact mirror.moves side
      · rw [bus.lastScores_other GameEventType.noConfusion]
        exact mirror.scores
      · rw [bus.endCount_end rfl, mirror.endings, if_neg ongoing]
        rfl

/-- The latest move that is published is the entry just written. -/
theorem publishLatestMove_pushHistory (engine : GameEngine) (entry : MoveHistoryEntry)
    {piece : PieceId} (own : engine.colorOf piece = entry.color) (captured : Bool)
    (kind : PieceKind) (color : PieceColor) :
    (engine.pushHistory entry).publishLatestMove piece captured kind color =
      (engine.pushHistory entry).publishMoveCompleted entry captured kind color := by
  have same : (engine.pushHistory entry).colorOf piece = entry.color := by
    unfold pushHistory
    split <;> exact own
  have latest : (if (engine.pushHistory entry).colorOf piece = .white then
      (engine.pushHistory entry).whiteMoveHistory
      else (engine.pushHistory entry).blackMoveHistory).getLast? = some entry := by
    rw [same]
    unfold pushHistory
    split
    · next white => exact List.getLast?_concat
    · next black => exact List.getLast?_concat
  simp only [publishLatestMove, latest]

/-- A motion that ends is recorded and published. -/
theorem stopMovingPieceAt (mirrored : engine.Mirrored) (piece : PieceId)
    (source cell : Position) (eventTimeMs : Int) (captured : Bool) (kind : PieceKind)
    (color : PieceColor) :
    (engine.stopMovingPieceAt piece source cell eventTimeMs captured kind color).Mirrored := by
  simp only [GameEngine.stopMovingPieceAt, recordMove]
  rw [publishLatestMove_pushHistory]
  · refine enter ?_ _ captured kind color
    simp only [promotePawnIfNeeded]
    split
    · exact mirrored.keep rfl
    · exact mirrored.keep rfl
  · rfl

theorem finishCastle (mirrored : engine.Mirrored) (castle : PendingCastle) (completedAt : Int) :
    (engine.finishCastle castle completedAt).Mirrored :=
  have placed : (engine.placeCastle castle completedAt).Mirrored := mirrored.keep rfl
  placed.enter _ _ _ _

theorem loseToAirborne (mirrored : engine.Mirrored) (piece target : PieceId) :
    (engine.loseToAirborne piece target).Mirrored := by
  have taken : (((engine.removePieceFromBoard piece).setState piece .captured).cancelMotion
      piece).Mirrored := mirrored.keep rfl
  simp only [GameEngine.loseToAirborne]
  split
  · exact (taken.addCaptureScore _ _).endGame _ _
  · exact taken.addCaptureScore _ _

theorem captureTarget (mirrored : engine.Mirrored) (piece target : PieceId) (source : Position)
    (event : StepEvent) : (engine.captureTarget piece target source event).Mirrored := by
  have taken : (((engine.setState target .captured).removePieceFromBoard target).cancelMotion
      target).Mirrored := mirrored.keep rfl
  have scored : ∀ color kind, ((((((engine.setState target .captured).removePieceFromBoard
      target).cancelMotion target).addCaptureScore color kind).updateMotionCell piece
        event.toCell)).Mirrored := fun color kind =>
    (taken.addCaptureScore color kind).keep rfl
  simp only [GameEngine.captureTarget]
  split
  · exact ((scored _ _).stopMovingPieceAt _ _ _ _ _ _ _).endGame _ _
  · exact (scored _ _).stopMovingPieceAt _ _ _ _ _ _ _

/-- **Every step event keeps the mirror.** -/
theorem processStepEvent (mirrored : engine.Mirrored) (event : StepEvent) :
    (engine.processStepEvent event).Mirrored := by
  simp only [GameEngine.processStepEvent, completeCastleFor]
  split
  · exact mirrored
  · cases engine.castleOf event with
    | some castle => exact (mirrored.finishCastle castle event.eventTimeMs).keep rfl
    | none =>
        simp only [Option.map_none]
        split
        · exact mirrored
        · next motion _ =>
            split
            · exact mirrored.stopMovingPieceAt _ _ _ _ _ _ _
            · split
              · have moved : (engine.updateMotionCell event.piece event.toCell).Mirrored :=
                  mirrored.keep rfl
                split
                · exact moved.stopMovingPieceAt _ _ _ _ _ _ _
                · exact moved
              · next target _ =>
                  split
                  · exact mirrored.stopMovingPieceAt _ _ _ _ _ _ _
                  · split
                    · exact mirrored.loseToAirborne event.piece target
                    · exact mirrored.captureTarget event.piece target motion.source event

/-- **So does every landing.** -/
theorem processJumpLanding (mirrored : engine.Mirrored) (load : PieceConfigReader)
    (event : JumpLandingEvent) : (engine.processJumpLanding load event).Mirrored := by
  simp only [GameEngine.processJumpLanding]
  split
  · exact mirrored
  · split
    · exact mirrored
    · refine enter ?_ _ _ _ _
      exact mirrored.keep rfl

/-- Processing the next event of a moment keeps the mirror. -/
theorem process {moment : Moment} (mirrored : moment.engine.Mirrored) (load : PieceConfigReader) :
    (moment.process load).engine.Mirrored := by
  obtain ⟨engine, steps, landings⟩ := moment
  cases steps with
  | cons event steps => exact mirrored.processStepEvent event
  | nil =>
      cases landings with
      | nil => exact mirrored
      | cons event landings => exact mirrored.processJumpLanding load event

end Mirrored

theorem new_mirrored (layout : Layout) : (new layout (some {})).Mirrored :=
  ⟨{}, rfl, fun color => by cases color <;> rfl, rfl, rfl⟩

/-- **The event stream mirrors the engine** after every run: the completed moves that
were published are the entries of the histories, in order; the scores last published
are the scores; and the end of the game was published once if the game is over, and
otherwise not at all. -/
theorem run_mirrored (load : PieceConfigReader) (layout : Layout) (calls : List Call) :
    ∃ bus, ((new layout (some {})).run load calls).eventBus = some bus ∧
      (∀ color, bus.completedMoves color =
        (((new layout (some {})).run load calls).moveHistory color).map
          MoveHistoryEntry.completed) ∧
      bus.lastScores = (((new layout (some {})).run load calls).whiteScore,
        ((new layout (some {})).run load calls).blackScore) ∧
      bus.endCount = if ((new layout (some {})).run load calls).gameOver then 1 else 0 := by
  have mirrored : ((new layout (some {})).run load calls).Mirrored := by
    refine run_rule load (motive := fun moment => moment.engine.Mirrored) (fun _ => True)
      (fun _ _ => True)
      (fun _ _ => silent_rule load (motive := fun moment => moment.engine.Mirrored) ?_ ?_ ?_ ?_)
      (fun _ _ _ mirrored => mirrored.process load) (new_coherent layout _) (fun _ _ => trivial)
      (fun _ _ => trivial) (new_mirrored layout)
    · exact fun _ _ _ _ _ _ mirrored => mirrored.keep rfl
    · exact fun _ _ _ _ _ _ _ _ _ mirrored => mirrored.keep rfl
    · exact fun _ _ _ _ _ mirrored => mirrored.keep rfl
    · intro engine ms elapsed _ mirrored
      simp only [Moment.advance, advanceTime, RealTimeArbiter.advanceTime, not_lt.mpr elapsed,
        if_false]
      exact mirrored.keep rfl
  obtain ⟨bus, mirror⟩ := mirrored
  exact ⟨bus, mirror.attached, mirror.moves, mirror.scores, mirror.endings⟩

end GameEngine

end KungFuChess

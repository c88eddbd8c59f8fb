import Mathlib.Algebra.BigOperators.Group.Finset.Piecewise
import KungFuChess.Engine.Castling
import KungFuChess.Engine.Ending
import KungFuChess.Engine.Placement

/-!
# Scores and captured pieces

Without castling, a captured piece stays captured and keeps its kind, every
capture is counted once, and the first king that is captured decides the game. So
the scores and the end of the game can be read off the captured pieces.
-/

set_option autoImplicit false

namespace KungFuChess

namespace GameEngine

/-- The score of a colour. -/
def scoreOf (engine : GameEngine) : PieceColor → Int
  | .white => engine.whiteScore
  | .black => engine.blackScore

section Scores

variable (engine : GameEngine) (color : PieceColor)

/-! ## What a step event scores -/

theorem scoreOf_addCaptureScore (attacker : PieceColor) (kind : PieceKind) :
    (engine.addCaptureScore attacker kind).scoreOf color =
      engine.scoreOf color + if attacker = color then getPieceValue kind else 0 := by
  simp only [addCaptureScore]
  split
  · next worthless => rw [worthless, ite_self, Int.add_zero]
  · cases attacker <;> cases color <;>
      simp only [reduceCtorEq, if_true, if_false, scoreOf, publish, Int.add_zero]

theorem scoreOf_pushHistory (entry : MoveHistoryEntry) :
    (engine.pushHistory entry).scoreOf color = engine.scoreOf color := by
  unfold pushHistory
  split <;> cases color <;> rfl

theorem scoreOf_publishMoveCompleted (entry : MoveHistoryEntry) (captured : Bool)
    (kind : PieceKind) (side : PieceColor) :
    (engine.publishMoveCompleted entry captured kind side).scoreOf color =
      engine.scoreOf color := by
  cases color <;> rfl

theorem scoreOf_stopMovingPieceAt (piece : PieceId) (source cell : Position) (eventTimeMs : Int)
    (wasCapture : Bool) (capturedKind : PieceKind) (capturedColor : PieceColor) :
    (engine.stopMovingPieceAt piece source cell eventTimeMs wasCapture capturedKind
      capturedColor).scoreOf color = engine.scoreOf color := by
  simp only [stopMovingPieceAt, publishLatestMove, recordMove]
  split
  · rw [scoreOf_publishMoveCompleted, scoreOf_pushHistory]
    simp only [promotePawnIfNeeded]
    split <;> cases color <;> rfl
  · rw [scoreOf_pushHistory]
    simp only [promotePawnIfNeeded]
    split <;> cases color <;> rfl

theorem scoreOf_endGame (winner : PieceColor) (reason : String) :
    (engine.endGame winner reason).scoreOf color = engine.scoreOf color := by
  rw [endGame]
  split
  · rfl
  · cases color <;> rfl

theorem scoreOf_announce (entry : MoveHistoryEntry) :
    (engine.announce entry).scoreOf color = engine.scoreOf color :=
  (scoreOf_publishMoveCompleted _ color entry _ _ _).trans (scoreOf_pushHistory engine color entry)

theorem scoreOf_finishCastle (castle : PendingCastle) (completedAt : Int) :
    (engine.finishCastle castle completedAt).scoreOf color = engine.scoreOf color :=
  (scoreOf_announce _ color _).trans (by cases color <;> rfl)

/-- What a verdict adds to the score of a colour. -/
def gain (event : StepEvent) (verdict : StepVerdict) : Int :=
  match verdict.fallen event with
  | none => 0
  | some piece =>
      if engine.colorOf (verdict.victor event) = color then getPieceValue (engine.kindOf piece)
      else 0

theorem scoreOf_loseToAirborne (event : StepEvent) (target : PieceId) :
    (engine.loseToAirborne event.piece target).scoreOf color =
      engine.scoreOf color + engine.gain color event (.lost target) := by
  have side :
      (((engine.removePieceFromBoard event.piece).setState event.piece .captured).cancelMotion
      event.piece).colorOf target = engine.colorOf target :=
    Table.lasting_remove Piece.lasting_color (engine.view []) target event.piece
  have scored : ∀ next : GameEngine, next.scoreOf color = (((((engine.removePieceFromBoard
      event.piece).setState event.piece .captured).cancelMotion event.piece).addCaptureScore
        (engine.colorOf target) (engine.kindOf event.piece))).scoreOf color →
      next.scoreOf color = engine.scoreOf color + engine.gain color event (.lost target) := by
    intro next same
    rw [same, scoreOf_addCaptureScore]
    exact congrArg (· + _) (by cases color <;> rfl)
  simp only [loseToAirborne, side]
  split
  · exact scored _ (scoreOf_endGame _ _ _ _)
  · exact scored _ rfl

theorem scoreOf_captureTarget (event : StepEvent) (source : Position) (target : PieceId) :
    (engine.captureTarget event.piece target source event).scoreOf color =
      engine.scoreOf color + engine.gain color event (.captured source target) := by
  have side : (((engine.setState target .captured).removePieceFromBoard target).cancelMotion
      target).colorOf event.piece = engine.colorOf event.piece :=
    Table.lasting_remove Piece.lasting_color (engine.view []) event.piece target
  have scored : ∀ next : GameEngine, next.scoreOf color = ((((engine.setState target
      .captured).removePieceFromBoard target).cancelMotion target).addCaptureScore
        (engine.colorOf event.piece) (engine.kindOf target)).scoreOf color →
      next.scoreOf color = engine.scoreOf color + engine.gain color event
        (.captured source target) := by
    intro next same
    rw [same, scoreOf_addCaptureScore]
    exact congrArg (· + _) (by cases color <;> rfl)
  simp only [captureTarget, side]
  split
  · refine scored _ ((scoreOf_endGame _ _ _ _).trans ?_)
    refine (scoreOf_stopMovingPieceAt _ _ _ _ _ _ _ _ _).trans ?_
    cases color <;> rfl
  · refine scored _ ((scoreOf_stopMovingPieceAt _ _ _ _ _ _ _ _ _).trans ?_)
    cases color <;> rfl

/-- **A step event scores the piece that falls, for the piece that captures it.** -/
theorem scoreOf_processStepEvent (event : StepEvent) :
    (engine.processStepEvent event).scoreOf color =
      engine.scoreOf color + engine.gain color event (engine.verdict event) := by
  have nothing : ∀ verdict : StepVerdict, verdict.fallen event = none →
      ∀ next : GameEngine, next.scoreOf color = engine.scoreOf color →
      next.scoreOf color = engine.scoreOf color + engine.gain color event verdict := by
    intro verdict unharmed next same
    rw [same, gain, unharmed]
    exact (Int.add_zero _).symm
  have moved : (engine.updateMotionCell event.piece event.toCell).scoreOf color =
      engine.scoreOf color := by cases color <;> rfl
  have handled := engine.processStepEvent_handled event
  generalize engine.processStepEvent event = next, engine.verdict event = verdict at handled ⊢
  cases handled with
  | ignored => exact nothing _ rfl _ rfl
  | @castled castle found =>
      refine nothing _ rfl _ ?_
      refine Eq.trans ?_ (engine.scoreOf_finishCastle color castle event.eventTimeMs)
      cases color <;> rfl
  | halted follows => exact nothing _ rfl _ (scoreOf_stopMovingPieceAt ..)
  | arrived follows inside =>
      exact nothing _ rfl _ ((scoreOf_stopMovingPieceAt ..).trans moved)
  | slid inside => exact nothing _ rfl _ moved
  | lost target => exact engine.scoreOf_loseToAirborne color event target
  | @captured motion target follows inside =>
      exact engine.scoreOf_captureTarget color event motion.source target

theorem scoreOf_processJumpLanding (load : PieceConfigReader) (event : JumpLandingEvent) :
    (engine.processJumpLanding load event).scoreOf color = engine.scoreOf color := by
  simp only [processJumpLanding]
  split
  · rfl
  · split
    · rfl
    · refine (scoreOf_announce _ color _).trans ?_
      cases color <;> rfl

end Scores

end GameEngine

/-! ## The captured pieces -/

namespace Table

/-- What the captured pieces of a colour are worth; `made` bounds the pieces. -/
def capturedValue (table : Table) (made : Nat) (color : PieceColor) : Int :=
  ∑ piece ∈ Finset.range made,
    if table.stateOf piece = .captured ∧ table.colorOf piece = color then
      GameEngine.getPieceValue (table.kindOf piece)
    else 0

variable {table : Table} {event : StepEvent} {verdict : StepVerdict}

/-- What a verdict adds to the worth of the captured pieces of a colour. -/
def loss (table : Table) (event : StepEvent) (verdict : StepVerdict) (color : PieceColor) : Int :=
  match verdict.fallen event with
  | none => 0
  | some piece =>
      if table.colorOf piece = color then GameEngine.getPieceValue (table.kindOf piece) else 0

/-- A piece that falls was alive. -/
theorem Judged.alive_of_fallen (judged : table.Judged event verdict) (coherent : table.Coherent)
    {piece : PieceId} (falls : verdict.fallen event = some piece) :
    table.stateOf piece ≠ .captured := by
  cases judged with
  | lost stepping inside other met enemy airborne =>
      cases falls
      rw [stepping.piece, coherent.stateOf_motion stepping.member]
      exact PieceState.noConfusion
  | captured stepping inside other met enemy grounded =>
      cases falls
      rcases met with ⟨motion, member, rfl, _⟩ | ⟨_, here⟩
      · rw [coherent.stateOf_motion member]
        exact PieceState.noConfusion
      · exact fun captured => coherent.offBoard _ captured _ here
  | _ => cases falls

/-- Without castles a verdict captures the piece that falls, and frees none. -/
theorem Judged.captured_apply (judged : table.Judged event verdict) (coherent : table.Coherent)
    (free : table.castles = []) (piece : PieceId) :
    (table.apply event verdict).stateOf piece = .captured ↔
      table.stateOf piece = .captured ∨ verdict.fallen event = some piece := by
  have uncastled : ∀ castle, verdict = .castled castle → piece ∉ castle.parts.map Prod.fst := by
    rintro castle rfl
    cases judged with
    | castled _ pending _ =>
        rw [free] at pending
        exact absurd pending List.not_mem_nil
  by_cases touched : piece ∈ verdict.touched event
  · rw [judged.captured_iff touched]
    refine ⟨.inr, fun either => either.elim (fun captured => ?_) id⟩
    exact (judged.captured_iff touched).mp (judged.captured_stays coherent captured uncastled)
  · rw [(judged.frame coherent touched).1]
    exact (or_iff_left fun falls => touched (StepVerdict.touched_of_fallen falls)).symm

/-- A captured piece has the kind it had. -/
theorem Judged.kind_apply (judged : table.Judged event verdict) {piece : PieceId}
    (captured : (table.apply event verdict).stateOf piece = .captured) :
    (table.apply event verdict).kindOf piece = table.kindOf piece := by
  have stopped : ∀ before : Table, ∀ source cell, piece ≠ event.piece →
      (before.stop event.piece source cell event.eventTimeMs).kindOf piece = before.kindOf piece :=
    fun before source cell other => congrArg Piece.kind (Heap.get_modify_of_ne _ _ other)
  have other : ∀ before : Table, ∀ source cell,
      (before.stop event.piece source cell event.eventTimeMs).stateOf piece = .captured →
      piece ≠ event.piece := by
    rintro before source cell falls rfl
    rw [stateOf_stop, if_pos rfl] at falls
    cases falls
  cases judged with
  | ignored _ => rfl
  | slid _ _ _ _ => rfl
  | castled _ _ _ =>
      exact kindOf_finishCastle ..
  | arrived _ _ _ _ => exact stopped _ _ _ (other _ _ _ captured)
  | halted _ _ => exact stopped _ _ _ (other _ _ _ captured)
  | lost _ _ _ _ _ _ => exact kindOf_remove ..
  | captured _ _ _ _ _ _ =>
      exact (stopped _ _ _ (other _ _ _ captured)).trans (kindOf_remove ..)

/-- **A verdict adds the piece that falls to the captured pieces.** -/
theorem Judged.capturedValue_apply (judged : table.Judged event verdict)
    (coherent : table.Coherent) (free : table.castles = []) {made : Nat}
    (bounded : ∀ piece, verdict.fallen event = some piece → piece < made) (color : PieceColor) :
    (table.apply event verdict).capturedValue made color =
      table.capturedValue made color + table.loss event verdict color := by
  have pointwise : ∀ piece,
      (if (table.apply event verdict).stateOf piece = .captured ∧
          (table.apply event verdict).colorOf piece = color then
        GameEngine.getPieceValue ((table.apply event verdict).kindOf piece) else 0) =
      (if table.stateOf piece = .captured ∧ table.colorOf piece = color then
        GameEngine.getPieceValue (table.kindOf piece) else 0) +
      if verdict.fallen event = some piece then table.loss event verdict color else 0 := by
    intro piece
    have side : (table.apply event verdict).colorOf piece = table.colorOf piece :=
      lasting_apply Piece.lasting_color table piece event verdict
    simp only [side, judged.captured_apply coherent free piece]
    by_cases falls : verdict.fallen event = some piece
    · have kind := judged.kind_apply ((judged.captured_apply coherent free piece).mpr (.inr falls))
      have alive := judged.alive_of_fallen coherent falls
      simp only [falls, alive, or_true, true_and, false_and, if_true, if_false, kind,
        loss, Int.zero_add]
    · by_cases captured : table.stateOf piece = .captured
      · have kind := judged.kind_apply
          ((judged.captured_apply coherent free piece).mpr (.inl captured))
        simp only [falls, captured, true_or, true_and, if_false, kind, Int.add_zero]
      · simp only [falls, captured, or_self, false_and, if_false, Int.add_zero]
  simp only [capturedValue, pointwise, Finset.sum_add_distrib]
  congr 1
  cases falls : verdict.fallen event with
  | none => simp only [reduceCtorEq, if_false, Finset.sum_const_zero, loss, falls]
  | some piece =>
      simp only [Option.some.injEq, Finset.sum_ite_eq, Finset.mem_range, bounded piece falls,
        if_true]

end Table

namespace GameEngine

/-- What a verdict scores is what the captured pieces gain in worth. -/
theorem gain_eq_loss {engine : GameEngine} {landings : List JumpLandingEvent} {event : StepEvent}
    {verdict : StepVerdict} (judged : (engine.view landings).Judged event verdict)
    (color : PieceColor) :
    engine.gain color event verdict =
      (engine.view landings).loss event verdict color.opposite := by
  simp only [gain, Table.loss]
  cases falls : verdict.fallen event with
  | none => rfl
  | some piece =>
      have victor : engine.colorOf (verdict.victor event) = (engine.colorOf piece).opposite :=
        judged.victor_color falls
      have sides : engine.colorOf (verdict.victor event) = color ↔
          engine.colorOf piece = color.opposite := by
        rw [victor]
        cases color <;> cases engine.colorOf piece <;> decide
      exact if_congr sides rfl rfl

end GameEngine

/-! ## The account -/

/-- What is accounted for in a moment of a game without castles. -/
structure Moment.Accounted (layout : Layout) (moment : Moment) : Prop where
  cast : moment.table.Cast layout
  free : moment.table.castles = []
  scores : ∀ color, moment.engine.scoreOf color =
    moment.table.capturedValue layout.nextPieceId color.opposite
  isOver : moment.engine.gameOver = true ↔
    ∃ piece, moment.table.kindOf piece = .king ∧ moment.table.stateOf piece = .captured
  attached : moment.engine.ledger.attached = true
  ongoing : moment.engine.gameOver = false → moment.engine.endings = []

namespace Moment

variable {layout : Layout} {moment : Moment}

/-- A piece that falls is a piece of the layout. -/
theorem Accounted.bounded (accounted : moment.Accounted layout) (running : moment.Running)
    {event : StepEvent} {verdict : StepVerdict} (judged : moment.table.Judged event verdict) :
    ∀ piece, verdict.fallen event = some piece → piece < layout.nextPieceId := by
  intro piece falls
  by_contra unbounded
  have absent : ¬ layout.Holds piece := fun ⟨_, here⟩ => unbounded (layout.made here)
  obtain ⟨idle, nowhere⟩ := accounted.cast.foreign piece absent
  rcases judged.touched_present running.coherent (StepVerdict.touched_of_fallen falls) with
    busy | ⟨cell, here⟩
  · exact busy idle
  · exact nowhere cell here

/-- A moment that differs in no captured piece, score or ledger is accounted for. -/
theorem Accounted.same (accounted : moment.Accounted layout) {next : Moment}
    (cast : next.table.Cast layout) (castles : next.table.castles = moment.table.castles)
    (scores : ∀ color, next.engine.scoreOf color = moment.engine.scoreOf color)
    (ledger : next.engine.ledger = moment.engine.ledger)
    (captured : ∀ piece, next.table.stateOf piece = .captured ↔
      moment.table.stateOf piece = .captured)
    (kinds : ∀ piece, next.table.kindOf piece = moment.table.kindOf piece) :
    next.Accounted layout where
  cast := cast
  free := castles.trans accounted.free
  scores := fun color => by
    rw [scores, accounted.scores color]
    refine Finset.sum_congr rfl fun piece _ => ?_
    rw [kinds, accounted.cast.colors, cast.colors]
    exact if_congr (and_congr_left' (captured piece).symm) rfl rfl
  isOver := by
    have isOver : next.engine.gameOver = moment.engine.gameOver := congrArg Ledger.gameOver ledger
    rw [isOver, accounted.isOver]
    exact exists_congr fun piece => by rw [kinds, captured piece]
  attached := (congrArg Ledger.attached ledger).trans accounted.attached
  ongoing := fun ongoing => by
    have isOver : next.engine.gameOver = moment.engine.gameOver := congrArg Ledger.gameOver ledger
    have endings : next.engine.endings = moment.engine.endings := congrArg Ledger.endings ledger
    rw [endings]
    exact accounted.ongoing (isOver.symm.trans ongoing)

/-- **Processing an event keeps the account.** -/
theorem Accounted.process (accounted : moment.Accounted layout) (running : moment.Running)
    (load : PieceConfigReader) : (moment.process load).Accounted layout := by
  have cast := cast_process running accounted.cast load
  obtain ⟨engine, steps, landings⟩ := moment
  cases steps with
  | nil =>
      cases landings with
      | nil => exact accounted
      | cons event landings =>
          have processed := running.processed load
          refine accounted.same cast ?_
            (fun color => engine.scoreOf_processJumpLanding color load event)
            (engine.ledger_processJumpLanding load event) ?_ ?_
          all_goals
            generalize (Moment.process load ⟨engine, [], event :: landings⟩).table = next
              at processed ⊢
          · cases processed with
            | stepped following _ => cases following
            | landed _ _ _ _ _ => rfl
            | dropped _ _ => rfl
            | unchanged => rfl
          · intro piece
            cases processed with
            | stepped following _ => cases following
            | landed member airborne here eventTimeMs shortCooldownMs =>
                rw [Table.stateOf_land]
                split
                · next own =>
                    rw [own, airborne]
                    simp only [reduceCtorEq]
                · rfl
            | dropped _ _ => rfl
            | unchanged => rfl
          · intro piece
            cases processed with
            | stepped following _ => cases following
            | landed member airborne here eventTimeMs shortCooldownMs =>
                exact Table.kindOf_land ..
            | dropped _ _ => rfl
            | unchanged => rfl
  | cons event steps =>
      have coherent := running.coherent
      have judged := running.judged
      have free : (engine.view landings).castles = [] := accounted.free
      have viewed : (Moment.process load ⟨engine, event :: steps, landings⟩).table =
          (engine.view landings).apply event (engine.verdict event) :=
        engine.view_processStepEvent landings event
      have captured := judged.captured_apply coherent free
      have booked := engine.processStepEvent_booked event
      have king : ∀ piece,
          ((engine.view landings).apply event (engine.verdict event)).kindOf piece = .king ↔
            engine.kindOf piece = .king := fun piece =>
        (viewed ▸ cast.kings piece).trans (accounted.cast.kings piece).symm
      refine ⟨cast, ?_, ?_, ?_, ?_, ?_⟩
      · rw [viewed]
        cases verdict : engine.verdict event with
        | castled castle =>
            rw [verdict] at judged
            cases judged with
            | castled _ pending _ =>
                rw [free] at pending
                exact absurd pending List.not_mem_nil
        | _ => exact free
      · intro color
        rw [viewed, judged.capturedValue_apply coherent free (accounted.bounded running judged),
          ← GameEngine.gain_eq_loss judged color]
        exact (engine.scoreOf_processStepEvent color event).trans
          (congrArg (· + _) (accounted.scores color))
      · rw [viewed]
        change (engine.processStepEvent event).ledger.gameOver = true ↔ _
        have before : engine.ledger.gameOver = true ↔ ∃ piece, engine.kindOf piece = .king ∧
            (engine.view landings).stateOf piece = .captured := accounted.isOver
        simp only [captured, king]
        generalize (engine.processStepEvent event).ledger = ledger at booked ⊢
        cases booked with
        | peaceful unharmed =>
            simp only [unharmed, reduceCtorEq, or_false]
            exact before
        | @taken piece falls common =>
            rw [before]
            refine exists_congr fun other => and_congr_right fun kind => ?_
            refine (or_iff_left fun same => ?_).symm
            rw [falls] at same
            exact common (Option.some.inj same ▸ kind)
        | @ended piece finish falls kind decided winner =>
            refine iff_of_true ?_ ⟨piece, kind, .inr falls⟩
            simp only [Ledger.close]
            split
            · next isOver => exact isOver
            · rfl
      · change (engine.processStepEvent event).ledger.attached = true
        have attached : engine.ledger.attached = true := accounted.attached
        generalize (engine.processStepEvent event).ledger = ledger at booked ⊢
        cases booked with
        | peaceful _ => exact attached
        | taken _ _ => exact attached
        | ended _ _ _ _ =>
            simp only [Ledger.close]
            split <;> exact attached
      · change (engine.processStepEvent event).ledger.gameOver = false →
          (engine.processStepEvent event).ledger.endings = []
        have ongoing : engine.ledger.gameOver = false → engine.ledger.endings = [] :=
          accounted.ongoing
        generalize (engine.processStepEvent event).ledger = ledger at booked ⊢
        cases booked with
        | peaceful _ => exact ongoing
        | taken _ _ => exact ongoing
        | ended _ _ _ _ =>
            simp only [Ledger.close]
            split
            · exact ongoing
            · exact fun impossible => Bool.noConfusion impossible

/-- A piece that is captured after an event has the kind it had before. -/
theorem kind_process (running : moment.Running) (load : PieceConfigReader) {piece : PieceId}
    (captured : (moment.process load).engine.stateOf piece = .captured) :
    (moment.process load).engine.kindOf piece = moment.engine.kindOf piece := by
  have processed := running.processed load
  change (moment.process load).table.stateOf piece = .captured at captured
  change (moment.process load).table.kindOf piece = moment.table.kindOf piece
  generalize (moment.process load).table = next at processed captured ⊢
  cases processed with
  | stepped following judged => exact judged.kind_apply captured
  | landed _ _ _ _ _ => exact Table.kindOf_land ..
  | dropped _ _ => rfl
  | unchanged => rfl

/-- A captured piece stays captured. -/
theorem Accounted.captured_process (accounted : moment.Accounted layout) (running : moment.Running)
    (load : PieceConfigReader) {piece : PieceId}
    (captured : moment.engine.stateOf piece = .captured) :
    (moment.process load).engine.stateOf piece = .captured := by
  have processed := running.processed load
  change (moment.process load).table.stateOf piece = .captured
  have captured : moment.table.stateOf piece = .captured := captured
  generalize (moment.process load).table = next at processed ⊢
  cases processed with
  | stepped following judged =>
      exact (judged.captured_apply running.coherent accounted.free piece).mpr (.inl captured)
  | landed member airborne here eventTimeMs shortCooldownMs =>
      rw [Table.stateOf_land, if_neg]
      · exact captured
      · rintro rfl
        rw [captured] at airborne
        cases airborne
  | dropped _ _ => exact captured
  | unchanged => exact captured

/-- Once the game is over the ledger is closed. -/
theorem ledger_process_of_over (load : PieceConfigReader)
    (isOver : moment.engine.ledger.gameOver = true) :
    (moment.process load).engine.ledger = moment.engine.ledger := by
  obtain ⟨engine, steps, landings⟩ := moment
  cases steps with
  | nil =>
      cases landings with
      | nil => rfl
      | cons event landings => exact engine.ledger_processJumpLanding load event
  | cons event steps =>
      have booked := engine.processStepEvent_booked event
      change (engine.processStepEvent event).ledger = engine.ledger
      generalize (engine.processStepEvent event).ledger = ledger at booked ⊢
      cases booked with
      | peaceful _ => rfl
      | taken _ _ => rfl
      | ended _ _ _ _ => exact if_pos isOver

/-- The event in which the first king falls closes the ledger for the other colour. -/
theorem Accounted.first_king (accounted : moment.Accounted layout) (running : moment.Running)
    (load : PieceConfigReader) {piece : PieceId} (king : moment.engine.kindOf piece = .king)
    (none_before : ∀ other, moment.engine.kindOf other = .king →
      moment.engine.stateOf other ≠ .captured)
    (falls : (moment.process load).engine.stateOf piece = .captured) :
    ∃ finish : GameEvent, (moment.process load).engine.ledger = ⟨true, true, [finish]⟩ ∧
      finish.hasWinner = true ∧ finish.winner = (moment.engine.colorOf piece).opposite := by
  have ongoing : moment.engine.gameOver = false := by
    refine Bool.eq_false_iff.mpr fun isOver => ?_
    obtain ⟨other, kind, captured⟩ := accounted.isOver.mp isOver
    exact none_before other kind captured
  have open' : moment.engine.ledger = ⟨false, true, []⟩ := by
    have attached := accounted.attached
    have endings := accounted.ongoing ongoing
    simp only [GameEngine.ledger] at attached ⊢
    rw [ongoing, attached, endings]
  have alive := none_before piece king
  have processed := running.processed load
  obtain ⟨engine, steps, landings⟩ := moment
  change (Moment.process load ⟨engine, steps, landings⟩).table.stateOf piece = .captured at falls
  cases steps with
  | nil =>
      exfalso
      refine alive ?_
      generalize (Moment.process load ⟨engine, [], landings⟩).table = next at processed falls
      cases processed with
      | stepped following _ => cases following
      | landed member airborne here eventTimeMs shortCooldownMs =>
          rw [Table.stateOf_land] at falls
          split at falls
          · cases falls
          · exact falls
      | dropped _ _ => exact falls
      | unchanged => exact falls
  | cons event steps =>
      have judged := running.judged
      have viewed : (Moment.process load ⟨engine, event :: steps, landings⟩).table =
          (engine.view landings).apply event (engine.verdict event) :=
        engine.view_processStepEvent landings event
      rw [viewed, judged.captured_apply running.coherent accounted.free piece] at falls
      have falls := falls.resolve_left alive
      have victor := judged.victor_color falls
      have booked := engine.processStepEvent_booked event
      change ∃ finish : GameEvent, (engine.processStepEvent event).ledger = _ ∧ _
      have open' : engine.ledger = ⟨false, true, []⟩ := open'
      generalize (engine.processStepEvent event).ledger = ledger at booked ⊢
      cases booked with
      | peaceful unharmed =>
          rw [unharmed] at falls
          cases falls
      | taken other common =>
          rw [other] at falls
          exact absurd king (Option.some.inj falls ▸ common)
      | @ended _ finish other kind decided winner =>
          refine ⟨finish, ?_, decided, winner.trans victor⟩
          rw [open']
          rfl

end Moment

namespace GameEngine

/-! ## Runs -/

/-- Between two batches no piece changes its kind. -/
theorem silent_kind {load : PieceConfigReader} {admitted : GameEngine → Call → Prop}
    {first next : Moment} (silent : Moment.Silent load admitted first next)
    (running : first.Running)
    (piece : PieceId) : next.engine.kindOf piece = first.engine.kindOf piece :=
  (silent_frame Piece.steady_kind silent running piece).2.2

/-- Requests that start no castle, and advances of the clock, keep the account. -/
theorem silent_accounted {load : PieceConfigReader} {layout : Layout} {first next : Moment}
    (silent : Moment.Silent load (fun engine call => ¬ engine.StartsCastle load call) first next)
    (running : first.Running) (accounted : first.Accounted layout) : next.Accounted layout := by
  have castles : next.table.castles = first.table.castles ∧
      ∀ color, next.engine.scoreOf color = first.engine.scoreOf color := by
    refine (silent_rule load (motive := fun moment => moment.table.castles = first.table.castles ∧
      ∀ color, moment.engine.scoreOf color = first.engine.scoreOf color) ?_ ?_ ?_ ?_ silent running
      ⟨rfl, fun _ => rfl⟩).2
    · exact fun engine _ _ _ _ _ same => ⟨same.1, fun color =>
        Eq.trans (by cases color <;> rfl) (same.2 color)⟩
    · exact fun engine _ _ _ admitted _ _ accepts _ _ => absurd accepts admitted
    · exact fun engine _ _ _ _ same => ⟨same.1, fun color =>
        Eq.trans (by cases color <;> rfl) (same.2 color)⟩
    · intro engine ms elapsed _ same
      simp only [Moment.advance, advanceTime, RealTimeArbiter.advanceTime, not_lt.mpr elapsed,
        if_false]
      exact ⟨same.1, fun color => Eq.trans (by cases color <;> rfl) (same.2 color)⟩
  exact accounted.same (Moment.cast_silent silent running accounted.cast) castles.1 castles.2
    (silent_ledger silent running) (fun piece => (silent_captured load silent running piece).2)
    (silent_kind silent running)

theorem new_accounted (layout : Layout) :
    (Moment.quiet (new layout (some {}))).Accounted layout where
  cast := new_cast layout _
  free := rfl
  scores := fun color => by
    refine Eq.trans ?_ (Finset.sum_eq_zero fun piece _ => ?_).symm
    · cases color <;> rfl
    · refine if_neg fun captured => ?_
      have idle : ((Moment.quiet (new layout (some {}))).table).stateOf piece = .idle :=
        layout.idle piece
      rw [idle] at captured
      cases captured.1
  isOver := by
    refine iff_of_false Bool.false_ne_true ?_
    rintro ⟨piece, _, captured⟩
    have idle : ((Moment.quiet (new layout (some {}))).table).stateOf piece = .idle :=
      layout.idle piece
    rw [idle] at captured
    cases captured
  attached := rfl
  ongoing := fun _ => rfl

/-- **The account of a game without castles.** After every run the score of each
colour is the worth of the captured pieces of the other one, each of the kind it had
when it was captured; the game is over just in case a king is captured; and the one
end that was published names as winner the opponent of the first king captured. -/
theorem run_account (load : PieceConfigReader) (layout : Layout) (calls : List Call)
    (noCastling : (new layout (some {})).NoCastling load calls) :
    (∀ color, ((new layout (some {})).run load calls).scoreOf color =
      (((new layout (some {})).run load calls).view []).capturedValue layout.nextPieceId
        color.opposite) ∧
    (((new layout (some {})).run load calls).gameOver = true ↔
      ∃ piece, ((new layout (some {})).run load calls).kindOf piece = .king ∧
        ((new layout (some {})).run load calls).stateOf piece = .captured) ∧
    ∀ moment ∈ (new layout (some {})).runMoments load calls, ∀ piece,
      (moment.process load).engine.stateOf piece = .captured →
      (((new layout (some {})).run load calls).stateOf piece = .captured ∧
        ((new layout (some {})).run load calls).kindOf piece = moment.engine.kindOf piece) ∧
      (moment.engine.kindOf piece = .king →
        (∀ other, moment.engine.kindOf other = .king → moment.engine.stateOf other ≠ .captured) →
        ∃ finish, ((new layout (some {})).run load calls).endings = [finish] ∧
          finish.hasWinner = true ∧
          finish.winner = (moment.engine.colorOf piece).opposite) := by
  have coherent := new_coherent layout (some {})
  have journey := run_journey load (fun engine call => ¬ engine.StartsCastle load call) calls
    (new layout (some {})) coherent noCastling
  have onSilent : ∀ first next : Moment,
      Moment.Silent load (fun engine call => ¬ engine.StartsCastle load call) first next →
      first.Running ∧ first.Accounted layout → next.Running ∧ next.Accounted layout :=
    fun first next silent before => ⟨(silent_captured load silent before.1 0).1,
      silent_accounted silent before.1 before.2⟩
  have onProcess : ∀ first next : Moment, Moment.Processes load first next → True →
      first.Running ∧ first.Accounted layout → next.Running ∧ next.Accounted layout :=
    fun first next processes _ before => processes ▸
      ⟨before.1.process load, before.2.process before.1 load⟩
  have started : (Moment.quiet (new layout (some {}))).Running ∧
      (Moment.quiet (new layout (some {}))).Accounted layout :=
    ⟨Moment.of_landings coherent, new_accounted layout⟩
  have finished := (journey.rule (fun _ => True) onSilent onProcess (fun _ _ => trivial) started).2
  refine ⟨finished.scores, finished.isOver, ?_⟩
  intro moment member piece falls
  obtain ⟨before, next, after, _, left, here, right⟩ := journey.split member
  obtain ⟨running, accounted⟩ := left.rule (fun _ => True) onSilent onProcess (fun _ _ => trivial)
    started
  have there := onProcess moment next here trivial ⟨running, accounted⟩
  obtain rfl : next = moment.process load := here
  constructor
  · -- From here on the piece stays captured and keeps its kind.
    have kept := (right.rule (motive := fun state => (state.Running ∧ state.Accounted layout) ∧
        state.engine.stateOf piece = .captured ∧
        state.engine.kindOf piece = moment.engine.kindOf piece) (fun _ => True)
      (fun first next silent before => ⟨onSilent first next silent before.1,
        (silent_captured load silent before.1.1 piece).2.mpr before.2.1,
        (silent_kind silent before.1.1 piece).trans before.2.2⟩)
      (fun first next processes _ before => by
        have captured := before.1.2.captured_process before.1.1 load before.2.1
        obtain rfl : next = first.process load := processes
        exact ⟨onProcess _ _ rfl trivial before.1, captured,
          (Moment.kind_process before.1.1 load captured).trans before.2.2⟩)
      (fun _ _ => trivial) ⟨there, falls, Moment.kind_process running load falls⟩).2
    exact kept
  · -- From here on the ledger is closed.
    intro king none_before
    obtain ⟨finish, closed, decided, winner⟩ := accounted.first_king running load king none_before
      falls
    have kept := (right.rule (motive := fun state => state.Running ∧
        state.engine.ledger = ⟨true, true, [finish]⟩) (fun _ => True)
      (fun first next silent before => ⟨(silent_captured load silent before.1 0).1,
        (silent_ledger silent before.1).trans before.2⟩)
      (fun first next processes _ before => by
        obtain rfl : next = first.process load := processes
        exact ⟨before.1.process load,
          (Moment.ledger_process_of_over load (by rw [before.2])).trans before.2⟩)
      (fun _ _ => trivial) ⟨there.1, closed⟩).2
    exact ⟨finish, congrArg Ledger.endings kept, decided, winner⟩

/-- White's queen takes a pawn and then the enemy king. -/
theorem run_account_queens :
    let calls : List Call :=
      [.requestMove ⟨6, 4⟩ ⟨4, 4⟩, .requestMove ⟨1, 4⟩ ⟨3, 4⟩, .wait 2000,
        .requestMove ⟨7, 3⟩ ⟨3, 7⟩, .wait 8000, .requestMove ⟨3, 7⟩ ⟨1, 5⟩, .wait 4000,
        .requestMove ⟨1, 5⟩ ⟨0, 4⟩, .wait 1000]
    let load := PieceConfigReader.fallback
    (∀ color, ((new createInitialBoard (some {})).run load calls).scoreOf color =
      (((new createInitialBoard (some {})).run load calls).view []).capturedValue
        createInitialBoard.nextPieceId color.opposite) ∧
    (((new createInitialBoard (some {})).run load calls).gameOver = true ↔
      ∃ piece, ((new createInitialBoard (some {})).run load calls).kindOf piece = .king ∧
        ((new createInitialBoard (some {})).run load calls).stateOf piece = .captured) ∧
    ∀ moment ∈ (new createInitialBoard (some {})).runMoments load calls, ∀ piece,
      (moment.process load).engine.stateOf piece = .captured →
      (((new createInitialBoard (some {})).run load calls).stateOf piece = .captured ∧
        ((new createInitialBoard (some {})).run load calls).kindOf piece =
          moment.engine.kindOf piece) ∧
      (moment.engine.kindOf piece = .king →
        (∀ other, moment.engine.kindOf other = .king → moment.engine.stateOf other ≠ .captured) →
        ∃ finish, ((new createInitialBoard (some {})).run load calls).endings = [finish] ∧
          finish.hasWinner = true ∧
          finish.winner = (moment.engine.colorOf piece).opposite) :=
  run_account PieceConfigReader.fallback createInitialBoard _ (by decide +kernel)

end GameEngine

end KungFuChess

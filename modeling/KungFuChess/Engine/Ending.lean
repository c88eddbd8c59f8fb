import KungFuChess.Engine.Runs

/-!
# How a game ends

The engine ends a game at the first capture of a king, and publishes the end
once. The ledger of an engine is what this is about: whether the game is over,
and the ends it has published. Only a step event that captures a king changes it.
-/

set_option autoImplicit false

namespace KungFuChess

/-! ## The ledger -/

/-- Whether the game is over, and the ends published so far. -/
structure Ledger where
  gameOver : Bool
  attached : Bool
  endings : List GameEvent
  deriving DecidableEq

/-- A first end closes the ledger; a later one is not booked. -/
def Ledger.close (ledger : Ledger) (finish : GameEvent) : Ledger :=
  if ledger.gameOver then ledger
  else ⟨true, ledger.attached, if ledger.attached then ledger.endings ++ [finish] else []⟩

/-- The piece that makes a capture. -/
def StepVerdict.victor (event : StepEvent) : StepVerdict → PieceId
  | .lost target => target
  | _ => event.piece

namespace GameEngine

/-- The ends published to the bus. -/
def endings (engine : GameEngine) : List GameEvent :=
  match engine.eventBus with
  | none => []
  | some bus => bus.published.filter fun event => event.type = .gameEnded

def ledger (engine : GameEngine) : Ledger :=
  ⟨engine.gameOver, engine.eventBus.isSome, engine.endings⟩

/-- Whether the game is over, and the published events of one interest. -/
def noticed (heeds : GameEvent → Bool) (engine : GameEngine) : Bool × Option (List GameEvent) :=
  (engine.gameOver, engine.eventBus.map fun bus => bus.published.filter heeds)

/-- An interest in neither completed moves nor scores. -/
def HeedsNoMove (heeds : GameEvent → Bool) : Prop :=
  ∀ event : GameEvent, event.type = .moveCompleted ∨ event.type = .scoreUpdated →
    heeds event = false

/-! ### What completes a move is not noticed by other interests -/

section Noticed

variable {heeds : GameEvent → Bool} (other : HeedsNoMove heeds) (engine : GameEngine)

theorem noticed_publish {event : GameEvent} (ignored : heeds event = false) :
    (engine.publish event).noticed heeds = engine.noticed heeds := by
  unfold noticed publish
  cases engine.eventBus with
  | none => rfl
  | some bus =>
      simp only [Option.map_some, List.filter_append, List.filter_cons, ignored,
        Bool.false_eq_true, if_false, List.filter_nil, List.append_nil]

theorem noticed_pushHistory (entry : MoveHistoryEntry) :
    (engine.pushHistory entry).noticed heeds = engine.noticed heeds := by
  unfold pushHistory
  split <;> rfl

include other

theorem noticed_announce (entry : MoveHistoryEntry) :
    (engine.announce entry).noticed heeds = engine.noticed heeds :=
  (noticed_publish _ (other _ (.inl rfl))).trans (noticed_pushHistory engine entry)

theorem noticed_publishLatestMove (piece : PieceId) (wasCapture : Bool)
    (capturedKind : PieceKind) (capturedColor : PieceColor) :
    (engine.publishLatestMove piece wasCapture capturedKind capturedColor).noticed heeds =
      engine.noticed heeds := by
  simp only [publishLatestMove]
  split
  · exact noticed_publish _ (other _ (.inl rfl))
  · rfl

theorem noticed_addCaptureScore (attackerColor : PieceColor) (capturedKind : PieceKind) :
    (engine.addCaptureScore attackerColor capturedKind).noticed heeds = engine.noticed heeds := by
  simp only [addCaptureScore]
  split
  · rfl
  · rw [noticed_publish _ (other _ (.inr rfl))]
    split <;> rfl

theorem noticed_stopMovingPieceAt (piece : PieceId) (source cell : Position) (eventTimeMs : Int)
    (wasCapture : Bool) (capturedKind : PieceKind) (capturedColor : PieceColor) :
    (engine.stopMovingPieceAt piece source cell eventTimeMs wasCapture capturedKind
      capturedColor).noticed heeds = engine.noticed heeds := by
  simp only [stopMovingPieceAt, noticed_publishLatestMove other]
  refine (noticed_pushHistory _ _).trans ?_
  simp only [promotePawnIfNeeded]
  split <;> rfl

theorem noticed_finishCastle (castle : PendingCastle) (completedAt : Int) :
    ({ engine.finishCastle castle completedAt with
        pendingCastles := (engine.finishCastle castle completedAt).pendingCastles.erase castle } :
      GameEngine).noticed heeds = engine.noticed heeds :=
  noticed_announce other (engine.placeCastle castle completedAt) _

end Noticed

section Ledger

variable (engine : GameEngine)

/-- The interest of the ledger. -/
def isEnding (event : GameEvent) : Bool := event.type = .gameEnded

theorem isEnding_other : HeedsNoMove isEnding := by
  rintro event (move | score)
  · simp only [isEnding, move, reduceCtorEq, decide_false]
  · simp only [isEnding, score, reduceCtorEq, decide_false]

theorem ledger_congr {engine next : GameEngine}
    (same : next.noticed isEnding = engine.noticed isEnding) : next.ledger = engine.ledger := by
  obtain ⟨isOver, published⟩ := Prod.mk.inj same
  simp only [ledger, endings, isOver, Ledger.mk.injEq, true_and]
  cases nextBus : next.eventBus with
  | none =>
      cases bus : engine.eventBus with
      | none => exact ⟨rfl, rfl⟩
      | some _ =>
          simp only [nextBus, bus, Option.map_none, Option.map_some, reduceCtorEq] at published
  | some _ =>
      cases bus : engine.eventBus with
      | none =>
          simp only [nextBus, bus, Option.map_none, Option.map_some, reduceCtorEq] at published
      | some _ =>
          simp only [nextBus, bus, Option.map_some, Option.some.injEq] at published
          exact ⟨rfl, published⟩

theorem ledger_announce (entry : MoveHistoryEntry) :
    (engine.announce entry).ledger = engine.ledger :=
  ledger_congr (noticed_announce isEnding_other engine entry)

theorem ledger_addCaptureScore (attackerColor : PieceColor) (capturedKind : PieceKind) :
    (engine.addCaptureScore attackerColor capturedKind).ledger = engine.ledger :=
  ledger_congr (noticed_addCaptureScore isEnding_other engine attackerColor capturedKind)

theorem ledger_stopMovingPieceAt (piece : PieceId) (source cell : Position) (eventTimeMs : Int)
    (wasCapture : Bool) (capturedKind : PieceKind) (capturedColor : PieceColor) :
    (engine.stopMovingPieceAt piece source cell eventTimeMs wasCapture capturedKind
      capturedColor).ledger = engine.ledger :=
  ledger_congr (noticed_stopMovingPieceAt isEnding_other engine piece source cell eventTimeMs
    wasCapture capturedKind capturedColor)

theorem ledger_finishCastle (castle : PendingCastle) (completedAt : Int) :
    ({ engine.finishCastle castle completedAt with
        pendingCastles := (engine.finishCastle castle completedAt).pendingCastles.erase castle } :
      GameEngine).ledger = engine.ledger :=
  ledger_congr (noticed_finishCastle isEnding_other engine castle completedAt)

/-- The event a finished game is announced with. -/
def endEvent (engine : GameEngine) (winner : PieceColor) : GameEvent :=
  { type := .gameEnded
    hasWinner := true
    winner := winner
    gameEndReason := "king_captured"
    whiteScore := engine.whiteScore
    blackScore := engine.blackScore }

theorem ledger_endGame (winner : PieceColor) :
    (engine.endGame winner "king_captured").ledger =
      engine.ledger.close (engine.endEvent winner) := by
  cases isOver : engine.gameOver with
  | true =>
      rw [endGame, if_pos isOver, Ledger.close, if_pos]
      exact isOver
  | false =>
      rw [endGame, if_neg (isOver ▸ Bool.false_ne_true), Ledger.close, if_neg]
      · unfold ledger endings publish
        dsimp only
        cases engine.eventBus with
        | none => rfl
        | some bus =>
            simp only [Option.map_some, Option.isSome_some, List.filter_append, List.filter_cons,
              decide_true, if_true, List.filter_nil]
            rfl
      · change ¬ engine.gameOver = true
        rw [isOver]
        exact Bool.false_ne_true

end Ledger

/-! ## What a step event books -/

/-- The ledger after a step event with this verdict. -/
inductive Booked (engine : GameEngine) (event : StepEvent) (verdict : StepVerdict) :
    Ledger → Prop
  | peaceful (unharmed : verdict.fallen event = none) : Booked engine event verdict engine.ledger
  | taken {piece : PieceId} (falls : verdict.fallen event = some piece)
      (common : engine.kindOf piece ≠ .king) : Booked engine event verdict engine.ledger
  | ended {piece : PieceId} {finish : GameEvent} (falls : verdict.fallen event = some piece)
      (king : engine.kindOf piece = .king) (decided : finish.hasWinner = true)
      (winner : finish.winner = engine.colorOf (verdict.victor event)) :
      Booked engine event verdict (engine.ledger.close finish)

theorem loseToAirborne_booked (engine : GameEngine) (event : StepEvent) (target : PieceId) :
    Booked engine event (.lost target) (engine.loseToAirborne event.piece target).ledger := by
  simp only [loseToAirborne]
  split
  · next king =>
      rw [ledger_endGame, ledger_addCaptureScore]
      refine .ended rfl king rfl ?_
      refine (congrArg (fun table : Table => table.colorOf target)
        (view_addCaptureScore _ [] _ _)).trans ?_
      exact Table.lasting_remove Piece.lasting_color (engine.view []) target event.piece
  · next common =>
      rw [ledger_addCaptureScore]
      exact .taken rfl common

theorem captureTarget_booked (engine : GameEngine) (event : StepEvent) (source : Position)
    (target : PieceId) : Booked engine event (.captured source target)
      (engine.captureTarget event.piece target source event).ledger := by
  have scored : ∀ color kind, (((((engine.setState target .captured).removePieceFromBoard
      target).cancelMotion target).addCaptureScore color kind).updateMotionCell event.piece
        event.toCell).ledger = engine.ledger := fun color kind =>
    ledger_addCaptureScore (((engine.setState target .captured).removePieceFromBoard
      target).cancelMotion target) color kind
  simp only [captureTarget]
  split
  · next king =>
      rw [ledger_endGame, ledger_stopMovingPieceAt, scored]
      refine .ended rfl king rfl ?_
      refine (congrArg (fun table : Table => table.colorOf event.piece)
        (view_stopMovingPieceAt _ [] _ _ _ _ _ _ _)).trans ?_
      refine (Table.lasting_stop Piece.lasting_color _ _ _ _ _ _).trans ?_
      refine (congrArg (fun table : Table => table.colorOf event.piece)
        (view_addCaptureScore _ [] _ _)).trans ?_
      exact Table.lasting_remove Piece.lasting_color (engine.view []) event.piece target
  · next common =>
      rw [ledger_stopMovingPieceAt, scored]
      exact .taken rfl common

/-- **The engine books a capture of a king, and nothing else.** -/
theorem processStepEvent_booked (engine : GameEngine) (event : StepEvent) :
    Booked engine event (engine.verdict event) (engine.processStepEvent event).ledger := by
  simp only [processStepEvent, verdict, completeCastleFor]
  split
  · exact .peaceful rfl
  · cases engine.castleOf event with
    | some castle =>
        dsimp only [Option.map_some]
        rw [ledger_finishCastle]
        exact .peaceful rfl
    | none =>
        simp only [Option.map_none]
        cases engine.realTime.activeMotions.find? fun motion => motion.piece = event.piece with
        | none => exact .peaceful rfl
        | some motion =>
            simp only
            split
            · rw [ledger_stopMovingPieceAt]
              exact .peaceful rfl
            · cases engine.findPieceAtRealOrVirtualCell event.toCell event.piece with
              | none =>
                  simp only
                  split
                  · rw [ledger_stopMovingPieceAt]
                    exact .peaceful rfl
                  · exact .peaceful rfl
              | some target =>
                  simp only
                  split
                  · rw [ledger_stopMovingPieceAt]
                    exact .peaceful rfl
                  · split
                    · exact loseToAirborne_booked engine event target
                    · exact captureTarget_booked engine event motion.source target

theorem ledger_processJumpLanding (load : PieceConfigReader) (engine : GameEngine)
    (event : JumpLandingEvent) : (engine.processJumpLanding load event).ledger = engine.ledger := by
  simp only [processJumpLanding]
  split
  · rfl
  · split
    · rfl
    · exact ledger_announce _ _

end GameEngine

/-! ## The kings -/

/-- A layout with one king of each colour. -/
structure Layout.Kings (layout : Layout) where
  king : PieceColor → PieceId
  kind : ∀ color, (layout.pieces.get (king color)).kind = .king
  color : ∀ color, (layout.pieces.get (king color)).color = color
  only : ∀ piece, layout.Holds piece → (layout.pieces.get piece).kind = .king →
    piece = king (layout.pieces.get piece).color

theorem Layout.Kings.ne_opposite {layout : Layout} (kings : layout.Kings) (color : PieceColor) :
    kings.king color ≠ kings.king color.opposite := by
  intro same
  have colors := kings.color color
  rw [same, kings.color] at colors
  cases color <;> cases colors

namespace Table

/-- The pieces of a table are those of a layout: they have the colours they had,
the same ones are kings, and no other piece has come into play. -/
structure Cast (layout : Layout) (table : Table) : Prop where
  colors : ∀ piece, table.colorOf piece = (layout.pieces.get piece).color
  kings : ∀ piece, table.kindOf piece = .king ↔ (layout.pieces.get piece).kind = .king
  foreign : ∀ piece, ¬ layout.Holds piece →
    table.stateOf piece = .idle ∧ ∀ cell, table.board.getPieceAt cell ≠ some piece

/-- A step event captures no king and touches no captured one. -/
def SparesKings (table : Table) (king : PieceColor → PieceId) (event : StepEvent)
    (verdict : StepVerdict) : Prop :=
  ∀ color, verdict.fallen event ≠ some (king color) ∧
    (table.stateOf (king color) = .captured → king color ∉ verdict.touched event)

/-- Every living king that a step event does not touch stands on a cell that the
event does not write. -/
def KeepsKings (table : Table) (king : PieceColor → PieceId) (event : StepEvent)
    (verdict : StepVerdict) : Prop :=
  ∀ color, table.stateOf (king color) = .captured ∨ king color ∈ verdict.touched event ∨
    ∃ cell ∈ table.board.positions, cell ∉ verdict.written event ∧
      table.board.getPieceAt cell = some (king color)

instance (table : Table) (king : PieceColor → PieceId) (event : StepEvent)
    (verdict : StepVerdict) : Decidable (table.SparesKings king event verdict) :=
  inferInstanceAs (Decidable (∀ _ : PieceColor, _))

instance (table : Table) (king : PieceColor → PieceId) (event : StepEvent)
    (verdict : StepVerdict) : Decidable (table.KeepsKings king event verdict) :=
  inferInstanceAs (Decidable (∀ _ : PieceColor, _))

/-- What the ledger says about the kings: before the end both are alive, and from
then on the one end that was published names the colour whose king is alive and
on the grid, while the other king is captured. -/
structure Reign {layout : Layout} (kings : layout.Kings) (table : Table) (ledger : Ledger) :
    Prop where
  attached : ledger.attached = true
  ongoing : ledger.gameOver = false → ledger.endings = [] ∧
    ∀ color, table.stateOf (kings.king color) ≠ .captured
  finished : ledger.gameOver = true → ∃ finish, ledger.endings = [finish] ∧
    finish.hasWinner = true ∧ table.stateOf (kings.king finish.winner) ≠ .captured ∧
    (∃ cell, table.board.getPieceAt cell = some (kings.king finish.winner)) ∧
    table.stateOf (kings.king finish.winner.opposite) = .captured

end Table

namespace Moment

/-- The next step event of a moment leaves the kings as the ledger has them: once
the game is over it spares the kings, and at the end and after it keeps them on
the grid. -/
def KingsSafe (king : PieceColor → PieceId) (moment : Moment) : Prop :=
  ∀ event ∈ moment.steps.head?,
    (moment.engine.gameOver = true →
      moment.table.SparesKings king event (moment.engine.verdict event)) ∧
    (moment.engine.gameOver = true ∨
        (∃ color, (moment.engine.verdict event).fallen event = some (king color)) →
      moment.table.KeepsKings king event (moment.engine.verdict event))

instance (king : PieceColor → PieceId) (moment : Moment) : Decidable (moment.KingsSafe king) :=
  inferInstanceAs (Decidable (∀ _ ∈ _, _))

variable {layout : Layout} {moment : Moment}

theorem cast_process (running : moment.Running) (cast : moment.table.Cast layout)
    (load : PieceConfigReader) : (moment.process load).table.Cast layout where
  colors := fun piece =>
    (GameEngine.process_lasting Piece.lasting_color running piece).trans (cast.colors piece)
  kings := fun piece =>
    (decide_eq_decide.mp (GameEngine.process_lasting Piece.lasting_king running piece)).trans
      (cast.kings piece)
  foreign := fun piece absent => GameEngine.process_foreign running (cast.foreign piece absent)

theorem cast_silent {load : PieceConfigReader} {admitted : GameEngine → Call → Prop}
    {next : Moment} (silent : Moment.Silent load admitted moment next) (running : moment.Running)
    (cast : moment.table.Cast layout) : next.table.Cast layout where
  colors := fun piece =>
    (GameEngine.silent_frame Piece.lasting_color.toSteady silent running piece).2.2.trans
      (cast.colors piece)
  kings := fun piece =>
    (decide_eq_decide.mp (GameEngine.silent_frame Piece.lasting_king.toSteady silent running
      piece).2.2).trans (cast.kings piece)
  foreign := fun piece absent =>
    (GameEngine.silent_foreign silent running (cast.foreign piece absent)).2

/-- A king of the game that is in play is the king of its colour. -/
theorem crowned {table : Table} (kings : layout.Kings) (cast : table.Cast layout)
    {piece : PieceId} (king : table.kindOf piece = .king)
    (present : table.stateOf piece ≠ .idle ∨
      ∃ cell, table.board.getPieceAt cell = some piece) :
    piece = kings.king (table.colorOf piece) := by
  have held : layout.Holds piece := by
    by_contra absent
    obtain ⟨idle, nowhere⟩ := cast.foreign piece absent
    rcases present with busy | ⟨cell, here⟩
    · exact busy idle
    · exact nowhere cell here
  rw [cast.colors piece]
  exact kings.only piece held ((cast.kings piece).mp king)

end Moment

/-! ## The reign of a king -/

namespace Table

variable {layout : Layout} {kings : layout.Kings} {table : Table} {event : StepEvent}
  {verdict : StepVerdict}

/-- A living king that does not fall lives on. -/
theorem Judged.survives (judged : table.Judged event verdict) (coherent : table.Coherent)
    {piece : PieceId} (alive : table.stateOf piece ≠ .captured)
    (stands : verdict.fallen event ≠ some piece) :
    (table.apply event verdict).stateOf piece ≠ .captured := by
  by_cases touched : piece ∈ verdict.touched event
  · exact fun captured => stands ((judged.captured_iff touched).mp captured)
  · rw [(judged.frame coherent touched).1]
    exact alive

/-- A living king that does not fall stays on the grid where the event keeps it. -/
theorem Judged.keeps (judged : table.Judged event verdict) (coherent : table.Coherent)
    {king : PieceColor → PieceId} (keeps : table.KeepsKings king event verdict)
    {color : PieceColor} (alive : table.stateOf (king color) ≠ .captured)
    (stands : verdict.fallen event ≠ some (king color)) :
    ∃ cell, (table.apply event verdict).board.getPieceAt cell = some (king color) := by
  by_cases touched : king color ∈ verdict.touched event
  · rcases judged.settles coherent touched with ⟨_, cell, _, here⟩ | captured
    · exact ⟨cell, here⟩
    · exact absurd captured (judged.survives coherent alive stands)
  · rcases keeps color with captured | inside | ⟨cell, _, unwritten, here⟩
    · exact absurd captured alive
    · exact absurd inside touched
    · refine ⟨cell, (judged.frame coherent touched).2 ?_ cell here⟩
      rintro ⟨_, other, written, there⟩
      exact unwritten (coherent.oneCell here there ▸ written)

/-- A reign continues on the same grid while no piece is captured or revived. -/
theorem Reign.same {ledger : Ledger} (reign : table.Reign kings ledger) {next : Table}
    (board : next.board = table.board)
    (captured : ∀ piece, next.stateOf piece = .captured ↔ table.stateOf piece = .captured) :
    next.Reign kings ledger where
  attached := reign.attached
  ongoing := fun open' => ⟨(reign.ongoing open').1, fun color =>
    (captured _).not.mpr ((reign.ongoing open').2 color)⟩
  finished := fun isOver => by
    obtain ⟨finish, once, decided, alive, onGrid, lost⟩ := reign.finished isOver
    exact ⟨finish, once, decided, (captured _).not.mpr alive, board.symm ▸ onGrid,
      (captured _).mpr lost⟩

/-- A step event in which no king falls. -/
theorem Judged.reign_kept (judged : table.Judged event verdict) (coherent : table.Coherent)
    {ledger : Ledger} (reign : table.Reign kings ledger)
    (spares : ledger.gameOver = true → table.SparesKings kings.king event verdict)
    (keeps : ledger.gameOver = true → table.KeepsKings kings.king event verdict)
    (stand : ∀ color, verdict.fallen event ≠ some (kings.king color)) :
    (table.apply event verdict).Reign kings ledger where
  attached := reign.attached
  ongoing := fun ongoing => ⟨(reign.ongoing ongoing).1, fun color =>
    judged.survives coherent ((reign.ongoing ongoing).2 color) (stand color)⟩
  finished := fun isOver => by
    obtain ⟨finish, once, decided, alive, _, lost⟩ := reign.finished isOver
    refine ⟨finish, once, decided, judged.survives coherent alive (stand _),
      judged.keeps coherent (keeps isOver) alive (stand _), ?_⟩
    rw [(judged.frame coherent ((spares isOver _).2 lost)).1]
    exact lost

/-- The step event in which the first king falls. -/
theorem Judged.reign_ended (judged : table.Judged event verdict) (coherent : table.Coherent)
    {ledger : Ledger} (reign : table.Reign kings ledger) (ongoing : ledger.gameOver = false)
    (keeps : table.KeepsKings kings.king event verdict) {color : PieceColor}
    (falls : verdict.fallen event = some (kings.king color)) {finish : GameEvent}
    (decided : finish.hasWinner = true) (winner : finish.winner = color.opposite) :
    (table.apply event verdict).Reign kings (ledger.close finish) := by
  obtain ⟨none_before, alive⟩ := reign.ongoing ongoing
  have closed : ledger.close finish = ⟨true, true, [finish]⟩ := by
    rw [Ledger.close, ongoing, reign.attached, none_before]
    rfl
  have stands : verdict.fallen event ≠ some (kings.king color.opposite) := by
    rw [falls]
    exact fun same => kings.ne_opposite color (Option.some.inj same)
  rw [closed]
  refine ⟨rfl, fun ongoing => (Bool.noConfusion ongoing), fun _ => ⟨finish, rfl, decided, ?_⟩⟩
  have other : color.opposite.opposite = color := by cases color <;> rfl
  rw [winner, other]
  exact ⟨judged.survives coherent (alive _) stands, judged.keeps coherent keeps (alive _) stands,
    (judged.captured_iff (StepVerdict.touched_of_fallen falls)).mpr falls⟩

/-- The piece that captures is of the other colour. -/
theorem Judged.victor_color (judged : table.Judged event verdict) {piece : PieceId}
    (falls : verdict.fallen event = some piece) :
    table.colorOf (verdict.victor event) = (table.colorOf piece).opposite := by
  cases judged with
  | lost stepping inside other met enemy airborne =>
      cases falls
      exact ((PieceColor.opposite_eq_iff _ _).mpr (Ne.symm enemy)).symm
  | captured stepping inside other met enemy grounded =>
      cases falls
      exact ((PieceColor.opposite_eq_iff _ _).mpr enemy).symm
  | _ => cases falls

end Table

namespace Moment

variable {layout : Layout} {kings : layout.Kings} {moment : Moment}

/-- **A safe event continues the reign.** -/
theorem reign_process (running : moment.Running) (cast : moment.table.Cast layout)
    (safe : moment.KingsSafe kings.king)
    (reign : moment.table.Reign kings moment.engine.ledger) (load : PieceConfigReader) :
    (moment.process load).table.Reign kings (moment.process load).engine.ledger := by
  obtain ⟨engine, steps, landings⟩ := moment
  cases steps with
  | nil =>
      have processed := running.processed load
      have ledger : (process load ⟨engine, [], landings⟩).engine.ledger = engine.ledger := by
        cases landings with
        | nil => rfl
        | cons event landings => exact engine.ledger_processJumpLanding load event
      rw [ledger]
      generalize (process load ⟨engine, [], landings⟩).table = next at processed ⊢
      cases processed with
      | stepped next _ => cases next
      | landed member airborne here eventTimeMs shortCooldownMs =>
          refine reign.same rfl fun piece => ?_
          rw [Table.stateOf_land]
          split
          · next own =>
              rw [own, airborne]
              simp only [reduceCtorEq]
          · rfl
      | dropped member lost => exact reign.same rfl fun _ => Iff.rfl
      | unchanged => exact reign
  | cons event steps =>
      have coherent := running.coherent
      have judged := running.judged
      obtain ⟨spares, keeps⟩ := safe event rfl
      have viewed : (process load ⟨engine, event :: steps, landings⟩).table = _ :=
        engine.view_processStepEvent landings event
      have booked := engine.processStepEvent_booked event
      rw [viewed]
      change Table.Reign kings _ (engine.processStepEvent event).ledger
      generalize (engine.processStepEvent event).ledger = ledger at booked ⊢
      cases booked with
      | peaceful unharmed =>
          refine judged.reign_kept coherent reign spares (fun isOver => keeps (.inl isOver)) ?_
          intro color
          rw [unharmed]
          exact (Option.some_ne_none _).symm
      | taken falls common =>
          refine judged.reign_kept coherent reign spares (fun isOver => keeps (.inl isOver)) ?_
          intro color same
          rw [falls, Option.some.injEq] at same
          exact common (same ▸ (cast.kings _).mpr (kings.kind color))
      | @ended piece finish falls king decided winner =>
          have crown : piece = kings.king (engine.colorOf piece) := crowned kings cast king
            (judged.touched_present coherent (StepVerdict.touched_of_fallen falls))
          have victor := judged.victor_color falls
          rw [crown] at falls
          cases isOver : engine.gameOver with
          | true => exact absurd falls (spares isOver _).1
          | false =>
              refine judged.reign_ended coherent reign isOver (keeps (.inr ⟨_, falls⟩)) falls
                decided ?_
              exact winner.trans victor

end Moment

/-! ## Runs -/

namespace GameEngine

/-- Between two batches the ledger stays. -/
theorem silent_ledger {load : PieceConfigReader} {admitted : GameEngine → Call → Prop}
    {first next : Moment} (silent : Moment.Silent load admitted first next)
    (running : first.Running) : next.engine.ledger = first.engine.ledger := by
  refine (silent_rule load (motive := fun moment => moment.engine.ledger = first.engine.ledger)
    ?_ ?_ ?_ ?_ silent running rfl).2
  · exact fun _ _ _ _ _ _ same => same
  · exact fun _ _ _ _ _ _ _ _ _ same => same
  · exact fun _ _ _ _ _ same => same
  · intro engine ms elapsed _ same
    simp only [Moment.advance, GameEngine.advanceTime, RealTimeArbiter.advanceTime,
      not_lt.mpr elapsed, if_false]
    exact same

theorem new_reign {layout : Layout} (kings : layout.Kings) :
    ((new layout (some {})).view []).Reign kings (new layout (some {})).ledger where
  attached := rfl
  ongoing := fun _ => ⟨rfl, fun color captured => by
    have idle : ((new layout (some {})).view []).stateOf (kings.king color) = .idle :=
      layout.idle _
    rw [idle] at captured
    cases captured⟩
  finished := fun isOver => Bool.noConfusion isOver

theorem new_cast (layout : Layout) (eventBus : Option EventBus) :
    ((new layout eventBus).view []).Cast layout where
  colors := fun _ => rfl
  kings := fun _ => Iff.rfl
  foreign := fun piece absent => ⟨layout.idle piece, fun cell here => absent ⟨cell, here⟩⟩

/-- **In a run of events that are safe for the kings**, the pieces are those of the
layout, and the ledger tells which king reigns. -/
theorem run_reign (load : PieceConfigReader) {layout : Layout} (kings : layout.Kings)
    (calls : List Call) (safe : ∀ moment ∈ (new layout (some {})).runMoments load calls,
      moment.KingsSafe kings.king) :
    (((new layout (some {})).run load calls).view []).Cast layout ∧
      (((new layout (some {})).run load calls).view []).Reign kings
        ((new layout (some {})).run load calls).ledger :=
  run_rule load (motive := fun moment => moment.table.Cast layout ∧
      moment.table.Reign kings moment.engine.ledger)
    (fun moment => moment.KingsSafe kings.king) (fun _ _ => True)
    (fun first next silent running before => by
      have frame := silent_frame Piece.lasting_id.toSteady silent running 0
      refine ⟨frame.1, Moment.cast_silent silent running before.1, ?_⟩
      rw [silent_ledger silent running]
      exact before.2.same frame.2.1 fun piece => (silent_captured load silent running piece).2)
    (fun _ running safe before => ⟨Moment.cast_process running before.1 load,
      Moment.reign_process running before.1 safe before.2 load⟩)
    (new_coherent layout _) (fun _ _ => trivial) safe
    ⟨new_cast layout _, new_reign kings⟩

end GameEngine

end KungFuChess

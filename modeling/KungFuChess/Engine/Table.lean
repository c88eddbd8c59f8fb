import KungFuChess.Engine.GameEngine

/-!
# The table: what stands where

The engine keeps the placement of the pieces in several stores at once: the
grid, the state of each piece, the motions, the jumps and the pending castles. A
table is these stores without the bookkeeping of scores, histories and published
events. The jumps of a table include the landings an advance has already emitted
and the engine has not yet applied.

Every operation of the engine acts on its table by a few table operations, and
the equations `view_…` state this for each of them. What a step event does is
first decided and then done: `GameEngine.verdict` is the decision, as a pure
function of the state before the event, and `view_processStepEvent` states that
processing the event performs it.
-/

set_option autoImplicit false

namespace KungFuChess

/-- A piece in the air over its cell. -/
structure Flight where
  piece : PieceId
  cell : Position
  deriving DecidableEq

def Jump.flight (jump : Jump) : Flight := ⟨jump.piece, jump.cell⟩

def JumpLandingEvent.flight (event : JumpLandingEvent) : Flight := ⟨event.piece, event.cell⟩

/-- The two pieces of a castle, each with the cell it starts from. -/
def PendingCastle.parts (castle : PendingCastle) : List (PieceId × Position) :=
  [(castle.king, castle.kingSource), (castle.rook, castle.rookSource)]

theorem PendingCastle.mem_pieces {castle : PendingCastle} {piece : PieceId} :
    piece ∈ castle.parts.map Prod.fst ↔ piece = castle.king ∨ piece = castle.rook := by
  simp only [parts, List.map_cons, List.map_nil, List.mem_cons, List.not_mem_nil, or_false]

/-- The four cells a completed castle writes. -/
def PendingCastle.writtenCells (castle : PendingCastle) : List Position :=
  [castle.kingSource, castle.rookSource, castle.kingDestination, castle.rookDestination]

structure Table where
  board : Board
  pieces : Heap
  motions : List Motion
  flights : List Flight
  castles : List PendingCastle

/-- What a step event comes to. -/
inductive StepVerdict where
  /-- The piece is no longer in motion. -/
  | ignored
  /-- The event completes a castle. -/
  | castled (castle : PendingCastle)
  /-- The piece enters the next cell and moves on. -/
  | slid
  /-- The piece is put down on a cell, without a capture. -/
  | stopped (source cell : Position)
  /-- The piece runs into an airborne enemy and is captured. -/
  | lost (target : PieceId)
  /-- The piece captures the target on the next cell and is put down there. -/
  | captured (source : Position) (target : PieceId)
  deriving DecidableEq

namespace Table

def stateOf (table : Table) (piece : PieceId) : PieceState := (table.pieces.get piece).state

def colorOf (table : Table) (piece : PieceId) : PieceColor := (table.pieces.get piece).color

def kindOf (table : Table) (piece : PieceId) : PieceKind := (table.pieces.get piece).kind

/-- The piece is in motion through the cell, or rests on it. -/
def Occupies (table : Table) (piece : PieceId) (cell : Position) : Prop :=
  (∃ motion ∈ table.motions, motion.piece = piece ∧ motion.currentCell = cell) ∨
    (table.stateOf piece ≠ .moving ∧ table.board.getPieceAt cell = some piece)

/-! ## Table operations -/

/-- A piece is marked as moved. -/
def mark (table : Table) (piece : PieceId) : Table :=
  { table with pieces := table.pieces.modify piece (·.markAsMoved) }

/-- A motion starts. -/
def depart (table : Table) (motion : Motion) : Table :=
  { table with
    pieces := table.pieces.modify motion.piece (·.setState .moving)
    motions := table.motions ++ [motion] }

/-- Two motions are declared a castle. -/
def pend (table : Table) (castle : PendingCastle) : Table :=
  { table with castles := table.castles ++ [castle] }

/-- A piece jumps up from its cell. -/
def lift (table : Table) (flight : Flight) : Table :=
  { table with
    pieces := table.pieces.modify flight.piece (·.setState .airborne)
    flights := table.flights ++ [flight] }

/-- A piece is captured: off the board, without a motion. -/
def remove (table : Table) (piece : PieceId) : Table :=
  { table with
    board := table.board.takeOff piece
    pieces := table.pieces.modify piece (·.setState .captured)
    motions := table.motions.filter fun motion => motion.piece ≠ piece }

/-- Whether a pawn that stops on the cell becomes a queen. -/
def promotes (table : Table) (piece : PieceId) (cell : Position) : Bool :=
  table.kindOf piece = .pawn &&
    ((table.colorOf piece = .white && decide (cell.row = 0)) ||
      (table.colorOf piece = .black && decide (cell.row = table.board.height - 1)))

/-- The piece after it has stopped. -/
def stopped (promoted : Bool) (source cell : Position) (eventTimeMs : Int) (piece : Piece) :
    Piece :=
  ((if promoted then piece.setKind .queen else piece).setState .idle).startCooldown eventTimeMs
    (source.distance cell * 1000)

/-- A piece in motion is put down on a cell. -/
def stop (table : Table) (piece : PieceId) (source cell : Position) (eventTimeMs : Int) : Table :=
  { table with
    board := table.board.commit piece source cell
    pieces := table.pieces.modify piece
      (stopped (table.promotes piece cell) source cell eventTimeMs)
    motions := table.motions.filter fun motion => motion.piece ≠ piece }

/-- A piece in motion enters its next cell. -/
def slide (table : Table) (piece : PieceId) (cell : Position) : Table :=
  { table with motions := RealTimeArbiter.updateMotionCellIn piece cell table.motions }

/-- The four board writes of a completed castle. -/
def castleBoard (board : Board) (castle : PendingCastle) : Board :=
  (((board.removePiece castle.kingSource).removePiece castle.rookSource).setPieceAt
    castle.kingDestination (some castle.king)).setPieceAt castle.rookDestination (some castle.rook)

/-- Both pieces of a castle are put down. -/
def finishCastle (table : Table) (castle : PendingCastle) (completedAt : Int) : Table :=
  { table with
    board := castleBoard table.board castle
    pieces := ((((table.pieces.modify castle.king (·.setState .idle)).modify castle.rook
      (·.setState .idle)).modify castle.king (·.startCooldown completedAt 2000)).modify castle.rook
        (·.startCooldown completedAt 2000))
    motions := (table.motions.filter fun motion => motion.piece ≠ castle.king).filter
      fun motion => motion.piece ≠ castle.rook
    castles := table.castles.erase castle }

/-- A piece in the air comes down on its cell. -/
def land (table : Table) (flight : Flight) (eventTimeMs shortCooldownMs : Int) : Table :=
  { table with
    pieces := table.pieces.modify flight.piece fun piece =>
      (piece.setState .idle).startCooldown eventTimeMs shortCooldownMs
    flights := table.flights.erase flight }

/-- A landing is dropped: its piece is no longer in the air over its cell. -/
def dropFlight (table : Table) (flight : Flight) : Table :=
  { table with flights := table.flights.erase flight }

/-- Do what a verdict says. -/
def apply (table : Table) (event : StepEvent) : StepVerdict → Table
  | .ignored => table
  | .castled castle => table.finishCastle castle event.eventTimeMs
  | .slid => table.slide event.piece event.toCell
  | .stopped source cell => table.stop event.piece source cell event.eventTimeMs
  | .lost _ => table.remove event.piece
  | .captured source target =>
      (table.remove target).stop event.piece source event.toCell event.eventTimeMs

/-! ### The state of the pieces after an operation -/

section States

variable (table : Table) (piece other : PieceId)

@[simp] theorem stateOf_mark : (table.mark piece).stateOf other = table.stateOf other := by
  simp only [stateOf, mark, Heap.get_modify]
  split
  · next same => rw [same]; rfl
  · rfl

@[simp] theorem stateOf_depart (motion : Motion) : (table.depart motion).stateOf other =
    if other = motion.piece then .moving else table.stateOf other := by
  simp only [stateOf, depart, Heap.get_modify]
  split <;> rfl

@[simp] theorem stateOf_lift (flight : Flight) : (table.lift flight).stateOf other =
    if other = flight.piece then .airborne else table.stateOf other := by
  simp only [stateOf, lift, Heap.get_modify]
  split <;> rfl

@[simp] theorem stateOf_remove : (table.remove piece).stateOf other =
    if other = piece then .captured else table.stateOf other := by
  simp only [stateOf, remove, Heap.get_modify]
  split <;> rfl

@[simp] theorem stateOf_stop (source cell : Position) (eventTimeMs : Int) :
    (table.stop piece source cell eventTimeMs).stateOf other =
      if other = piece then .idle else table.stateOf other := by
  simp only [stateOf, stop, Heap.get_modify]
  split <;> rfl

@[simp] theorem stateOf_slide (cell : Position) :
    (table.slide piece cell).stateOf other = table.stateOf other := rfl

@[simp] theorem stateOf_pend (castle : PendingCastle) :
    (table.pend castle).stateOf other = table.stateOf other := rfl

@[simp] theorem stateOf_finishCastle (castle : PendingCastle) (completedAt : Int) :
    (table.finishCastle castle completedAt).stateOf other =
      if other = castle.king ∨ other = castle.rook then .idle else table.stateOf other := by
  simp only [stateOf, finishCastle, Heap.get_modify]
  by_cases isRook : other = castle.rook
  · simp only [isRook, or_true, if_true, Piece.startCooldown_state, apply_ite Piece.state,
      Piece.setState_state, ite_self]
  · by_cases isKing : other = castle.king
    · simp only [isKing, true_or, if_true, Piece.startCooldown_state, apply_ite Piece.state,
        Piece.setState_state, ite_self]
    · simp only [isRook, isKing, or_self, if_false]

@[simp] theorem stateOf_land (flight : Flight) (eventTimeMs shortCooldownMs : Int) :
    (table.land flight eventTimeMs shortCooldownMs).stateOf other =
      if other = flight.piece then .idle else table.stateOf other := by
  simp only [stateOf, land, Heap.get_modify]
  split <;> rfl

end States

/-! ### Steady members -/

section Steady

variable {α : Type} {member : Piece → α} (steady : Piece.Steady member) (table : Table)
  (other : PieceId)

include steady

theorem steady_mark (piece : PieceId) :
    member ((table.mark piece).pieces.get other) = member (table.pieces.get other) := by
  simp only [mark]
  rw [Heap.member_modify member]
  rw [steady.markAsMoved]

theorem steady_depart (motion : Motion) :
    member ((table.depart motion).pieces.get other) = member (table.pieces.get other) := by
  simp only [depart]
  rw [Heap.member_modify member]
  rw [steady.setState]

theorem steady_lift (flight : Flight) :
    member ((table.lift flight).pieces.get other) = member (table.pieces.get other) := by
  simp only [lift]
  rw [Heap.member_modify member]
  rw [steady.setState]

theorem steady_remove (piece : PieceId) :
    member ((table.remove piece).pieces.get other) = member (table.pieces.get other) := by
  simp only [remove]
  rw [Heap.member_modify member]
  rw [steady.setState]

end Steady

/-! ### Lasting members -/

section Lasting

variable {α : Type} {member : Piece → α} (lasting : Piece.Lasting member) (table : Table)
  (other : PieceId)

include lasting

theorem lasting_stop (piece : PieceId) (source cell : Position) (eventTimeMs : Int) :
    member ((table.stop piece source cell eventTimeMs).pieces.get other) =
      member (table.pieces.get other) := by
  refine Heap.member_modify member table.pieces ?_ other
  rw [stopped, lasting.startCooldown, lasting.setState]
  split
  · next promoted =>
      simp only [promotes, Bool.and_eq_true, decide_eq_true_eq] at promoted
      exact lasting.promote _ promoted.1
  · rfl

theorem lasting_remove (piece : PieceId) :
    member ((table.remove piece).pieces.get other) = member (table.pieces.get other) :=
  steady_remove lasting.toSteady table other piece

theorem lasting_finishCastle (castle : PendingCastle) (completedAt : Int) :
    member ((table.finishCastle castle completedAt).pieces.get other) =
      member (table.pieces.get other) := by
  simp only [finishCastle]
  rw [Heap.member_modify member, Heap.member_modify member, Heap.member_modify member,
    Heap.member_modify member]
  · rw [lasting.setState]
  · rw [lasting.setState]
  · rw [lasting.startCooldown]
  · rw [lasting.startCooldown]

theorem lasting_land (flight : Flight) (eventTimeMs shortCooldownMs : Int) :
    member ((table.land flight eventTimeMs shortCooldownMs).pieces.get other) =
      member (table.pieces.get other) := by
  simp only [land]
  rw [Heap.member_modify member]
  rw [lasting.startCooldown, lasting.setState]

theorem lasting_apply (event : StepEvent) (verdict : StepVerdict) :
    member ((table.apply event verdict).pieces.get other) = member (table.pieces.get other) := by
  cases verdict with
  | ignored => rfl
  | castled castle => exact lasting_finishCastle lasting table other castle _
  | slid => rfl
  | stopped source cell => exact lasting_stop lasting table other _ source cell _
  | lost target => exact lasting_remove lasting table other _
  | captured source target =>
      exact (lasting_stop lasting _ other _ source _ _).trans
        (lasting_remove lasting table other target)

end Lasting

/-! ### The kinds -/

section Kinds

variable (table : Table) (piece other : PieceId)

theorem kindOf_mark : (table.mark other).kindOf piece = table.kindOf piece :=
  steady_mark Piece.steady_kind table piece other

theorem kindOf_depart (motion : Motion) :
    (table.depart motion).kindOf piece = table.kindOf piece :=
  steady_depart Piece.steady_kind table piece motion

theorem kindOf_lift (flight : Flight) : (table.lift flight).kindOf piece = table.kindOf piece :=
  steady_lift Piece.steady_kind table piece flight

theorem kindOf_remove : (table.remove other).kindOf piece = table.kindOf piece :=
  steady_remove Piece.steady_kind table piece other

theorem kindOf_land (flight : Flight) (eventTimeMs shortCooldownMs : Int) :
    (table.land flight eventTimeMs shortCooldownMs).kindOf piece = table.kindOf piece := by
  simp only [kindOf, land]
  rw [Heap.member_modify Piece.kind]
  rfl

theorem kindOf_finishCastle (castle : PendingCastle) (completedAt : Int) :
    (table.finishCastle castle completedAt).kindOf piece = table.kindOf piece := by
  simp only [finishCastle, kindOf]
  rw [Heap.member_modify Piece.kind, Heap.member_modify Piece.kind,
    Heap.member_modify Piece.kind, Heap.member_modify Piece.kind]
  all_goals rfl

/-- A piece that stops becomes no pawn. -/
theorem pawn_of_stop {source cell : Position} {eventTimeMs : Int}
    (pawn : (table.stop other source cell eventTimeMs).kindOf piece = .pawn) :
    table.kindOf piece = .pawn := by
  simp only [stop, kindOf, Heap.get_modify] at pawn
  split at pawn
  · next own =>
      rw [own]
      unfold stopped at pawn
      split at pawn
      · cases pawn
      · exact pawn
  · exact pawn

/-- **No verdict makes a pawn.** -/
theorem pawn_of_apply {event : StepEvent} {verdict : StepVerdict}
    (pawn : (table.apply event verdict).kindOf piece = .pawn) : table.kindOf piece = .pawn := by
  cases verdict with
  | ignored => exact pawn
  | castled castle => exact (kindOf_finishCastle ..).symm.trans pawn
  | slid => exact pawn
  | stopped source cell => exact table.pawn_of_stop _ _ pawn
  | lost target => exact (kindOf_remove ..).symm.trans pawn
  | captured source target => exact (kindOf_remove ..).symm.trans (pawn_of_stop _ _ _ pawn)

end Kinds

/-- Entering a cell first makes no difference to a piece that stops. -/
theorem slide_stop (table : Table) (piece : PieceId) (source first cell : Position)
    (eventTimeMs : Int) :
    (table.slide piece first).stop piece source cell eventTimeMs =
      table.stop piece source cell eventTimeMs := by
  simp only [stop, slide, RealTimeArbiter.filter_updateMotionCellIn]
  rfl

end Table

/-! ## The table of an engine -/

namespace GameEngine

/-- The table of an engine, with the landings that are emitted but not applied. -/
def view (engine : GameEngine) (landings : List JumpLandingEvent) : Table where
  board := engine.board
  pieces := engine.pieces
  motions := engine.realTime.activeMotions
  flights := engine.realTime.activeJumps.map Jump.flight ++ landings.map JumpLandingEvent.flight
  castles := engine.pendingCastles

section Bookkeeping

variable (engine : GameEngine) (landings : List JumpLandingEvent)

@[simp] theorem view_pushHistory (entry : MoveHistoryEntry) :
    (engine.pushHistory entry).view landings = engine.view landings := by
  unfold pushHistory
  split <;> rfl

@[simp] theorem view_recordMove (piece : PieceId) (kind : PieceKind) (source cell : Position)
    (wasCapture wasPromotion wasJump : Bool) (completedAtMs : Int) :
    (engine.recordMove piece kind source cell wasCapture wasPromotion wasJump
      completedAtMs).view landings = engine.view landings :=
  view_pushHistory engine landings _

@[simp] theorem view_publishMoveCompleted (entry : MoveHistoryEntry) (captured : Bool)
    (kind : PieceKind) (color : PieceColor) :
    (engine.publishMoveCompleted entry captured kind color).view landings =
      engine.view landings := rfl

@[simp] theorem view_announce (entry : MoveHistoryEntry) :
    (engine.announce entry).view landings = engine.view landings := by
  rw [announce, view_publishMoveCompleted, view_pushHistory]

@[simp] theorem view_publishLatestMove (piece : PieceId) (wasCapture : Bool)
    (capturedKind : PieceKind) (capturedColor : PieceColor) :
    (engine.publishLatestMove piece wasCapture capturedKind capturedColor).view landings =
      engine.view landings := by
  simp only [publishLatestMove]
  split <;> rfl

@[simp] theorem view_addCaptureScore (attackerColor : PieceColor) (capturedKind : PieceKind) :
    (engine.addCaptureScore attackerColor capturedKind).view landings = engine.view landings := by
  unfold addCaptureScore
  dsimp only
  split
  · rfl
  · split <;> rfl

@[simp] theorem view_endGame (winner : PieceColor) (reason : String) :
    (engine.endGame winner reason).view landings = engine.view landings := by
  unfold endGame
  split <;> rfl

end Bookkeeping

/-! ### Operations of the engine as operations of its table -/

section Placement

variable (engine : GameEngine) (landings : List JumpLandingEvent)

@[simp] theorem promotes_commitPieceToCell (piece other : PieceId)
    (source destination cell : Position) :
    (engine.commitPieceToCell other source destination).promotes piece cell =
      engine.promotes piece cell := by
  change (decide (engine.kindOf piece = .pawn) &&
    ((decide (engine.colorOf piece = .white) && decide (cell.row = 0)) ||
      (decide (engine.colorOf piece = .black) &&
        decide (cell.row = (engine.board.commit other source destination).height - 1)))) = _
  rw [Board.commit_height]
  rfl

theorem view_stopMovingPieceAt (piece : PieceId) (source cell : Position) (eventTimeMs : Int)
    (wasCapture : Bool) (capturedKind : PieceKind) (capturedColor : PieceColor) :
    (engine.stopMovingPieceAt piece source cell eventTimeMs wasCapture capturedKind
      capturedColor).view landings = (engine.view landings).stop piece source cell eventTimeMs := by
  have viewed : (engine.view landings).promotes piece cell = engine.promotes piece cell := rfl
  simp only [stopMovingPieceAt, promotePawnIfNeeded, promotes_commitPieceToCell,
    view_publishLatestMove, view_recordMove, Table.stop, viewed]
  cases engine.promotes piece cell with
  | true =>
      simp only [if_true, view, finishMotion, modifyPiece, setState, Heap.modify_modify]
      rfl
  | false =>
      simp only [Bool.false_eq_true, if_false, view, finishMotion, modifyPiece, setState,
        Heap.modify_modify]
      rfl

theorem view_updateMotionCell (piece : PieceId) (cell : Position) :
    (engine.updateMotionCell piece cell).view landings = (engine.view landings).slide piece cell :=
  rfl

theorem view_loseToAirborne (piece target : PieceId) :
    (engine.loseToAirborne piece target).view landings = (engine.view landings).remove piece := by
  simp only [loseToAirborne]
  split
  · simp only [view_endGame, view_addCaptureScore]
    rfl
  · simp only [view_addCaptureScore]
    rfl

theorem view_captureTarget (piece target : PieceId) (source : Position) (event : StepEvent) :
    (engine.captureTarget piece target source event).view landings =
      ((engine.view landings).remove target).stop piece source event.toCell event.eventTimeMs := by
  have removed : ∀ color kind, ((((((engine.setState target .captured).removePieceFromBoard
      target).cancelMotion target).addCaptureScore color kind).updateMotionCell piece
        event.toCell).view landings) =
      ((engine.view landings).remove target).slide piece event.toCell := by
    intro color kind
    rw [view_updateMotionCell, view_addCaptureScore]
    rfl
  simp only [captureTarget]
  split
  · rw [view_endGame, view_stopMovingPieceAt, removed, Table.slide_stop]
  · rw [view_stopMovingPieceAt, removed, Table.slide_stop]

theorem view_finishCastle (castle : PendingCastle) (completedAt : Int) :
    ({ engine.finishCastle castle completedAt with
        pendingCastles := (engine.finishCastle castle completedAt).pendingCastles.erase castle } :
      GameEngine).view landings = (engine.view landings).finishCastle castle completedAt := by
  have castles : (engine.finishCastle castle completedAt).pendingCastles =
      engine.pendingCastles := by
    simp only [finishCastle, announce, publishMoveCompleted, publish, pushHistory]
    split <;> rfl
  have viewed : (engine.finishCastle castle completedAt).view landings =
      { (engine.view landings).finishCastle castle completedAt with
        castles := engine.pendingCastles } := by
    rw [finishCastle, view_announce]
    rfl
  rw [castles]
  exact congrArg (fun table : Table => { table with
    castles := engine.pendingCastles.erase castle }) viewed

theorem view_startMotion (piece : PieceId) (source destination : Position) (stepDurationMs : Int)
    (forceDirectMove : Bool) :
    (engine.startMotion piece source destination stepDurationMs forceDirectMove).view landings =
      (engine.view landings).depart (engine.realTime.newMotion piece (engine.kindOf piece) source
        destination stepDurationMs forceDirectMove) :=
  rfl

theorem view_startJump (load : PieceConfigReader) (piece : PieceId) (cell : Position) :
    (engine.startJump load piece cell).view [] = (engine.view []).lift ⟨piece, cell⟩ := by
  simp only [startJump, view, Table.lift, List.map_nil, List.append_nil,
    RealTimeArbiter.startJump, List.map_append, List.map_cons, Jump.flight]
  rfl

end Placement

/-! ## The verdict on a step event -/

/-- What processing a step event comes to, decided before anything is changed. -/
def verdict (engine : GameEngine) (event : StepEvent) : StepVerdict :=
  let piece := event.piece
  if engine.stateOf piece ≠ .moving then .ignored
  else
    match engine.castleOf event with
    | some castle => .castled castle
    | none =>
        match engine.realTime.activeMotions.find? fun motion => motion.piece = piece with
        | none => .ignored
        | some motion =>
            if ¬ engine.board.isInside event.toCell then .stopped motion.source event.fromCell
            else
              match engine.findPieceAtRealOrVirtualCell event.toCell piece with
              | none =>
                  if event.reachedDestination then .stopped motion.source event.toCell else .slid
              | some target =>
                  if engine.colorOf target = engine.colorOf piece then
                    .stopped motion.source event.fromCell
                  else if engine.stateOf target = .airborne then .lost target
                  else .captured motion.source target

/-- The motion that a step event belongs to. -/
def Follows (engine : GameEngine) (event : StepEvent) (motion : Motion) : Prop :=
  engine.realTime.activeMotions.find? (fun motion => motion.piece = event.piece) = some motion

/-- What processing a step event leaves, for each verdict on it. -/
inductive Handled (engine : GameEngine) (event : StepEvent) : StepVerdict → GameEngine → Prop
  | ignored : Handled engine event .ignored engine
  | castled {castle : PendingCastle} (found : engine.castleOf event = some castle) :
      Handled engine event (.castled castle)
        { engine.finishCastle castle event.eventTimeMs with
          pendingCastles :=
            (engine.finishCastle castle event.eventTimeMs).pendingCastles.erase castle }
  | halted {motion : Motion} (follows : engine.Follows event motion) :
      Handled engine event (.stopped motion.source event.fromCell)
        (engine.stopMovingPieceAt event.piece motion.source event.fromCell event.eventTimeMs false)
  | arrived {motion : Motion} (follows : engine.Follows event motion)
      (inside : engine.board.isInside event.toCell) :
      Handled engine event (.stopped motion.source event.toCell)
        ((engine.updateMotionCell event.piece event.toCell).stopMovingPieceAt event.piece
          motion.source event.toCell event.eventTimeMs false)
  | slid (inside : engine.board.isInside event.toCell) :
      Handled engine event .slid (engine.updateMotionCell event.piece event.toCell)
  | lost (target : PieceId) :
      Handled engine event (.lost target) (engine.loseToAirborne event.piece target)
  | captured {motion : Motion} (target : PieceId) (follows : engine.Follows event motion)
      (inside : engine.board.isInside event.toCell) :
      Handled engine event (.captured motion.source target)
        (engine.captureTarget event.piece target motion.source event)

/-- **Processing a step event** does one of these. -/
theorem processStepEvent_handled (engine : GameEngine) (event : StepEvent) :
    engine.Handled event (engine.verdict event) (engine.processStepEvent event) := by
  simp only [processStepEvent, verdict, completeCastleFor]
  split
  · exact .ignored
  · cases found : engine.castleOf event with
    | some castle => exact .castled found
    | none =>
        simp only [Option.map_none]
        cases follows : engine.realTime.activeMotions.find?
            fun motion => motion.piece = event.piece with
        | none => exact .ignored
        | some motion =>
            simp only
            split
            · exact .halted follows
            · next onBoard =>
                have inside := not_not.mp onBoard
                cases engine.findPieceAtRealOrVirtualCell event.toCell event.piece with
                | none =>
                    simp only
                    split
                    · exact .arrived follows inside
                    · exact .slid inside
                | some target =>
                    simp only
                    split
                    · exact .halted follows
                    · split
                      · exact .lost target
                      · exact .captured target follows inside

/-- **Processing a step event does what its verdict says.** -/
theorem view_processStepEvent (engine : GameEngine) (landings : List JumpLandingEvent)
    (event : StepEvent) :
    (engine.processStepEvent event).view landings =
      (engine.view landings).apply event (engine.verdict event) := by
  have handled := engine.processStepEvent_handled event
  generalize engine.processStepEvent event = next, engine.verdict event = verdict at handled ⊢
  cases handled with
  | ignored => rfl
  | @castled castle found => exact view_finishCastle engine landings castle event.eventTimeMs
  | halted follows => exact view_stopMovingPieceAt ..
  | arrived follows inside =>
      rw [view_stopMovingPieceAt, view_updateMotionCell, Table.slide_stop]
      rfl
  | slid inside => rfl
  | lost target => exact view_loseToAirborne ..
  | captured target follows inside => exact view_captureTarget ..

/-! ## Landings and the advance of the clock -/

/-- Whether a landing event still finds its piece in the air over its cell. -/
def Lands (engine : GameEngine) (event : JumpLandingEvent) : Prop :=
  engine.stateOf event.piece = .airborne ∧ engine.board.getPieceAt event.cell = some event.piece

instance (engine : GameEngine) (event : JumpLandingEvent) : Decidable (engine.Lands event) :=
  inferInstanceAs (Decidable (_ ∧ _))

/-- The cooldown a landing piece starts. -/
def landingCooldown (load : PieceConfigReader) (engine : GameEngine) (piece : PieceId) : Int :=
  (load (engine.pieces.get piece).token "jump").shortCooldownMs

theorem view_processJumpLanding (load : PieceConfigReader) (engine : GameEngine)
    (event : JumpLandingEvent) (landings : List JumpLandingEvent)
    (fresh : event.flight ∉ engine.realTime.activeJumps.map Jump.flight) :
    (engine.processJumpLanding load event).view landings =
      if engine.Lands event then
        (engine.view (event :: landings)).land event.flight event.eventTimeMs
          (engine.landingCooldown load event.piece)
      else (engine.view (event :: landings)).dropFlight event.flight := by
  have erased : ((engine.view (event :: landings)).flights.erase event.flight) =
      (engine.view landings).flights := by
    simp only [view, List.map_cons, List.erase_append_right _ fresh, List.erase_cons_head]
  have dropped : engine.view landings =
      (engine.view (event :: landings)).dropFlight event.flight := by
    rw [Table.dropFlight, erased]
    rfl
  simp only [processJumpLanding, Lands, ne_eq, ite_not]
  by_cases airborne : engine.stateOf event.piece = .airborne
  · by_cases here : engine.board.getPieceAt event.cell = some event.piece
    · simp only [airborne, here, and_self, if_true]
      rw [view_announce, Table.land, erased]
      simp only [view, setState, modifyPiece, Heap.modify_modify, landingCooldown,
        Heap.get_modify_self, Piece.setState_token]
      rfl
    · simp only [airborne, here, and_false, if_true, if_false]
      exact dropped
  · simp only [airborne, false_and, if_false]
    exact dropped

/-- **An advance of the clock** drops the motions of pieces that are not moving,
and turns jumps into landings. -/
theorem view_advanceTime (engine : GameEngine) {ms : Int} (elapsed : 0 ≤ ms) :
    ∃ flights, flights.Perm (engine.view []).flights ∧
      (engine.advanceTime ms).2.view (engine.advanceTime ms).1.jumpLandings =
        { engine.view [] with
          motions := engine.realTime.activeMotions.filter
            fun motion => engine.stateOf motion.piece = .moving
          flights := flights } := by
  let now := engine.realTime.currentTimeMs + ms
  refine ⟨((engine.realTime.activeJumps.filter fun jump => ¬ jump.finishTimeMs ≤ now).map
    Jump.flight) ++ ((engine.realTime.activeJumps.filter fun jump => jump.finishTimeMs ≤ now).map
      Jump.landingEvent).map JumpLandingEvent.flight, ?_, ?_⟩
  · rw [List.map_map]
    change List.Perm (_ ++ List.map Jump.flight _) (List.map Jump.flight _ ++ [])
    rw [List.append_nil, ← List.map_append]
    refine List.Perm.map _ (List.perm_append_comm.trans ?_)
    simpa only [decide_not] using List.filter_append_perm (fun jump : Jump =>
      decide (jump.finishTimeMs ≤ now)) engine.realTime.activeJumps
  · simp only [advanceTime, RealTimeArbiter.advanceTime, not_lt.mpr elapsed, if_false]
    rfl

end GameEngine

end KungFuChess

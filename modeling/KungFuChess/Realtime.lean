import KungFuChess.Core.Board
import Mathlib.Data.List.Sort

/-!
# The real-time arbiter

The arbiter keeps the clock, the motions and the jumps. A motion advances one
cell at each of its step times; when the clock has passed the step time, the
arbiter emits an event and leaves it to the engine whether the step happens. A
motion emits at most one event in one advance: the engine's answer decides where
the next one starts.

A motion carries the proof that its step duration is positive: `startMotion`
replaces every other duration by one millisecond, and no other function makes a
motion.
-/

set_option autoImplicit false

namespace KungFuChess

structure Motion where
  piece : PieceId
  source : Position
  destination : Position
  currentCell : Position
  rowStep : Int
  colStep : Int
  directMove : Bool
  stepDurationMs : Int
  nextStepTimeMs : Int
  order : Nat
  stepPositive : 0 < stepDurationMs
  deriving DecidableEq

structure Jump where
  piece : PieceId
  cell : Position
  finishTimeMs : Int
  deriving DecidableEq, Repr

structure StepEvent where
  piece : PieceId
  source : Position
  fromCell : Position
  toCell : Position
  reachedDestination : Bool
  eventTimeMs : Int
  order : Nat
  deriving DecidableEq, Repr

structure JumpLandingEvent where
  piece : PieceId
  cell : Position
  eventTimeMs : Int
  deriving DecidableEq, Repr

structure TimeEvents where
  steps : List StepEvent := []
  jumpLandings : List JumpLandingEvent := []
  deriving DecidableEq, Repr

/-- Nothing is due: the condition on which the engine's loop ends. -/
def TimeEvents.isEmpty (events : TimeEvents) : Bool :=
  events.steps.isEmpty && events.jumpLandings.isEmpty

structure RealTimeArbiter where
  currentTimeMs : Int := 0
  activeMotions : List Motion := []
  activeJumps : List Jump := []
  nextMotionOrder : Nat := 0
  deriving DecidableEq

/-! ## Events -/

/-- The cell a motion enters at its next step. -/
def Motion.nextCell (motion : Motion) : Position :=
  if motion.directMove then motion.destination
  else ⟨motion.currentCell.row + motion.rowStep, motion.currentCell.col + motion.colStep⟩

/-- The event a due motion emits. -/
def Motion.stepEvent (motion : Motion) : StepEvent where
  piece := motion.piece
  source := motion.source
  fromCell := motion.currentCell
  toCell := motion.nextCell
  reachedDestination := motion.nextCell = motion.destination
  eventTimeMs := motion.nextStepTimeMs
  order := motion.order

/-- A motion on its next cell; its next step is due one step duration later. -/
def Motion.moveOn (motion : Motion) (cell : Position) : Motion :=
  { motion with
    currentCell := cell
    nextStepTimeMs := motion.nextStepTimeMs + motion.stepDurationMs }

/-- The event a finished jump emits. -/
def Jump.landingEvent (jump : Jump) : JumpLandingEvent where
  piece := jump.piece
  cell := jump.cell
  eventTimeMs := jump.finishTimeMs

/-- The order of the steps of one advance: by due time, then by start order. -/
def StepEvent.Before (first second : StepEvent) : Prop :=
  first.eventTimeMs < second.eventTimeMs ∨
    (first.eventTimeMs = second.eventTimeMs ∧ first.order ≤ second.order)

instance : DecidableRel StepEvent.Before := fun _ _ => inferInstanceAs (Decidable (_ ∨ _))

namespace RealTimeArbiter

/-! ## Starting motions and jumps -/

def signValue (value : Int) : Int :=
  if value > 0 then 1 else if value < 0 then -1 else 0

/-- The motion a start makes: its first step is due one step duration from now. -/
def newMotion (arbiter : RealTimeArbiter) (piece : PieceId) (kind : PieceKind)
    (source destination : Position) (stepDurationMs : Int) (forceDirectMove : Bool) : Motion :=
  let duration : Int := if stepDurationMs ≤ 0 then 1 else stepDurationMs
  { piece := piece
    source := source
    destination := destination
    currentCell := source
    rowStep := signValue (destination.row - source.row)
    colStep := signValue (destination.col - source.col)
    directMove := forceDirectMove || kind = .knight
    stepDurationMs := duration
    nextStepTimeMs := arbiter.currentTimeMs + duration
    order := arbiter.nextMotionOrder
    stepPositive := by simp only [duration]; split <;> omega }

/-- `startMotion` without its write to the piece, which the engine applies to
the heap. -/
def startMotion (arbiter : RealTimeArbiter) (piece : PieceId) (kind : PieceKind)
    (source destination : Position) (stepDurationMs : Int) (forceDirectMove : Bool) :
    RealTimeArbiter :=
  { arbiter with
    activeMotions := arbiter.activeMotions ++
      [arbiter.newMotion piece kind source destination stepDurationMs forceDirectMove]
    nextMotionOrder := arbiter.nextMotionOrder + 1 }

/-- `startJump` without its write to the piece. -/
def startJump (arbiter : RealTimeArbiter) (piece : PieceId) (cell : Position)
    (jumpDurationMs : Int) : RealTimeArbiter :=
  let duration : Int := if jumpDurationMs ≤ 0 then 1 else jumpDurationMs
  { arbiter with
    activeJumps := arbiter.activeJumps ++
      [{ piece := piece, cell := cell, finishTimeMs := arbiter.currentTimeMs + duration }] }

/-! ## Advancing the clock -/

/-- Whether a motion emits an event when the clock shows `now`. -/
def IsDue (pieces : Heap) (now : Int) (motion : Motion) : Prop :=
  (pieces.get motion.piece).state = .moving ∧ motion.nextStepTimeMs ≤ now

instance (pieces : Heap) (now : Int) : DecidablePred (IsDue pieces now) :=
  fun _ => inferInstanceAs (Decidable (_ ∧ _))

/-- The events due at `now`: the steps in their order, the landings in the order
their jumps were started. -/
def dueEvents (arbiter : RealTimeArbiter) (pieces : Heap) (now : Int) : TimeEvents where
  steps :=
    (((arbiter.activeMotions.filter (IsDue pieces now)).map Motion.stepEvent).insertionSort
      StepEvent.Before)
  jumpLandings :=
    (arbiter.activeJumps.filter fun jump => jump.finishTimeMs ≤ now).map Jump.landingEvent

/-- What stays after the events due at `now` were emitted: the unfinished jumps,
and the motions of pieces that are still moving. -/
def afterEvents (arbiter : RealTimeArbiter) (pieces : Heap) (now : Int) : RealTimeArbiter :=
  { arbiter with
    currentTimeMs := now
    activeMotions :=
      arbiter.activeMotions.filter fun motion => (pieces.get motion.piece).state = .moving
    activeJumps := arbiter.activeJumps.filter fun jump => ¬ jump.finishTimeMs ≤ now }

def advanceTime (arbiter : RealTimeArbiter) (pieces : Heap) (ms : Int) :
    TimeEvents × RealTimeArbiter :=
  if ms < 0 then ({}, arbiter)
  else
    let now := arbiter.currentTimeMs + ms
    (arbiter.dueEvents pieces now, arbiter.afterEvents pieces now)

/-! ## Confirming and ending motions -/

/-- The first motion of the piece moves on to `cell`. -/
def updateMotionCellIn (piece : PieceId) (cell : Position) : List Motion → List Motion
  | [] => []
  | motion :: rest =>
      if motion.piece = piece then motion.moveOn cell :: rest
      else motion :: updateMotionCellIn piece cell rest

theorem map_piece_updateMotionCellIn (piece : PieceId) (cell : Position) (motions : List Motion) :
    (updateMotionCellIn piece cell motions).map Motion.piece = motions.map Motion.piece := by
  induction motions with
  | nil => rfl
  | cons motion rest ih =>
      rw [updateMotionCellIn]
      split
      · rfl
      · rw [List.map_cons, List.map_cons, ih]

/-- Moving on changes nothing about the motions of other pieces. -/
theorem filter_updateMotionCellIn (piece : PieceId) (cell : Position) (motions : List Motion) :
    (updateMotionCellIn piece cell motions).filter (fun motion => motion.piece ≠ piece) =
      motions.filter fun motion => motion.piece ≠ piece := by
  induction motions with
  | nil => rfl
  | cons motion rest ih =>
      rw [updateMotionCellIn]
      split
      · next own => simp only [List.filter_cons, Motion.moveOn, own, ne_eq, not_true_eq_false,
          decide_false, Bool.false_eq_true, if_false]
      · next other => simp only [List.filter_cons, ih]

/-- When no piece has two motions, moving on changes exactly the motion of the
piece. -/
theorem updateMotionCellIn_eq_map {motions : List Motion}
    (distinct : (motions.map Motion.piece).Nodup) (piece : PieceId) (cell : Position) :
    updateMotionCellIn piece cell motions =
      motions.map fun motion => if motion.piece = piece then motion.moveOn cell else motion := by
  induction motions with
  | nil => rfl
  | cons motion rest ih =>
      rw [List.map_cons, List.nodup_cons] at distinct
      rw [updateMotionCellIn, List.map_cons]
      split
      · next own =>
          have others : ∀ other ∈ rest, other.piece ≠ piece := fun other member same =>
            distinct.1 (own.trans same.symm ▸ List.mem_map_of_mem member)
          rw [List.cons_inj_right]
          exact (List.map_id'' (fun _ => rfl) rest).symm.trans
            (List.map_congr_left fun other member => (if_neg (others other member)).symm)
      · rw [ih distinct.2]

def updateMotionCell (arbiter : RealTimeArbiter) (piece : PieceId) (cell : Position) :
    RealTimeArbiter :=
  { arbiter with activeMotions := updateMotionCellIn piece cell arbiter.activeMotions }

def cancelMotion (arbiter : RealTimeArbiter) (piece : PieceId) : RealTimeArbiter :=
  { arbiter with
    activeMotions := arbiter.activeMotions.filter fun motion => motion.piece ≠ piece }

def finishMotion (arbiter : RealTimeArbiter) (piece : PieceId) : RealTimeArbiter :=
  arbiter.cancelMotion piece

end RealTimeArbiter

end KungFuChess

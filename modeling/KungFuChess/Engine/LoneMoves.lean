import KungFuChess.Engine.Diagrams
import KungFuChess.Engine.Flights
import KungFuChess.Rules.Courses

/-!
# Lone moves

While nothing else moves, a move of the engine is a move of chess. The engine makes
it step by step: every step is an event of its own, which searches the cell it
enters and either moves the piece on or puts it down. `GameEngine.Underway` says what
the engine looks like between two of these steps, and the last step ends in the
position that classical chess reaches at once.
-/

set_option autoImplicit false

namespace KungFuChess

namespace Table

/-- Whether a pawn becomes a queen depends on its colour and on the height of the board. -/
theorem promotes_congr {first second : Table} {piece : PieceId}
    (height : first.board.height = second.board.height)
    (color : first.colorOf piece = second.colorOf piece)
    (kind : first.kindOf piece = second.kindOf piece) (cell : Position) :
    first.promotes piece cell = second.promotes piece cell := by
  simp only [promotes, height, color, kind]

end Table

/-! ## The motion of a lone move -/

/-- A motion that has reached a cell after some of its steps. -/
def Motion.after (motion : Motion) (cell : Position) (steps : Nat) : Motion :=
  { motion with
    currentCell := cell
    nextStepTimeMs := motion.nextStepTimeMs + steps * motion.stepDurationMs }

theorem Motion.after_zero (motion : Motion) : motion.after motion.currentCell 0 = motion := by
  simp only [after, Nat.cast_zero, Int.zero_mul, Int.add_zero]

theorem Motion.after_moveOn (motion : Motion) (cell next : Position) (steps : Nat) :
    (motion.after cell steps).moveOn next = motion.after next (steps + 1) := by
  simp only [after, moveOn, Nat.cast_succ, Int.add_mul, Int.one_mul, Int.add_assoc]

theorem RealTimeArbiter.signValue_sub (source destination : Int) :
    signValue (destination - source) = PieceRules.stepToward source destination := by
  unfold signValue PieceRules.stepToward
  split
  · rw [if_pos (by omega)]
  · split
    · rw [if_neg (by omega), if_pos (by omega)]
    · rw [if_neg (by omega), if_neg (by omega)]

/-- **A motion follows the cells of its move.** -/
theorem RealTimeArbiter.nextCell_newMotion (arbiter : RealTimeArbiter) (piece : PieceId)
    (kind : PieceKind) (source destination : Position) (stepDurationMs : Int) (step : Nat) :
    ((arbiter.newMotion piece kind source destination stepDurationMs false).after
      (PieceRules.cellOf kind source destination step) step).nextCell =
        PieceRules.cellOf kind source destination (step + 1) := by
  unfold Motion.nextCell PieceRules.cellOf
  by_cases knight : kind = .knight
  · simp only [Motion.after, newMotion, knight, decide_true, Bool.or_true, if_true,
      Nat.succ_ne_zero, if_false]
  · simp only [Motion.after, newMotion, knight, decide_false, Bool.or_false, Bool.false_eq_true,
      if_false, signValue_sub, Position.along_succ, Position.toward]

/-! ## Between the steps -/

namespace GameEngine

/-- A move that may start while nothing is under way. -/
structure Lone (engine : GameEngine) (piece : PieceId) (source destination : Position) : Prop where
  coherent : (engine.view []).Coherent
  perched : (engine.view []).Perched
  motions : engine.realTime.activeMotions = []
  jumps : engine.realTime.activeJumps = []
  checked : engine.MoveChecked piece source destination

/-- The table of a lone move after some of its steps. -/
def tableAfter (load : PieceConfigReader) (engine : GameEngine) (piece : PieceId)
    (source destination : Position) (step : Nat) : Table :=
  { (engine.startMove load piece source destination).view [] with
    motions := [(engine.moveMotion load piece source destination).after
      (PieceRules.cellOf (engine.kindOf piece) source destination step) step] }

/-- The event a lone move emits next. -/
def eventAfter (load : PieceConfigReader) (engine : GameEngine) (piece : PieceId)
    (source destination : Position) (step : Nat) : StepEvent :=
  ((engine.moveMotion load piece source destination).after
    (PieceRules.cellOf (engine.kindOf piece) source destination step) step).stepEvent

theorem toCell_eventAfter (load : PieceConfigReader) (engine : GameEngine) (piece : PieceId)
    (source destination : Position) (step : Nat) :
    (engine.eventAfter load piece source destination step).toCell =
      PieceRules.cellOf (engine.kindOf piece) source destination (step + 1) :=
  RealTimeArbiter.nextCell_newMotion ..

section TableAfter

variable (load : PieceConfigReader) (engine : GameEngine) (piece : PieceId)
  (source destination : Position) (step : Nat) (other : PieceId)

theorem stateOf_tableAfter :
    (engine.tableAfter load piece source destination step).stateOf other =
      if other = piece then .moving else engine.stateOf other :=
  stateOf_startMove load engine other piece source destination

theorem kindOf_tableAfter :
    (engine.tableAfter load piece source destination step).kindOf other = engine.kindOf other := by
  change ((engine.startMove load piece source destination).view []).kindOf other = _
  rw [view_startMove, Table.kindOf_depart, Table.kindOf_mark]
  rfl

theorem colorOf_tableAfter :
    (engine.tableAfter load piece source destination step).colorOf other =
      engine.colorOf other := by
  have started := view_startMove load engine piece source destination
  refine (congrArg (fun table : Table => table.colorOf other) started).trans ?_
  exact (Table.steady_depart Piece.lasting_color.toSteady _ other _).trans
    (Table.steady_mark Piece.lasting_color.toSteady _ other piece)

theorem promotes_tableAfter :
    (engine.tableAfter load piece source destination step).promotes piece destination =
      engine.promotes piece destination := by
  change _ = (engine.view []).promotes piece destination
  refine Table.promotes_congr ?_ ?_ ?_ destination
  · rfl
  · exact colorOf_tableAfter ..
  · exact kindOf_tableAfter ..

theorem pieces_tableAfter :
    (engine.tableAfter load piece source destination step).pieces.get piece =
      (engine.pieces.get piece).markAsMoved.setState .moving := by
  change ((engine.startMove load piece source destination).view []).pieces.get piece = _
  rw [view_startMove]
  simp only [Table.depart, Table.mark, moveMotion, RealTimeArbiter.newMotion, Heap.get_modify_self]
  rfl

theorem pieces_tableAfter_of_ne (apart : other ≠ piece) :
    (engine.tableAfter load piece source destination step).pieces.get other =
      engine.pieces.get other := by
  change ((engine.startMove load piece source destination).view []).pieces.get other = _
  rw [view_startMove]
  simp only [Table.depart, Table.mark, moveMotion, RealTimeArbiter.newMotion]
  rw [Heap.get_modify_of_ne _ _ apart, Heap.get_modify_of_ne _ _ apart]
  rfl

/-- What the piece meets stands on the grid. -/
theorem standing_of_occupies {load : PieceConfigReader} {engine : GameEngine} {piece : PieceId}
    {source destination : Position} {step : Nat} {other : PieceId} {cell : Position}
    (apart : other ≠ piece)
    (met : (engine.tableAfter load piece source destination step).Occupies other cell) :
    engine.board.getPieceAt cell = some other := by
  rcases met with ⟨motion, member, own, _⟩ | ⟨_, here⟩
  · rw [List.mem_singleton.mp member] at own
    exact absurd own.symm apart
  · exact here

/-- Sliding on takes one step. -/
theorem slide_tableAfter :
    (engine.tableAfter load piece source destination step).slide piece
        (engine.eventAfter load piece source destination step).toCell =
      engine.tableAfter load piece source destination (step + 1) := by
  rw [toCell_eventAfter]
  have own : ((engine.moveMotion load piece source destination).after
    (PieceRules.cellOf (engine.kindOf piece) source destination step) step).piece = piece := rfl
  simp only [tableAfter, Table.slide, RealTimeArbiter.updateMotionCellIn, own, if_true,
    Motion.after_moveOn]

end TableAfter

namespace Lone

variable {load : PieceConfigReader} {engine : GameEngine} {piece : PieceId}
  {source destination : Position} {step : Nat}

theorem idle (lone : engine.Lone piece source destination) {cell : Position} {other : PieceId}
    (here : engine.board.getPieceAt cell = some other) : engine.stateOf other = .idle :=
  idle_of_still lone.coherent lone.perched lone.motions lone.jumps here

theorem course (lone : engine.Lone piece source destination) :
    PieceRules.Course engine.board source destination
      (PieceRules.stepsOf (engine.kindOf piece) source destination)
      (PieceRules.cellOf (engine.kindOf piece) source destination) :=
  PieceRules.course_of_legal lone.checked.here lone.checked.legal.1 lone.checked.legal.2.2

/-- The piece stands on its cell only. -/
theorem source_iff (lone : engine.Lone piece source destination) (cell : Position) :
    engine.board.getPieceAt cell = some piece ↔ cell = source := by
  constructor
  · exact fun here => lone.coherent.oneCell here lone.checked.here
  · rintro rfl
    exact lone.checked.here

/-- The table of an accepted move, before its first step. -/
theorem tableAfter_zero (lone : engine.Lone piece source destination) :
    (engine.startMove load piece source destination).view [] =
      engine.tableAfter load piece source destination 0 := by
  have start : PieceRules.cellOf (engine.kindOf piece) source destination 0 =
      (engine.moveMotion load piece source destination).currentCell := lone.course.start
  rw [tableAfter, start, Motion.after_zero, view_startMove]
  simp only [Table.depart, Table.mark, view, lone.motions, List.nil_append]

/-- Nothing else moves. -/
theorem moving_iff (lone : engine.Lone piece source destination) {other : PieceId} :
    (engine.tableAfter load piece source destination step).stateOf other = .moving ↔
      other = piece := by
  rw [stateOf_tableAfter]
  split
  · next same => exact iff_of_true rfl same
  · next apart =>
      refine iff_of_false (fun moving => ?_) apart
      obtain ⟨motion, member, _⟩ := (lone.coherent.moving other).mp moving
      have member : motion ∈ engine.realTime.activeMotions := member
      rw [lone.motions] at member
      exact absurd member List.not_mem_nil

theorem free (lone : engine.Lone piece source destination) :
    (engine.tableAfter load piece source destination step).Free piece :=
  lone.coherent.free_of_idle lone.checked.idle

end Lone

/-- The verdict on the last step of a lone move. -/
def lastVerdict (engine : GameEngine) (source destination : Position) : StepVerdict :=
  match engine.board.getPieceAt destination with
  | none => .stopped source destination
  | some target => .captured source target

namespace Lone

variable {load : PieceConfigReader} {engine : GameEngine} {piece : PieceId}
  {source destination : Position} {step : Nat}

/-- **Every step of a lone move goes on, or ends on the destination**, where it captures what
stands there. -/
theorem steps_of_judged (lone : engine.Lone piece source destination)
    (before : step < PieceRules.stepsOf (engine.kindOf piece) source destination)
    {verdict : StepVerdict}
    (judged : (engine.tableAfter load piece source destination step).Judged
      (engine.eventAfter load piece source destination step) verdict) :
    (step + 1 < PieceRules.stepsOf (engine.kindOf piece) source destination ∧ verdict = .slid) ∨
      (step + 1 = PieceRules.stepsOf (engine.kindOf piece) source destination ∧
        verdict = engine.lastVerdict source destination) := by
  have course := lone.course
  have cell := toCell_eventAfter load engine piece source destination step
  have reaches : (engine.eventAfter load piece source destination step).reachedDestination = true ↔
      step + 1 = PieceRules.stepsOf (engine.kindOf piece) source destination := by
    refine decide_eq_true_iff.trans (Iff.trans ?_ (course.arrives before))
    exact iff_of_eq (congrArg (· = destination) cell)
  have origin : ∀ motion, (engine.tableAfter load piece source destination step).Stepping
      (engine.eventAfter load piece source destination step) motion →
        motion.source = source := fun motion stepping => by
    rw [List.mem_singleton.mp stepping.member]
    rfl
  have meets : ∀ target, target ≠ piece →
      (engine.tableAfter load piece source destination step).Occupies target
        (engine.eventAfter load piece source destination step).toCell →
      step + 1 = PieceRules.stepsOf (engine.kindOf piece) source destination ∧
        engine.board.getPieceAt destination = some target := by
    intro target apart met
    have here := standing_of_occupies apart met
    rw [cell] at here
    have last := course.meets before here
    rw [last, course.goal] at here
    exact ⟨last, here⟩
  cases judged with
  | ignored resting =>
      refine absurd ?_ resting
      rw [stateOf_tableAfter]
      exact if_pos rfl
  | castled moving pending part => exact absurd part (lone.free _ pending)
  | slid stepping inside clear onward =>
      have short := mt reaches.mpr onward
      exact .inl ⟨by omega, rfl⟩
  | arrived stepping inside clear reached =>
      have last := reaches.mp reached
      refine .inr ⟨last, ?_⟩
      rw [origin _ stepping, cell, last, course.goal, lastVerdict]
      cases here : engine.board.getPieceAt destination with
      | none => rfl
      | some other =>
          have apart : other ≠ piece := fun same =>
            lone.checked.legal.2.1 other here (same ▸ rfl)
          refine absurd (.inr ⟨?_, ?_⟩) (clear other apart)
          · rw [stateOf_tableAfter, if_neg apart, lone.idle here]
            exact PieceState.noConfusion
          · rw [cell, last, course.goal]
            exact here
  | halted stepping blocked =>
      rcases blocked with outside | ⟨target, apart, met, friend⟩
      · refine absurd ?_ outside
        rw [cell]
        exact course.inside (step + 1) before
      · obtain ⟨_, here⟩ := meets target apart met
        rw [colorOf_tableAfter, colorOf_tableAfter] at friend
        exact absurd friend (lone.checked.legal.2.1 target here)
  | @lost _ target stepping inside apart met enemy airborne =>
      have apart : target ≠ piece := apart
      obtain ⟨_, here⟩ := meets target apart met
      rw [stateOf_tableAfter, if_neg apart, lone.idle here] at airborne
      cases airborne
  | captured stepping inside apart met enemy grounded =>
      obtain ⟨last, here⟩ := meets _ apart met
      refine .inr ⟨last, ?_⟩
      rw [origin _ stepping, lastVerdict, here]

end Lone

/-! ## The last step -/

/-- The time at which a lone move ends. -/
def finishOf (load : PieceConfigReader) (engine : GameEngine) (piece : PieceId)
    (source destination : Position) : Int :=
  engine.getCurrentTimeMs + PieceRules.stepsOf (engine.kindOf piece) source destination *
    (engine.moveMotion load piece source destination).stepDurationMs

theorem eventTime_eventAfter (load : PieceConfigReader) (engine : GameEngine) (piece : PieceId)
    (source destination : Position) (step : Nat) :
    (engine.eventAfter load piece source destination step).eventTimeMs =
      engine.getCurrentTimeMs +
        (step + 1) * (engine.moveMotion load piece source destination).stepDurationMs := by
  have first : (engine.moveMotion load piece source destination).nextStepTimeMs =
      engine.getCurrentTimeMs +
        (engine.moveMotion load piece source destination).stepDurationMs := rfl
  simp only [eventAfter, Motion.stepEvent, Motion.after, first, Int.add_mul, Int.one_mul]
  omega

/-- The game is over after a step event exactly when it was, or a king has fallen. -/
theorem gameOver_processStepEvent {engine : GameEngine} (ongoing : engine.gameOver = false)
    (event : StepEvent) : (engine.processStepEvent event).gameOver = true ↔
      ∃ piece, (engine.verdict event).fallen event = some piece ∧ engine.kindOf piece = .king := by
  have booked := processStepEvent_booked engine event
  change (engine.processStepEvent event).ledger.gameOver = true ↔ _
  generalize (engine.processStepEvent event).ledger = ledger at booked ⊢
  have before : engine.ledger.gameOver = false := ongoing
  cases booked with
  | peaceful unharmed =>
      rw [before, unharmed]
      simp only [Bool.false_eq_true, reduceCtorEq, false_and, exists_false]
  | taken falls common =>
      rw [before, falls]
      simp only [Bool.false_eq_true, Option.some.injEq, exists_eq_left', common]
  | ended falls king decided winner =>
      simp only [Ledger.close, before, Bool.false_eq_true, if_false, falls, Option.some.injEq,
        exists_eq_left', king]

/-- A table without the piece that stands on the destination, if any does. -/
def vacate (table : Table) : Option PieceId → Table
  | none => table
  | some target => table.remove target

section Vacate

variable (table : Table) (occupant : Option PieceId) (piece : PieceId)

theorem vacate_height : (vacate table occupant).board.height = table.board.height := by
  cases occupant with
  | none => rfl
  | some target => exact Board.takeOff_height table.board target

theorem vacate_inside (cell : Position) :
    (vacate table occupant).board.isInside cell ↔ table.board.isInside cell := by
  cases occupant with
  | none => exact Iff.rfl
  | some target => exact Board.isInside_takeOff table.board target cell

theorem vacate_flights : (vacate table occupant).flights = table.flights := by
  cases occupant <;> rfl

theorem vacate_motions : (vacate table occupant).motions.Sublist table.motions := by
  cases occupant with
  | none => exact List.Sublist.refl _
  | some target => exact List.filter_sublist

/-- The other pieces are as before. -/
theorem vacate_pieces (other : occupant ≠ some piece) :
    (vacate table occupant).pieces.get piece = table.pieces.get piece := by
  cases occupant with
  | none => rfl
  | some target =>
      have apart : piece ≠ target := fun same => other (congrArg some same.symm)
      exact Heap.get_modify_of_ne table.pieces (·.setState .captured) apart

/-- The piece itself is captured. -/
theorem vacate_taken : (vacate table (some piece)).pieces.get piece =
    (table.pieces.get piece).setState .captured :=
  Heap.get_modify_self table.pieces piece (·.setState .captured)

/-- Only the cell of the piece changes. -/
theorem vacate_elsewhere (oneCell : table.board.OneCell) {destination cell : Position}
    (other : cell ≠ destination) :
    (vacate table (table.board.getPieceAt destination)).board.getPieceAt cell =
      table.board.getPieceAt cell := by
  cases here : table.board.getPieceAt destination with
  | none => rfl
  | some target =>
      refine (Board.getPieceAt_takeOff oneCell target cell).trans (if_neg fun same => ?_)
      exact other (oneCell same here)

/-- The cell of the piece is empty. -/
theorem vacate_destination (oneCell : table.board.OneCell) (destination : Position) :
    (vacate table (table.board.getPieceAt destination)).board.getPieceAt destination = none := by
  cases here : table.board.getPieceAt destination with
  | none => exact here
  | some target => exact (Board.getPieceAt_takeOff oneCell target destination).trans (if_pos here)

theorem vacate_promotes (cell : Position) :
    (vacate table occupant).promotes piece cell = table.promotes piece cell := by
  cases occupant with
  | none => rfl
  | some target =>
      exact Table.promotes_congr (Board.takeOff_height table.board target)
        (Table.lasting_remove Piece.lasting_color table piece target) (Table.kindOf_remove ..) cell

end Vacate

/-! ### What the last verdict comes to -/

section LastVerdict

variable {engine : GameEngine} {source destination : Position} {event : StepEvent}

theorem apply_lastVerdict (reaches : event.toCell = destination) (table : Table) :
    table.apply event (engine.lastVerdict source destination) =
      (vacate table (engine.board.getPieceAt destination)).stop event.piece source destination
        event.eventTimeMs := by
  unfold lastVerdict
  cases engine.board.getPieceAt destination with
  | none => rfl
  | some target => rw [← reaches]; rfl

theorem fallen_lastVerdict :
    (engine.lastVerdict source destination).fallen event =
      engine.board.getPieceAt destination := by
  unfold lastVerdict
  cases engine.board.getPieceAt destination with
  | none => rfl
  | some target => rfl

theorem stepEntry_lastVerdict (reaches : event.toCell = destination) (current : GameEngine) :
    current.stepEntry event (engine.lastVerdict source destination) =
      some (current.stopEntry event.piece source destination event.eventTimeMs
        (engine.board.getPieceAt destination).isSome) := by
  unfold lastVerdict
  cases engine.board.getPieceAt destination with
  | none => rfl
  | some target => rw [← reaches]; rfl

theorem gain_lastVerdict {current : GameEngine}
    (kind : ∀ piece, current.kindOf piece = engine.kindOf piece)
    (side : ∀ piece, current.colorOf piece = engine.colorOf piece) (color : PieceColor) :
    current.gain color event (engine.lastVerdict source destination) =
      engine.prize event.piece destination color := by
  unfold lastVerdict prize
  cases engine.board.getPieceAt destination with
  | none => rfl
  | some target =>
      simp only [gain, StepVerdict.fallen, StepVerdict.victor, kind, side]

end LastVerdict

/-- A lone move after some of its steps. -/
structure Underway (load : PieceConfigReader) (engine : GameEngine) (piece : PieceId)
    (source destination : Position) (step : Nat) (current : GameEngine) : Prop where
  before : step < PieceRules.stepsOf (engine.kindOf piece) source destination
  table : current.view [] = engine.tableAfter load piece source destination step
  scores : ∀ color, current.scoreOf color = engine.scoreOf color
  histories : ∀ color, current.moveHistory color = engine.moveHistory color
  ongoing : current.gameOver = false

namespace Lone

variable {load : PieceConfigReader} {engine current : GameEngine} {piece : PieceId}
  {source destination : Position} {step : Nat}

theorem distinct (lone : engine.Lone piece source destination) : destination ≠ source := by
  have course := lone.course
  intro same
  have ends := course.distinct _ le_rfl 0 (Nat.zero_le _)
    (course.goal.trans (same.trans course.start.symm))
  have moves := course.moves
  omega

/-- Nothing else is in flight. -/
theorem jumps_underway (lone : engine.Lone piece source destination)
    (underway : Underway load engine piece source destination step current) :
    current.realTime.activeJumps = [] := by
  have none : engine.realTime.activeJumps.map Jump.flight ++ [] = [] := by
    rw [lone.jumps]
    rfl
  have flights : (current.view []).flights = [] :=
    (congrArg Table.flights underway.table).trans none
  exact List.map_eq_nil_iff.mp (List.append_eq_nil_iff.mp flights).1

/-- The grid after the piece was put down, on a board that differs on the destination only. -/
theorem grid (lone : engine.Lone piece source destination) {board : Board}
    (inside : board.isInside destination)
    (elsewhere : ∀ cell, cell ≠ destination →
      board.getPieceAt cell = engine.board.getPieceAt cell)
    (apart : board.getPieceAt destination ≠ some piece) (cell : Position) :
    (board.commit piece source destination).getPieceAt cell =
      if cell = destination then some piece
      else if cell = source then none
      else engine.board.getPieceAt cell := by
  rw [Board.getPieceAt_commit inside]
  · split
    · rfl
    · next other =>
        rw [elsewhere cell other]
        exact if_congr (lone.source_iff cell) rfl rfl
  · intro cell here
    have other : cell ≠ destination := fun same => apart (same ▸ here)
    exact (lone.source_iff cell).mp (elsewhere cell other ▸ here)

end Lone

namespace Underway

variable {load : PieceConfigReader} {engine current : GameEngine} {piece : PieceId}
  {source destination : Position} {step : Nat}

theorem kind (underway : Underway load engine piece source destination step current)
    (other : PieceId) : current.kindOf other = engine.kindOf other :=
  (congrArg (fun table : Table => table.kindOf other) underway.table).trans
    (kindOf_tableAfter ..)

theorem color (underway : Underway load engine piece source destination step current)
    (other : PieceId) : current.colorOf other = engine.colorOf other :=
  (congrArg (fun table : Table => table.colorOf other) underway.table).trans
    (colorOf_tableAfter ..)

/-- What the move enters is known from the start. -/
theorem stopEntry (underway : Underway load engine piece source destination step current)
    (eventTimeMs : Int) (captured : Bool) :
    current.stopEntry piece source destination eventTimeMs captured =
      engine.stopEntry piece source destination eventTimeMs captured :=
  stopEntry_congr engine _ _ _ _ _
    (congrArg (fun table : Table => table.board.height) underway.table) (underway.color piece)
    (underway.kind piece)

/-- The colour of the piece gets the entry, and the other colour none. -/
theorem entriesOf_stopEntry (underway : Underway load engine piece source destination step current)
    (eventTimeMs : Int) (captured : Bool) (color : PieceColor) :
    entriesOf color (some (current.stopEntry piece source destination eventTimeMs captured)) =
      if engine.colorOf piece = color then
        [engine.stopEntry piece source destination eventTimeMs captured]
      else [] := by
  rw [underway.stopEntry, entriesOf, Option.toList_some, List.filter_cons, List.filter_nil]
  exact if_congr decide_eq_true_iff rfl rfl

end Underway

namespace Lone

variable {load : PieceConfigReader} {engine current : GameEngine} {piece : PieceId}
  {source destination : Position} {step : Nat}

/-- A step onto an empty cell before the destination. -/
theorem onward (underway : Underway load engine piece source destination step current)
    (short : step + 1 < PieceRules.stepsOf (engine.kindOf piece) source destination)
    (verdict : current.verdict (engine.eventAfter load piece source destination step) = .slid) :
    Underway load engine piece source destination (step + 1)
      (current.processStepEvent (engine.eventAfter load piece source destination step)) where
  before := short
  table := by
    rw [view_processStepEvent, verdict, underway.table]
    exact slide_tableAfter ..
  scores := fun color => by
    rw [scoreOf_processStepEvent, verdict]
    exact (Int.add_zero _).trans (underway.scores color)
  histories := fun color => by
    rw [moveHistory_processStepEvent, verdict]
    exact (List.append_nil _).trans (underway.histories color)
  ongoing := by
    refine Bool.eq_false_iff.mpr fun ended => ?_
    obtain ⟨_, falls, _⟩ := (gameOver_processStepEvent underway.ongoing _).mp ended
    rw [verdict] at falls
    cases falls

/-- The step onto the destination. -/
theorem arrival (lone : engine.Lone piece source destination)
    (underway : Underway load engine piece source destination step current)
    (last : step + 1 = PieceRules.stepsOf (engine.kindOf piece) source destination)
    (verdict : current.verdict (engine.eventAfter load piece source destination step) =
      engine.lastVerdict source destination) :
    engine.Played (current.processStepEvent (engine.eventAfter load piece source destination step))
      piece source destination (engine.finishOf load piece source destination) := by
  have cell : (engine.eventAfter load piece source destination step).toCell = destination := by
    rw [toCell_eventAfter, last, lone.course.goal]
  have finish : (engine.eventAfter load piece source destination step).eventTimeMs =
      engine.finishOf load piece source destination := by
    rw [eventTime_eventAfter, finishOf, ← last]
    rfl
  have viewed := view_processStepEvent current []
    (engine.eventAfter load piece source destination step)
  rw [verdict, underway.table, apply_lastVerdict cell, finish] at viewed
  have board := congrArg Table.board viewed
  have pieces := congrArg Table.pieces viewed
  have oneCell : (engine.tableAfter load piece source destination step).board.OneCell :=
    lone.coherent.oneCell
  have stands : engine.board.getPieceAt destination ≠ some piece := fun here =>
    lone.distinct ((lone.source_iff destination).mp here)
  refine
    { height := ?_, grid := ?_, mover := ?_, taken := ?_, others := ?_, scores := ?_
      histories := ?_, ends := ?_, motions := ?_, jumps := ?_ }
  · refine (congrArg Board.height board).trans ((Board.commit_height ..).trans ?_)
    exact vacate_height ..
  · intro other
    refine (congrArg (fun board : Board => board.getPieceAt other) board).trans ?_
    refine lone.grid ?_ (fun other apart => vacate_elsewhere _ oneCell apart) ?_ other
    · exact (vacate_inside ..).mpr lone.checked.legal.1
    · intro here
      have empty := vacate_destination _ oneCell destination
      rw [here] at empty
      cases empty
  · refine (congrArg (fun pieces : Heap => pieces.get piece) pieces).trans ?_
    refine (Heap.get_modify_self ..).trans ?_
    have moved := pieces_tableAfter load engine piece source destination step
    exact congrArg₂ (fun promoted value => Table.stopped promoted source destination
      (engine.finishOf load piece source destination) value)
      ((vacate_promotes ..).trans (promotes_tableAfter ..))
      ((vacate_pieces _ _ _ stands).trans moved)
  · intro target here
    have apart : target ≠ piece := fun same => stands (same ▸ here)
    have enemy := lone.checked.legal.2.1 target here
    refine ⟨by rw [eq_comm, PieceColor.opposite_eq_iff]; exact enemy.symm, ?_⟩
    refine (congrArg (fun pieces : Heap => pieces.get target) pieces).trans ?_
    refine (Heap.get_modify_of_ne _ _ apart).trans ?_
    rw [here]
    refine (vacate_taken ..).trans ?_
    exact congrArg (·.setState .captured) (pieces_tableAfter_of_ne load engine piece source
      destination step target apart)
  · intro other apart spared
    refine (congrArg (fun pieces : Heap => pieces.get other) pieces).trans ?_
    refine (Heap.get_modify_of_ne _ _ apart).trans ?_
    exact (vacate_pieces _ _ _ spared).trans (pieces_tableAfter_of_ne load engine piece source
      destination step other apart)
  · intro color
    rw [scoreOf_processStepEvent, verdict, underway.scores,
      gain_lastVerdict underway.kind underway.color]
    rfl
  · intro color
    rw [moveHistory_processStepEvent, verdict, underway.histories, stepEntry_lastVerdict cell,
      finish]
    exact congrArg _ (underway.entriesOf_stopEntry _ _ color)
  · rw [gameOver_processStepEvent underway.ongoing, verdict, fallen_lastVerdict]
    simp only [underway.kind]
  · refine (congrArg Table.motions viewed).trans ?_
    refine List.eq_nil_iff_forall_not_mem.mpr fun motion member => ?_
    obtain ⟨left, other⟩ := Table.mem_filter_piece.mp member
    have only := List.mem_singleton.mp ((vacate_motions ..).subset left)
    rw [only] at other
    exact other rfl
  · have flights := (congrArg Table.flights viewed).trans (vacate_flights ..)
    have none : engine.realTime.activeJumps.map Jump.flight ++ [] = [] := by
      rw [lone.jumps]
      rfl
    exact List.map_eq_nil_iff.mp (List.append_eq_nil_iff.mp (flights.trans none)).1

/-- **One step of a lone move.** -/
theorem stepped (lone : engine.Lone piece source destination)
    (underway : Underway load engine piece source destination step current)
    (judged : (current.view []).Judged (engine.eventAfter load piece source destination step)
      (current.verdict (engine.eventAfter load piece source destination step))) :
    Underway load engine piece source destination (step + 1)
        (current.processStepEvent (engine.eventAfter load piece source destination step)) ∨
      engine.Played
        (current.processStepEvent (engine.eventAfter load piece source destination step))
        piece source destination (engine.finishOf load piece source destination) := by
  rw [underway.table] at judged
  rcases lone.steps_of_judged underway.before judged with ⟨short, verdict⟩ | ⟨last, verdict⟩
  · exact .inl (onward underway short verdict)
  · exact .inr (lone.arrival underway last verdict)

end Lone

/-! ## The whole move -/

/-- Without motions and jumps, the advance of the clock emits nothing. -/
theorem advance_still {current : GameEngine} (motions : current.realTime.activeMotions = [])
    (jumps : current.realTime.activeJumps = []) {ms : Int} (elapsed : 0 ≤ ms) :
    Moment.advance current ms = .quiet { current with
      realTime := { current.realTime with
        currentTimeMs := current.realTime.currentTimeMs + ms } } := by
  simp only [Moment.advance, Moment.quiet, advanceTime, RealTimeArbiter.advanceTime,
    not_lt.mpr elapsed, if_false, RealTimeArbiter.dueEvents, RealTimeArbiter.afterEvents, motions,
    jumps, List.filter_nil, List.map_nil, List.insertionSort_nil]

/-- A moment of a lone move: the move is under way, or it has been played. -/
structure OnCourse (load : PieceConfigReader) (engine : GameEngine) (piece : PieceId)
    (source destination : Position) (moment : Moment) : Prop where
  landings : moment.landings = []
  course : (∃ step, Underway load engine piece source destination step moment.engine ∧
      ∀ event ∈ moment.steps, event.piece = piece) ∨
    (moment.steps = [] ∧ engine.Played moment.engine piece source destination
      (engine.finishOf load piece source destination))

namespace OnCourse

variable {load : PieceConfigReader} {engine : GameEngine} {piece : PieceId}
  {source destination : Position}

/-- Processing the next event. -/
theorem process (lone : engine.Lone piece source destination) {moment : Moment}
    (running : moment.Running) (onCourse : OnCourse load engine piece source destination moment) :
    OnCourse load engine piece source destination (moment.process load) := by
  obtain ⟨current, steps, landings⟩ := moment
  obtain ⟨none, course⟩ := onCourse
  obtain rfl : landings = [] := none
  cases steps with
  | nil => exact ⟨rfl, course⟩
  | cons event rest =>
      rcases course with ⟨step, underway, own⟩ | ⟨busy, _⟩
      · have isOwn := own event (List.mem_cons_self ..)
        have moving : (current.view []).stateOf event.piece = .moving := by
          rw [underway.table, stateOf_tableAfter, if_pos isOwn]
        obtain ⟨motion, member, same⟩ := running.timely event (List.mem_cons_self ..) moving
        obtain rfl : event = engine.eventAfter load piece source destination step := by
          have member : motion ∈ (current.view []).motions := member
          rw [underway.table] at member
          rw [same, List.mem_singleton.mp member]
          rfl
        obtain rfl : rest = [] := by
          refine List.eq_nil_iff_forall_not_mem.mpr fun other later => ?_
          refine (List.nodup_cons.mp running.pieces).1 ?_
          rw [isOwn, ← own other (List.mem_cons_of_mem _ later)]
          exact List.mem_map_of_mem later
        refine ⟨rfl, ?_⟩
        rcases lone.stepped underway running.judged with onward | played
        · exact .inl ⟨step + 1, onward, fun _ absent => absurd absent List.not_mem_nil⟩
        · exact .inr ⟨rfl, played⟩
      · cases busy

/-- Advancing the clock. -/
theorem advance (lone : engine.Lone piece source destination) {current : GameEngine}
    (coherent : (current.view []).Coherent) {ms : Int} (elapsed : 0 ≤ ms)
    (onCourse : OnCourse load engine piece source destination (.quiet current)) :
    OnCourse load engine piece source destination (.advance current ms) := by
  obtain ⟨_, ⟨step, underway, _⟩ | ⟨_, played⟩⟩ := onCourse
  · have underway : Underway load engine piece source destination step current := underway
    have jumps := lone.jumps_underway underway
    have landings : (Moment.advance current ms).landings = [] := by
      simp only [Moment.advance, advanceTime, RealTimeArbiter.advanceTime, not_lt.mpr elapsed,
        if_false, RealTimeArbiter.dueEvents, jumps, List.filter_nil, List.map_nil]
    have table : (Moment.advance current ms).engine.view [] =
        engine.tableAfter load piece source destination step := by
      obtain ⟨flights, perm, advanced⟩ := Moment.advance_table coherent elapsed
      have none : (current.view []).flights = [] := by
        simp only [view, jumps, List.map_nil, List.append_nil]
      rw [none] at perm
      rw [Moment.table, landings, perm.eq_nil, ← none] at advanced
      exact advanced.trans underway.table
    refine ⟨landings, .inl ⟨step, ⟨underway.before, table, ?_, ?_, ?_⟩, ?_⟩⟩
    · intro color
      refine Eq.trans ?_ (underway.scores color)
      simp only [Moment.advance, advanceTime]
      cases color <;> rfl
    · intro color
      refine Eq.trans ?_ (underway.histories color)
      simp only [Moment.advance, advanceTime]
      cases color <;> rfl
    · exact underway.ongoing
    · intro event member
      have moving := ((Moment.advance_fresh current elapsed).due event member).1
      change ((Moment.advance current ms).engine.view []).stateOf event.piece = .moving at moving
      rw [table] at moving
      exact lone.moving_iff.mp moving
  · have played : engine.Played current piece source destination
        (engine.finishOf load piece source destination) := played
    rw [advance_still played.motions played.jumps elapsed]
    exact ⟨rfl, .inr ⟨rfl, played.later _⟩⟩

/-- **The whole move.** -/
theorem played (lone : engine.Lone piece source destination) {ms : Int}
    (enough : PieceRules.stepsOf (engine.kindOf piece) source destination *
      (engine.moveMotion load piece source destination).stepDurationMs ≤ ms) :
    engine.Played ((engine.startMove load piece source destination).wait load ms) piece source
      destination (engine.finishOf load piece source destination) := by
  have coherent : ((engine.startMove load piece source destination).view []).Coherent :=
    startMove_coherent lone.coherent lone.checked.here lone.checked.idle
  have duration := (engine.moveMotion load piece source destination).stepPositive
  have elapsed : 0 ≤ ms :=
    (Int.mul_nonneg (Int.natCast_nonneg _) duration.le).trans enough
  obtain ⟨journey, settled, clock⟩ := wait_journey load coherent elapsed
  have started : OnCourse load engine piece source destination
      (.quiet (engine.startMove load piece source destination)) := by
    refine ⟨rfl, .inl ⟨0, ⟨lone.course.moves, lone.tableAfter_zero, ?_, ?_, ?_⟩, ?_⟩⟩
    · exact fun color => by cases color <;> rfl
    · exact fun color => by cases color <;> rfl
    · exact lone.checked.ongoing
    · exact fun _ absent => absurd absent List.not_mem_nil
  have ended := (journey.rule
    (motive := fun moment => moment.Running ∧ OnCourse load engine piece source destination moment)
    (fun _ => True)
    (fun first next advances before => ⟨advances.running before.1, by
      cases advances with
      | mk current since => exact advance lone before.1.coherent since before.2⟩)
    (fun first next (processes : Moment.Processes load first next) _ before =>
      ⟨processes.running before.1, processes ▸ process lone before.1 before.2⟩)
    (fun _ _ => trivial) ⟨Moment.of_landings coherent, started⟩).2
  rcases ended.course with ⟨step, underway, _⟩ | ⟨_, played⟩
  · -- a step that is still to be made would be due
    have member : (engine.moveMotion load piece source destination).after
        (PieceRules.cellOf (engine.kindOf piece) source destination step) step ∈ ((engine.startMove
          load piece source destination).wait load ms).realTime.activeMotions := by
      refine (congrArg (_ ∈ ·) (congrArg Table.motions underway.table)).mpr ?_
      exact List.mem_singleton.mpr rfl
    have moving : ((engine.startMove load piece source destination).wait load ms).stateOf piece =
        .moving :=
      (congrArg (fun table : Table => table.stateOf piece) underway.table).trans
        (lone.moving_iff.mpr rfl)
    have later := settled.motions _ member moving
    have due := eventTime_eventAfter load engine piece source destination step
    have now : (engine.startMove load piece source destination).getCurrentTimeMs =
        engine.getCurrentTimeMs := rfl
    have steps : ((step : Int) + 1) *
        (engine.moveMotion load piece source destination).stepDurationMs ≤
          PieceRules.stepsOf (engine.kindOf piece) source destination *
            (engine.moveMotion load piece source destination).stepDurationMs :=
      Int.mul_le_mul_of_nonneg_right (by exact_mod_cast underway.before) duration.le
    rw [clock, now] at later
    change _ < (engine.eventAfter load piece source destination step).eventTimeMs at later
    omega
  · exact played

end OnCourse

/-! ## Lone moves are moves of chess -/

/-- An accepted request that is no castling request starts an ordinary move. -/
theorem requestMove_ordinary (load : PieceConfigReader) {engine : GameEngine}
    {source destination : Position}
    (accepted : (engine.requestMove load source destination).1.isAccepted = true)
    (ordinary : engine.isCastlingRequest source destination = false) :
    ∃ piece, engine.MoveChecked piece source destination ∧
      (engine.requestMove load source destination).2 =
        engine.startMove load piece source destination := by
  unfold requestMove at accepted ⊢
  simp only [ordinary, Bool.false_eq_true, if_false] at accepted ⊢
  split at accepted
  · cases accepted
  · next ongoing =>
      split at accepted
      · cases accepted
      · next inside =>
          split at accepted
          · cases accepted
          · next piece here =>
              split at accepted
              · cases accepted
              · next ready =>
                  split at accepted
                  · cases accepted
                  · next valid =>
                      obtain ⟨idle, rested⟩ := not_or.mp ready
                      refine ⟨piece, ⟨Bool.eq_false_iff.mpr ongoing, here, not_not.mp idle,
                        Bool.eq_false_iff.mpr rested, ordinary, not_not.mp valid⟩, ?_⟩
                      rw [if_neg ongoing, if_neg inside]
                      simp only [ready, valid, if_false]

/-- **A lone move is a move of chess.** In every state a run reaches in which nothing moves and
nothing is in the air, an accepted move that is no castle, waited for as long as its steps take,
ends in the position that classical chess reaches: the piece stands on the destination and no
longer on its cell, what stood there is captured and scored, nothing else has changed, and the
history of its colour has one more entry. -/
theorem loneMove_isChess (load : PieceConfigReader) (layout : Layout) (eventBus : Option EventBus)
    (calls : List Call) {engine : GameEngine}
    (reached : (new layout eventBus).run load calls = engine)
    (noMotion : engine.realTime.activeMotions = []) (noJump : engine.realTime.activeJumps = [])
    {source destination : Position}
    (accepted : (engine.requestMove load source destination).1.isAccepted = true)
    (ordinary : engine.isCastlingRequest source destination = false)
    {piece : PieceId} (here : engine.board.getPieceAt source = some piece) {motion : Motion}
    (stored : motion ∈ (engine.requestMove load source destination).2.realTime.activeMotions)
    {ms : Int} (enough : PieceRules.stepsOf (engine.kindOf piece) source destination *
      motion.stepDurationMs ≤ ms) :
    ((engine.requestMove load source destination).2.wait load ms).diagram =
      engine.diagram.move source destination ∧
    engine.Played ((engine.requestMove load source destination).2.wait load ms) piece source
      destination (engine.getCurrentTimeMs +
        PieceRules.stepsOf (engine.kindOf piece) source destination * motion.stepDurationMs) := by
  obtain ⟨other, checked, started⟩ := requestMove_ordinary load accepted ordinary
  obtain rfl : other = piece := Option.some.inj (checked.here.symm.trans here)
  have lone : engine.Lone other source destination :=
    { coherent := reached ▸ run_coherent load layout eventBus calls
      perched := reached ▸ run_perched load layout eventBus calls
      motions := noMotion
      jumps := noJump
      checked := checked }
  obtain rfl : motion = engine.moveMotion load other source destination := by
    have motions : (engine.startMove load other source destination).realTime.activeMotions =
        engine.realTime.activeMotions ++ [engine.moveMotion load other source destination] :=
      congrArg Table.motions (view_startMove load engine other source destination)
    rw [started, motions, noMotion] at stored
    exact List.mem_singleton.mp stored
  rw [started]
  have played := OnCourse.played lone enough
  exact ⟨played.diagram_move lone.coherent.oneCell here, played⟩

/-- Two pawns have come face to face. -/
def pawnsMeet : List Call :=
  [.requestMove ⟨6, 4⟩ ⟨4, 4⟩, .requestMove ⟨1, 3⟩ ⟨3, 3⟩, .wait 4000]

/-- The pawn takes its neighbour. -/
theorem loneMove_isChess_pawn :
    (((((new createInitialBoard (some {})).run .fallback pawnsMeet).requestMove .fallback ⟨4, 4⟩
      ⟨3, 3⟩).2.wait .fallback 1000).diagram =
        ((new createInitialBoard (some {})).run .fallback pawnsMeet).diagram.move ⟨4, 4⟩ ⟨3, 3⟩) ∧
    ((new createInitialBoard (some {})).run .fallback pawnsMeet).Played
      ((((new createInitialBoard (some {})).run .fallback pawnsMeet).requestMove .fallback ⟨4, 4⟩
        ⟨3, 3⟩).2.wait .fallback 1000) 21 ⟨4, 4⟩ ⟨3, 3⟩
      (((new createInitialBoard (some {})).run .fallback pawnsMeet).getCurrentTimeMs +
        PieceRules.stepsOf (((new createInitialBoard (some {})).run .fallback
          pawnsMeet).kindOf 21) ⟨4, 4⟩ ⟨3, 3⟩ *
        (((new createInitialBoard (some {})).run .fallback pawnsMeet).moveMotion .fallback 21 ⟨4, 4⟩
          ⟨3, 3⟩).stepDurationMs) :=
  loneMove_isChess .fallback createInitialBoard (some {}) pawnsMeet rfl (by decide +kernel)
    (by decide +kernel) (by decide +kernel) (by decide +kernel) (by decide +kernel)
    (by decide +kernel) (by decide +kernel)

end GameEngine

end KungFuChess

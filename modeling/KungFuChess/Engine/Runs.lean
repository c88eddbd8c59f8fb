import KungFuChess.Engine.Settling
import KungFuChess.IO.BoardParser
import KungFuChess.Library.Trace

/-!
# Runs of the engine

A run applies requests and waits to the engine of a layout. Requests act on the
table by departures and jumps of idle pieces; with the rule for waits this gives
the rule for runs, and that every engine reached is coherent and settled.
-/

set_option autoImplicit false

namespace KungFuChess

/-! ## Accepted requests -/

namespace GameEngine

/-- What the engine has checked when it starts an ordinary move. -/
structure MoveChecked (engine : GameEngine) (piece : PieceId) (source destination : Position) :
    Prop where
  ongoing : engine.gameOver = false
  here : engine.board.getPieceAt source = some piece
  idle : engine.stateOf piece = .idle
  rested : (engine.pieces.get piece).isOnCooldown engine.getCurrentTimeMs = false
  ordinary : engine.isCastlingRequest source destination = false
  valid : (RuleEngine.validateMove engine.board engine.pieces source destination).isValid = true

/-- A valid move follows the rules of the piece, and does not end on a friend. -/
theorem MoveChecked.legal {engine : GameEngine} {piece : PieceId} {source destination : Position}
    (checked : engine.MoveChecked piece source destination) :
    engine.board.isInside destination ∧
      (∀ other, engine.board.getPieceAt destination = some other →
        engine.colorOf other ≠ engine.colorOf piece) ∧
      RuleEngine.isLegalByPieceKind engine.board engine.pieces source destination = true := by
  have valid := checked.valid
  simp only [RuleEngine.validateMove, checked.here] at valid
  split at valid
  · cases valid
  · next inside =>
      split at valid
      · cases valid
      · next stranger =>
          split at valid
          · cases valid
          · next legal =>
              exact ⟨not_not.mp (not_or.mp inside).2,
                fun other here friend => stranger ⟨other, here, friend⟩, not_not.mp legal⟩

/-- What the engine has checked when it starts a jump. -/
structure JumpChecked (engine : GameEngine) (piece : PieceId) (cell : Position) : Prop where
  ongoing : engine.gameOver = false
  here : engine.board.getPieceAt cell = some piece
  idle : engine.stateOf piece = .idle
  rested : (engine.pieces.get piece).isOnCooldown engine.getCurrentTimeMs = false

/-- What the engine has checked when it starts a castle. -/
structure CastleChecked (engine : GameEngine) (castle : PendingCastle) : Prop where
  king : engine.board.getPieceAt castle.kingSource = some castle.king
  rook : engine.board.getPieceAt castle.rookSource = some castle.rook
  kingKind : engine.kindOf castle.king = .king
  rookKind : engine.kindOf castle.rook = .rook
  color : engine.colorOf castle.rook = engine.colorOf castle.king
  kingIdle : engine.stateOf castle.king = .idle
  rookIdle : engine.stateOf castle.rook = .idle
  kingRested : (engine.pieces.get castle.king).isOnCooldown engine.getCurrentTimeMs = false
  rookRested : (engine.pieces.get castle.rook).isOnCooldown engine.getCurrentTimeMs = false
  kingInside : engine.board.isInside castle.kingDestination
  rookInside : engine.board.isInside castle.rookDestination
  apart : castle.kingDestination ≠ castle.rookDestination

/-- The facts behind a castle the engine is ready to start. -/
theorem canCastle_checked {engine : GameEngine} {source destination : Position}
    {castle : PendingCastle} {piece : PieceId}
    (inside : engine.board.isInside destination)
    (here : engine.board.getPieceAt source = some piece) (idle : engine.stateOf piece = .idle)
    (rested : (engine.pieces.get piece).isOnCooldown engine.getCurrentTimeMs = false)
    (request : engine.isCastlingRequest source destination = true)
    (found : engine.canCastle source destination = some castle) :
    engine.CastleChecked castle ∧ castle.kingSource = source ∧
      castle.kingDestination = destination := by
  have shape : engine.kindOf piece = .king ∧ source.row = destination.row ∧
      (destination.col - source.col).natAbs = 2 := by
    simpa only [isCastlingRequest, here, decide_eq_true_eq] using request
  unfold canCastle at found
  dsimp only at found
  split at found
  · cases found
  · next standard =>
      rw [here] at found
      dsimp only at found
      split at found
      · cases found
      · split at found
        · cases found
        · next home =>
            split at found
            · cases found
            · next rook rookHere =>
                split at found
                · cases found
                · next ready =>
                    split at found
                    · cases found
                    · split at found
                      · cases found
                      · cases found
                        simp only [not_or, not_not, Bool.not_eq_true] at standard home ready
                        have onBoard := inside
                        simp only [Board.isInside] at onBoard
                        have unit : castlingDirection source destination = 1 ∨
                            castlingDirection source destination = -1 := by
                          unfold castlingDirection
                          split
                          · exact .inl rfl
                          · exact .inr rfl
                        refine ⟨⟨here, rookHere, shape.1, ready.1, ready.2.1, idle,
                          ready.2.2.2.1, rested, ready.2.2.2.2, inside, ?_, ?_⟩, rfl, rfl⟩
                        · simp only [Board.isInside]
                          omega
                        · intro same
                          have column := congrArg Position.col same
                          dsimp only at column
                          omega

/-- A request is answered by a castle when it is accepted as a castling request. -/
def AcceptsCastle (load : PieceConfigReader) (engine : GameEngine)
    (source destination : Position) : Prop :=
  (engine.requestMove load source destination).1.isAccepted = true ∧
    engine.isCastlingRequest source destination = true

/-- **What a move request can do**: nothing, start an ordinary move of an idle
piece, or start a castle. -/
theorem requestMove_cases (load : PieceConfigReader) (engine : GameEngine)
    (source destination : Position) :
    (engine.requestMove load source destination).2 = engine ∨
    (∃ piece, engine.MoveChecked piece source destination ∧
      (engine.requestMove load source destination).2 =
        engine.startMove load piece source destination) ∨
    (∃ castle, engine.gameOver = false ∧ engine.AcceptsCastle load source destination ∧
      engine.CastleChecked castle ∧
      (engine.requestMove load source destination).2 = engine.startCastle load castle) := by
  simp only [AcceptsCastle]
  unfold requestMove
  cases isOver : engine.gameOver with
  | true => exact .inl rfl
  | false =>
      by_cases outside : ¬ engine.board.isInside source ∨ ¬ engine.board.isInside destination
      · simp only [Bool.false_eq_true, if_false, outside, if_true, true_or]
      · have inside : engine.board.isInside destination := by
          by_contra missed
          exact outside (.inr missed)
        simp only [Bool.false_eq_true, if_false, outside]
        cases here : engine.board.getPieceAt source with
        | none => exact .inl rfl
        | some piece =>
            by_cases busy : engine.stateOf piece ≠ .idle ∨
                (engine.pieces.get piece).isOnCooldown engine.getCurrentTimeMs
            · simp only [busy, if_true, true_or]
            · obtain ⟨idle, rested⟩ := not_or.mp busy
              have idle : engine.stateOf piece = .idle := not_not.mp idle
              have rested := Bool.eq_false_iff.mpr rested
              simp only [busy, if_false]
              cases request : engine.isCastlingRequest source destination with
              | true =>
                  simp only [if_true, and_true]
                  cases found : engine.canCastle source destination with
                  | none => exact .inl rfl
                  | some castle =>
                      exact .inr (.inr ⟨castle, trivial, rfl,
                        (canCastle_checked inside here idle rested request found).1, rfl⟩)
              | false =>
                  simp only [Bool.false_eq_true, if_false]
                  split
                  · exact .inl rfl
                  · next valid =>
                      exact .inr (.inl
                        ⟨piece, ⟨isOver, here, idle, rested, request, not_not.mp valid⟩, rfl⟩)

/-- **What a jump request can do**: nothing, or lift an idle piece. -/
theorem requestJump_cases (load : PieceConfigReader) (engine : GameEngine) (cell : Position) :
    (engine.requestJump load cell).2 = engine ∨
    (∃ piece, engine.JumpChecked piece cell ∧
      (engine.requestJump load cell).2 = engine.startJump load piece cell) := by
  unfold requestJump
  cases isOver : engine.gameOver with
  | true => exact .inl rfl
  | false =>
      by_cases inside : engine.board.isInside cell
      · simp only [Bool.false_eq_true, if_false, inside, not_true_eq_false]
        cases here : engine.board.getPieceAt cell with
        | none => exact .inl rfl
        | some piece =>
            by_cases busy : engine.stateOf piece ≠ .idle ∨
                (engine.pieces.get piece).isOnCooldown engine.getCurrentTimeMs
            · simp only [busy, if_true, true_or]
            · obtain ⟨idle, rested⟩ := not_or.mp busy
              simp only [busy, if_false]
              exact .inr
                ⟨piece, ⟨isOver, here, not_not.mp idle, Bool.eq_false_iff.mpr rested⟩, rfl⟩
      · simp only [Bool.false_eq_true, if_false, inside, not_false_eq_true, if_true, true_or]

/-! ## Requests and coherence -/

/-- The motion an accepted move starts. -/
def moveMotion (load : PieceConfigReader) (engine : GameEngine) (piece : PieceId)
    (source destination : Position) : Motion :=
  engine.realTime.newMotion piece (engine.kindOf piece) source destination
    (load (engine.pieces.get piece).token "move").moveTimePerCellMs false

theorem view_startMove (load : PieceConfigReader) (engine : GameEngine) (piece : PieceId)
    (source destination : Position) :
    (engine.startMove load piece source destination).view [] =
      ((engine.view []).mark piece).depart (engine.moveMotion load piece source destination) := by
  have kind : (engine.modifyPiece piece (·.markAsMoved)).kindOf piece = engine.kindOf piece := by
    simp only [kindOf, modifyPiece, Heap.get_modify_self]
    rfl
  rw [startMove, view_startMotion, kind]
  rfl

theorem startMove_coherent {load : PieceConfigReader} {engine : GameEngine} {piece : PieceId}
    {source destination : Position} (coherent : (engine.view []).Coherent)
    (here : engine.board.getPieceAt source = some piece) (idle : engine.stateOf piece = .idle) :
    ((engine.startMove load piece source destination).view []).Coherent := by
  rw [view_startMove]
  refine (coherent.mark piece).depart ?_ here rfl
  rw [Table.stateOf_mark]
  exact idle

/-- The motions of the king and of the rook of a castle that is started. -/
theorem view_startCastle (load : PieceConfigReader) (engine : GameEngine)
    (castle : PendingCastle) :
    ∃ king rook : Motion, king.piece = castle.king ∧ king.source = castle.kingSource ∧
      king.currentCell = castle.kingSource ∧ rook.piece = castle.rook ∧
      rook.source = castle.rookSource ∧ rook.currentCell = castle.rookSource ∧
      (engine.startCastle load castle).view [] =
        (((((engine.view []).mark castle.king).mark castle.rook).depart king).depart rook).pend
          castle := by
  let marked := (engine.modifyPiece castle.king (·.markAsMoved)).modifyPiece castle.rook
    (·.markAsMoved)
  let duration := max 1 ((load (engine.pieces.get castle.king).token "move").moveTimePerCellMs * 2)
  let moving := marked.startMotion castle.king castle.kingSource castle.kingDestination duration
    true
  exact ⟨marked.realTime.newMotion castle.king (marked.kindOf castle.king) castle.kingSource
      castle.kingDestination duration true,
    moving.realTime.newMotion castle.rook (moving.kindOf castle.rook) castle.rookSource
      castle.rookDestination duration true, rfl, rfl, rfl, rfl, rfl, rfl, rfl⟩

theorem startCastle_coherent {load : PieceConfigReader} {engine : GameEngine}
    {castle : PendingCastle} (coherent : (engine.view []).Coherent)
    (checked : engine.CastleChecked castle) :
    ((engine.startCastle load castle).view []).Coherent := by
  obtain ⟨king, rook, kingPiece, kingSource, kingCell, rookPiece, rookSource, rookCell, viewed⟩ :=
    view_startCastle load engine castle
  have distinct : castle.king ≠ castle.rook := by
    intro same
    have kinds := checked.kingKind
    rw [same, checked.rookKind] at kinds
    cases kinds
  have marked := (coherent.mark castle.king).mark castle.rook
  have first : (((engine.view []).mark castle.king).mark castle.rook).depart king |>.Coherent := by
    refine marked.depart ?_ ?_ (kingCell.trans kingSource.symm)
    · rw [Table.stateOf_mark, Table.stateOf_mark, kingPiece]
      exact checked.kingIdle
    · rw [kingSource, kingPiece]
      exact checked.king
  have second : ((((engine.view []).mark castle.king).mark castle.rook).depart king).depart rook
      |>.Coherent := by
    refine first.depart ?_ ?_ (rookCell.trans rookSource.symm)
    · rw [Table.stateOf_depart, rookPiece, kingPiece, if_neg distinct.symm, Table.stateOf_mark,
        Table.stateOf_mark]
      exact checked.rookIdle
    · rw [rookSource, rookPiece]
      exact checked.rook
  rw [viewed]
  refine second.pend distinct ?_ ?_ checked.kingInside checked.rookInside checked.apart
  · intro part isPart
    rcases List.mem_cons.mp isPart with rfl | isRook
    · exact coherent.free_of_idle checked.kingIdle
    · rw [List.mem_singleton.mp isRook]
      exact coherent.free_of_idle checked.rookIdle
  · intro part isPart
    rcases List.mem_cons.mp isPart with rfl | isRook
    · exact ⟨king, List.mem_append_left _ (List.mem_append_right _ (List.mem_singleton.mpr rfl)),
        kingPiece, kingSource⟩
    · rw [List.mem_singleton.mp isRook]
      exact ⟨rook, List.mem_append_right _ (List.mem_singleton.mpr rfl), rookPiece, rookSource⟩

theorem startJump_coherent {load : PieceConfigReader} {engine : GameEngine} {piece : PieceId}
    {cell : Position} (coherent : (engine.view []).Coherent)
    (idle : engine.stateOf piece = .idle) :
    ((engine.startJump load piece cell).view []).Coherent := by
  rw [view_startJump]
  exact coherent.lift idle

/-! ### The pieces after a request is accepted -/

section States

variable (load : PieceConfigReader) (engine : GameEngine) (other : PieceId)

theorem stateOf_startMove (piece : PieceId) (source destination : Position) :
    (engine.startMove load piece source destination).stateOf other =
      if other = piece then .moving else engine.stateOf other := by
  change ((engine.startMove load piece source destination).view []).stateOf other = _
  rw [view_startMove, Table.stateOf_depart, Table.stateOf_mark]
  rfl

theorem stateOf_startCastle (castle : PendingCastle) :
    (engine.startCastle load castle).stateOf other =
      if other = castle.king ∨ other = castle.rook then .moving else engine.stateOf other := by
  obtain ⟨king, rook, kingPiece, _, _, rookPiece, _, _, viewed⟩ :=
    view_startCastle load engine castle
  change ((engine.startCastle load castle).view []).stateOf other = _
  rw [viewed, Table.stateOf_pend, Table.stateOf_depart, Table.stateOf_depart, Table.stateOf_mark,
    Table.stateOf_mark, kingPiece, rookPiece]
  by_cases isRook : other = castle.rook
  · simp only [isRook, or_true, if_true]
  · by_cases isKing : other = castle.king
    · simp only [isKing, true_or, if_true, ite_self]
    · simp only [isRook, isKing, or_self, if_false]
      rfl

theorem stateOf_startJump (piece : PieceId) (cell : Position) :
    (engine.startJump load piece cell).stateOf other =
      if other = piece then .airborne else engine.stateOf other := by
  change ((engine.startJump load piece cell).view []).stateOf other = _
  rw [view_startJump, Table.stateOf_lift]
  rfl

end States

end GameEngine

/-! ## Runs -/

/-- A call on the engine. -/
inductive Call where
  | requestMove (source destination : Position)
  | requestJump (cell : Position)
  | wait (ms : Int)
  deriving DecidableEq

namespace GameEngine

def perform (load : PieceConfigReader) (engine : GameEngine) : Call → GameEngine
  | .requestMove source destination => (engine.requestMove load source destination).2
  | .requestJump cell => (engine.requestJump load cell).2
  | .wait ms => engine.wait load ms

/-- The engine after a sequence of calls. -/
def run (load : PieceConfigReader) (engine : GameEngine) (calls : List Call) : GameEngine :=
  Trace.run (perform load) engine calls

/-- The moments of a call; a request has none. -/
def callMoments (load : PieceConfigReader) (engine : GameEngine) : Call → List Moment
  | .wait ms => engine.waitMoments load ms
  | _ => []

/-- The moments of the waits of a run. -/
def runMoments (load : PieceConfigReader) (engine : GameEngine) (calls : List Call) :
    List Moment :=
  (Trace.visits (perform load) engine calls).flatMap fun visit => visit.1.callMoments load visit.2

/-- Every call keeps an engine coherent. -/
theorem perform_coherent (load : PieceConfigReader) (engine : GameEngine) (call : Call)
    (coherent : (engine.view []).Coherent) : ((engine.perform load call).view []).Coherent := by
  cases call with
  | requestMove source destination =>
      rcases requestMove_cases load engine source destination with
        same | ⟨piece, checked, started⟩ | ⟨castle, _, _, checked, started⟩
      · rw [perform, same]
        exact coherent
      · rw [perform, started]
        exact startMove_coherent coherent checked.here checked.idle
      · rw [perform, started]
        exact startCastle_coherent coherent checked
  | requestJump cell =>
      rcases requestJump_cases load engine cell with same | ⟨piece, checked, started⟩
      · rw [perform, same]
        exact coherent
      · rw [perform, started]
        exact startJump_coherent coherent checked.idle
  | wait ms =>
      by_cases negative : ms < 0
      · rw [perform, wait_of_neg load engine negative]
        exact coherent
      · exact wait_coherent load coherent (not_lt.mp negative)

/-- A new engine on a layout is coherent. -/
theorem new_coherent (layout : Layout) (eventBus : Option EventBus) :
    ((new layout eventBus).view []).Coherent where
  distinct := List.nodup_nil
  moving := by
    intro piece
    have idle : ((new layout eventBus).view []).stateOf piece = .idle := layout.idle piece
    simp only [idle, reduceCtorEq, false_iff, not_exists, not_and]
    exact fun motion member => absurd member List.not_mem_nil
  within := fun _ member => absurd member List.not_mem_nil
  oneCell := layout.oneCell
  atSource := fun _ member => absurd member List.not_mem_nil
  offBoard := by
    intro piece captured
    have idle : ((new layout eventBus).view []).stateOf piece = .idle := layout.idle piece
    rw [idle] at captured
    cases captured
  airborne := List.nodup_nil
  flying := fun _ member => absurd member List.not_mem_nil
  castlePieces := List.nodup_nil
  underway := fun _ member => absurd member List.not_mem_nil
  destinations := fun _ member => absurd member List.not_mem_nil

/-- **Every engine a run reaches is coherent.** -/
theorem run_coherent (load : PieceConfigReader) (layout : Layout) (eventBus : Option EventBus)
    (calls : List Call) : (((new layout eventBus).run load calls).view []).Coherent :=
  Trace.run_invariant (motive := fun engine : GameEngine => (engine.view []).Coherent)
    (perform_coherent load) calls (new_coherent layout eventBus)

end GameEngine

/-! ## A run is a journey -/

/-- What happens between two batches: the clock advances, or an admitted call
that is no wait is answered. -/
inductive Moment.Silent (load : PieceConfigReader) (admitted : GameEngine → Call → Prop) :
    Moment → Moment → Prop
  | advances {first after : Moment} (advances : Advances first after) :
      Silent load admitted first after
  | requests {engine : GameEngine} {call : Call} (accepted : admitted engine call)
      (request : ∀ ms, call ≠ .wait ms) :
      Silent load admitted (quiet engine) (quiet (engine.perform load call))

namespace GameEngine

/-- **A run goes through its moments.** -/
theorem run_journey (load : PieceConfigReader) (admitted : GameEngine → Call → Prop) :
    ∀ (calls : List Call) (engine : GameEngine), (engine.view []).Coherent →
      (∀ visit ∈ Trace.visits (perform load) engine calls, admitted visit.1 visit.2) →
      Journey (Moment.Silent load admitted) (Moment.Processes load) (.quiet engine)
        (engine.runMoments load calls) (.quiet (engine.run load calls)) := by
  intro calls
  induction calls with
  | nil => exact fun engine _ _ => .nil _
  | cons call rest ih =>
      intro engine coherent admits
      have onward := ih (engine.perform load call) (perform_coherent load engine call coherent)
        (fun visit member => admits visit (List.mem_cons_of_mem _ member))
      have here : Journey (Moment.Silent load admitted) (Moment.Processes load) (.quiet engine)
          (engine.callMoments load call) (.quiet (engine.perform load call)) := by
        have accepted := admits (engine, call) (List.mem_cons_self ..)
        cases call with
        | requestMove source destination =>
            exact .silent (.requests accepted fun _ other => by cases other) (.nil _)
        | requestJump cell =>
            exact .silent (.requests accepted fun _ other => by cases other) (.nil _)
        | wait ms =>
            rw [perform, callMoments]
            by_cases negative : ms < 0
            · rw [wait_of_neg load engine negative, waitMoments, if_pos negative]
              exact .nil _
            · exact (wait_journey load coherent (not_lt.mp negative)).1.mono
                fun _ _ advances => .advances advances
      exact here.trans onward

/-- What accepted requests and advances of the clock preserve in running moments,
silent steps preserve. -/
theorem silent_rule (load : PieceConfigReader) {motive : Moment → Prop}
    {admitted : GameEngine → Call → Prop}
    (startMove : ∀ (engine : GameEngine) piece source destination, (engine.view []).Coherent →
      engine.MoveChecked piece source destination → motive (.quiet engine) →
      motive (.quiet (engine.startMove load piece source destination)))
    (startCastle : ∀ (engine : GameEngine) castle source destination,
      admitted engine (.requestMove source destination) → (engine.view []).Coherent →
      engine.gameOver = false → engine.AcceptsCastle load source destination →
      engine.CastleChecked castle → motive (.quiet engine) →
      motive (.quiet (engine.startCastle load castle)))
    (startJump : ∀ (engine : GameEngine) piece cell, (engine.view []).Coherent →
      engine.JumpChecked piece cell → motive (.quiet engine) →
      motive (.quiet (engine.startJump load piece cell)))
    (advance : ∀ (engine : GameEngine) ms, 0 ≤ ms → (engine.view []).Coherent →
      motive (.quiet engine) → motive (.advance engine ms))
    {first next : Moment} (silent : Moment.Silent load admitted first next)
    (running : first.Running) (holds : motive first) : next.Running ∧ motive next := by
  cases silent with
  | advances advances =>
      refine ⟨advances.running running, ?_⟩
      cases advances with
      | mk engine elapsed => exact advance engine _ elapsed running.coherent holds
  | @requests engine call accepted request =>
      refine ⟨Moment.of_landings (perform_coherent load engine call running.coherent), ?_⟩
      cases call with
      | requestMove source destination =>
          rcases requestMove_cases load engine source destination with
            same | ⟨piece, checked, started⟩ | ⟨castle, ongoing, accepts, checked, started⟩
          · rw [perform, same]
            exact holds
          · rw [perform, started]
            exact startMove engine piece source destination running.coherent checked holds
          · rw [perform, started]
            exact startCastle engine castle source destination accepted running.coherent ongoing
              accepts checked holds
      | requestJump cell =>
          rcases requestJump_cases load engine cell with same | ⟨piece, checked, started⟩
          · rw [perform, same]
            exact holds
          · rw [perform, started]
            exact startJump engine piece cell running.coherent checked holds
      | wait ms => exact absurd rfl (request ms)

/-- Between two batches no piece is captured and none comes back. -/
theorem silent_captured (load : PieceConfigReader) {admitted : GameEngine → Call → Prop}
    {first next : Moment} (silent : Moment.Silent load admitted first next)
    (running : first.Running)
    (piece : PieceId) : next.Running ∧
      (next.engine.stateOf piece = .captured ↔ first.engine.stateOf piece = .captured) := by
  refine silent_rule load
    (motive := fun moment => moment.engine.stateOf piece = .captured ↔
      first.engine.stateOf piece = .captured) ?_ ?_ ?_ ?_ silent running Iff.rfl
  · intro engine other source destination _ checked same
    refine Iff.trans ?_ same
    change (engine.startMove load other source destination).stateOf piece = _ ↔
      engine.stateOf piece = _
    rw [stateOf_startMove]
    split
    · next own => simp only [own, checked.idle, reduceCtorEq]
    · rfl
  · intro engine castle _ _ _ _ _ _ checked same
    refine Iff.trans ?_ same
    change (engine.startCastle load castle).stateOf piece = _ ↔ engine.stateOf piece = _
    rw [stateOf_startCastle]
    split
    · next own =>
        rcases own with rfl | rfl
        · simp only [checked.kingIdle, reduceCtorEq]
        · simp only [checked.rookIdle, reduceCtorEq]
    · rfl
  · intro engine other cell _ checked same
    refine Iff.trans ?_ same
    change (engine.startJump load other cell).stateOf piece = _ ↔ engine.stateOf piece = _
    rw [stateOf_startJump]
    split
    · next own => simp only [own, checked.idle, reduceCtorEq]
    · rfl
  · intro engine ms elapsed _ same
    refine Iff.trans ?_ same
    simp only [Moment.advance, GameEngine.advanceTime, RealTimeArbiter.advanceTime,
      not_lt.mpr elapsed, if_false]
    exact Iff.rfl

/-- **The rule for runs.** What accepted requests, advances of the clock and the
processing of events preserve holds after every run; `admitted` restricts the
calls and `guard` the moments of the run. -/
theorem run_rule (load : PieceConfigReader) {motive : Moment → Prop} (guard : Moment → Prop)
    (admitted : GameEngine → Call → Prop)
    (silent : ∀ first next, Moment.Silent load admitted first next → first.Running →
      motive first → next.Running ∧ motive next)
    (process : ∀ moment, moment.Running → guard moment → motive moment →
      motive (moment.process load))
    {calls : List Call} {engine : GameEngine} (coherent : (engine.view []).Coherent)
    (admits : ∀ visit ∈ Trace.visits (perform load) engine calls, admitted visit.1 visit.2)
    (guarded : ∀ moment ∈ engine.runMoments load calls, guard moment)
    (holds : motive (.quiet engine)) : motive (.quiet (engine.run load calls)) :=
  ((run_journey load admitted calls engine coherent admits).rule
    (motive := fun moment => moment.Running ∧ motive moment) guard
    (fun first next step before => silent first next step before.1 before.2)
    (fun first _ processes inside before => processes ▸
      ⟨before.1.process load, process first before.1 inside before.2⟩)
    guarded ⟨Moment.of_landings coherent, holds⟩).2

section Moments

variable {load : PieceConfigReader} {engine : GameEngine} {calls : List Call}

/-- The journey of a run, whatever its calls. -/
theorem full_journey (load : PieceConfigReader) (coherent : (engine.view []).Coherent)
    (calls : List Call) :
    Journey (Moment.Silent load fun _ _ => True) (Moment.Processes load) (.quiet engine)
      (engine.runMoments load calls) (.quiet (engine.run load calls)) :=
  run_journey load _ calls engine coherent fun _ _ => trivial

/-- Every moment of a run is running. -/
theorem runMoments_running (coherent : (engine.view []).Coherent) :
    ∀ moment ∈ engine.runMoments load calls, moment.Running :=
  (full_journey load coherent calls).visited_rule (motive := Moment.Running)
    (fun _ _ silent running => (silent_captured load silent running 0).1)
    (fun _ _ processes running => Moment.Processes.running processes running)
    (Moment.of_landings coherent)

/-- Between two batches the grid and the steady members of the pieces stay. -/
theorem silent_frame {α : Type} {member : Piece → α} (steady : Piece.Steady member)
    {admitted : GameEngine → Call → Prop} {first next : Moment}
    (silent : Moment.Silent load admitted first next) (running : first.Running)
    (piece : PieceId) : next.Running ∧ next.engine.board = first.engine.board ∧
      member (next.engine.pieces.get piece) = member (first.engine.pieces.get piece) := by
  refine silent_rule load
    (motive := fun moment => moment.engine.board = first.engine.board ∧
      member (moment.engine.pieces.get piece) = member (first.engine.pieces.get piece))
    ?_ ?_ ?_ ?_ silent running ⟨rfl, rfl⟩
  · intro engine other source destination _ _ kept
    have started := view_startMove load engine other source destination
    refine ⟨(congrArg Table.board started).trans kept.1, ?_⟩
    have pieces := congrArg (fun table : Table => member (table.pieces.get piece)) started
    refine Eq.trans pieces (Eq.trans ?_ kept.2)
    rw [Table.steady_depart steady, Table.steady_mark steady]
    rfl
  · intro engine castle _ _ _ _ _ _ _ kept
    obtain ⟨king, rook, _, _, _, _, _, _, started⟩ := view_startCastle load engine castle
    refine ⟨(congrArg Table.board started).trans kept.1, ?_⟩
    have pieces := congrArg (fun table : Table => member (table.pieces.get piece)) started
    refine Eq.trans pieces (Eq.trans ?_ kept.2)
    change member ((Table.depart (Table.depart _ king) rook).pieces.get piece) = _
    rw [Table.steady_depart steady, Table.steady_depart steady, Table.steady_mark steady,
      Table.steady_mark steady]
    rfl
  · intro engine other cell _ _ kept
    have started := view_startJump engine load other cell
    refine ⟨(congrArg Table.board started).trans kept.1, ?_⟩
    have pieces := congrArg (fun table : Table => member (table.pieces.get piece)) started
    refine Eq.trans pieces (Eq.trans ?_ kept.2)
    rw [Table.steady_lift steady]
    rfl
  · intro engine ms elapsed _ kept
    simp only [Moment.advance, GameEngine.advanceTime, RealTimeArbiter.advanceTime,
      not_lt.mpr elapsed, if_false]
    exact kept

/-- Processing an event changes no lasting member of a piece. -/
theorem process_lasting {α : Type} {member : Piece → α} (lasting : Piece.Lasting member)
    {moment : Moment} (running : moment.Running) (piece : PieceId) :
    member ((moment.process load).engine.pieces.get piece) =
      member (moment.engine.pieces.get piece) := by
  have processed := running.processed load
  change member ((moment.process load).table.pieces.get piece) =
    member (moment.table.pieces.get piece)
  generalize (moment.process load).table = next at processed ⊢
  cases processed with
  | stepped _ _ => exact Table.lasting_apply lasting _ _ _ _
  | landed _ _ _ eventTimeMs shortCooldownMs => exact Table.lasting_land lasting _ _ _ _ _
  | dropped _ _ => rfl
  | unchanged => rfl

/-- **A run changes no lasting member of a piece.** -/
theorem run_lasting (coherent : (engine.view []).Coherent) {α : Type} {member : Piece → α}
    (lasting : Piece.Lasting member) (piece : PieceId) :
    member ((engine.run load calls).pieces.get piece) = member (engine.pieces.get piece) :=
  run_rule load (motive := fun moment =>
      member (moment.engine.pieces.get piece) = member (engine.pieces.get piece))
    (fun _ => True) (fun _ _ => True)
    (fun _ _ silent running kept =>
      have frame := silent_frame lasting.toSteady silent running piece
      ⟨frame.1, frame.2.2.trans kept⟩)
    (fun _ running _ kept => (process_lasting lasting running piece).trans kept)
    coherent (fun _ _ => trivial) (fun _ _ => trivial) rfl

/-- A piece that is not part of the layout is idle and nowhere. -/
def Foreign (engine : GameEngine) (piece : PieceId) : Prop :=
  engine.stateOf piece = .idle ∧ ∀ cell, engine.board.getPieceAt cell ≠ some piece

/-- Processing an event brings no piece into play. -/
theorem process_foreign {moment : Moment} (running : moment.Running) {piece : PieceId}
    (foreign : moment.engine.Foreign piece) : (moment.process load).engine.Foreign piece := by
  obtain ⟨idle, nowhere⟩ := foreign
  have processed := running.processed load
  change (moment.process load).table.stateOf piece = .idle ∧
    ∀ cell, (moment.process load).table.board.getPieceAt cell ≠ some piece
  generalize (moment.process load).table = next at processed ⊢
  cases processed with
  | stepped _ judged =>
      have untouched : piece ∉ StepVerdict.touched _ _ := fun touched => by
        rcases judged.touched_present running.coherent touched with busy | ⟨cell, here⟩
        · exact busy idle
        · exact nowhere cell here
      exact ⟨(judged.frame running.coherent untouched).1.trans idle, fun cell here =>
        nowhere cell (judged.origin running.coherent untouched here)⟩
  | landed _ _ here _ _ =>
      refine ⟨?_, nowhere⟩
      rw [Table.stateOf_land]
      split
      · rfl
      · exact idle
  | dropped _ _ => exact ⟨idle, nowhere⟩
  | unchanged => exact ⟨idle, nowhere⟩

theorem silent_foreign {admitted : GameEngine → Call → Prop} {first next : Moment}
    (silent : Moment.Silent load admitted first next) (running : first.Running) {piece : PieceId}
    (foreign : first.engine.Foreign piece) : next.Running ∧ next.engine.Foreign piece := by
  refine silent_rule load (motive := fun moment => moment.engine.Foreign piece) ?_ ?_ ?_ ?_ silent
    running foreign
  · intro engine other source destination _ checked before
    refine ⟨?_, before.2⟩
    change (engine.startMove load other source destination).stateOf piece = .idle
    rw [stateOf_startMove, if_neg]
    · exact before.1
    · rintro rfl
      exact before.2 source checked.here
  · intro engine castle _ _ _ _ _ _ checked before
    refine ⟨?_, before.2⟩
    change (engine.startCastle load castle).stateOf piece = .idle
    rw [stateOf_startCastle, if_neg]
    · exact before.1
    · rintro (rfl | rfl)
      · exact before.2 _ checked.king
      · exact before.2 _ checked.rook
  · intro engine other cell _ checked before
    refine ⟨?_, before.2⟩
    change (engine.startJump load other cell).stateOf piece = .idle
    rw [stateOf_startJump, if_neg]
    · exact before.1
    · rintro rfl
      exact before.2 cell checked.here
  · intro engine ms elapsed _ before
    simp only [Moment.advance, GameEngine.advanceTime, RealTimeArbiter.advanceTime,
      not_lt.mpr elapsed, if_false]
    exact before

/-- **No run brings a foreign piece into play.** -/
theorem run_foreign (coherent : (engine.view []).Coherent) {piece : PieceId}
    (foreign : engine.Foreign piece) : (engine.run load calls).Foreign piece :=
  run_rule load (motive := fun moment => moment.engine.Foreign piece) (fun _ => True)
    (fun _ _ => True) (fun _ _ silent running before => silent_foreign silent running before)
    (fun _ running _ before => process_foreign running before)
    coherent (fun _ _ => trivial) (fun _ _ => trivial) foreign

end Moments

end GameEngine

end KungFuChess

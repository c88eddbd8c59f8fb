import KungFuChess.Engine.Runs

/-!
# Cooldowns

Only the completion of an action starts a cooldown: a motion that ends, a castle that
is completed for its king and its rook, a jump that has landed. So the end of a piece's
cooldown is that of its latest completion, and the checks of the requests compare it
with the clock: before it no request touches the piece, and from it on no request is
answered differently because of it.
-/

set_option autoImplicit false

namespace KungFuChess

/-! ## Completed actions -/

/-- An action of a piece that is completed, and the cooldown it gives. -/
structure Completion where
  piece : PieceId
  completedAtMs : Int
  cooldownMs : Int
  deriving DecidableEq, Repr

/-- When the cooldown is over. -/
def Completion.restedAtMs (completion : Completion) : Int :=
  completion.completedAtMs + completion.cooldownMs

/-- The actions that a verdict on a step event completes. -/
def StepVerdict.completions (event : StepEvent) : StepVerdict → List Completion
  | .castled castle =>
      [⟨castle.king, event.eventTimeMs, 2000⟩, ⟨castle.rook, event.eventTimeMs, 2000⟩]
  | .stopped source cell => [⟨event.piece, event.eventTimeMs, source.distance cell * 1000⟩]
  | .captured source _ =>
      [⟨event.piece, event.eventTimeMs, source.distance event.toCell * 1000⟩]
  | .ignored | .slid | .lost _ => []

/-- The actions that processing the next event completes. -/
def Moment.completions (load : PieceConfigReader) : Moment → List Completion
  | ⟨engine, event :: _, _⟩ => (engine.verdict event).completions event
  | ⟨engine, [], event :: _⟩ =>
      if engine.Lands event then
        [⟨event.piece, event.eventTimeMs, max 0 (engine.landingCooldown load event.piece)⟩]
      else []
  | ⟨_, [], []⟩ => []

namespace GameEngine

/-- The actions that a run completes. -/
def completions (load : PieceConfigReader) (engine : GameEngine) (calls : List Call) :
    List Completion :=
  (engine.runMoments load calls).flatMap (Moment.completions load)

/-- The latest action that a piece has completed in a run. -/
def lastCompletion (load : PieceConfigReader) (engine : GameEngine) (calls : List Call)
    (piece : PieceId) : Option Completion :=
  ((engine.completions load calls).filter fun completion => completion.piece = piece).getLast?

end GameEngine

/-- When the cooldown of a piece is over after some completions. -/
def restedAfter (piece : PieceId) (before : Int) (completions : List Completion) : Int :=
  completions.foldl (fun restedAtMs completion =>
    if completion.piece = piece then completion.restedAtMs else restedAtMs) before

/-- It is over when the latest one says. -/
theorem restedAfter_latest {piece : PieceId} {before : Int} {completions : List Completion}
    {latest : Completion}
    (last : (completions.filter fun completion => completion.piece = piece).getLast? =
      some latest) : restedAfter piece before completions = latest.restedAtMs := by
  induction completions using List.reverseRecOn with
  | nil => cases last
  | append_singleton completions completion ih =>
      rw [restedAfter, List.foldl_append, List.foldl_cons, List.foldl_nil, ← restedAfter]
      rw [List.filter_append, List.filter_cons, List.filter_nil] at last
      split
      · next own =>
          rw [if_pos (decide_eq_true own), List.getLast?_concat] at last
          exact congrArg _ (Option.some.inj last)
      · next other =>
          rw [if_neg (by rw [decide_eq_true_eq]; exact other), List.append_nil] at last
          exact ih last

/-! ## What an event does to the cooldowns -/

/-- The end of a cooldown that starts now. -/
theorem Piece.cooldownUntilMs_startCooldown (piece : Piece) (currentTimeMs durationMs : Int) :
    (piece.startCooldown currentTimeMs durationMs).cooldownUntilMs =
      currentTimeMs + max 0 durationMs := by
  simp only [startCooldown]
  split <;> omega

theorem restedAfter_singleton (piece : PieceId) (before : Int) (completion : Completion) :
    restedAfter piece before [completion] =
      if completion.piece = piece then completion.restedAtMs else before := rfl

namespace Table

variable (table : Table) (piece : PieceId)

theorem cooldown_stop (own : PieceId) (source cell : Position) (eventTimeMs : Int) :
    ((table.stop own source cell eventTimeMs).pieces.get piece).cooldownUntilMs =
      restedAfter piece (table.pieces.get piece).cooldownUntilMs
        [⟨own, eventTimeMs, source.distance cell * 1000⟩] := by
  rw [restedAfter_singleton, stop, Heap.get_modify]
  by_cases same : piece = own
  · rw [if_pos same, if_pos same.symm, stopped, Piece.cooldownUntilMs_startCooldown]
    exact congrArg (eventTimeMs + ·) (max_eq_right (by omega))
  · rw [if_neg same, if_neg (Ne.symm same)]

theorem cooldown_finishCastle (castle : PendingCastle) (completedAt : Int) :
    ((table.finishCastle castle completedAt).pieces.get piece).cooldownUntilMs =
      restedAfter piece (table.pieces.get piece).cooldownUntilMs
        [⟨castle.king, completedAt, 2000⟩, ⟨castle.rook, completedAt, 2000⟩] := by
  have cooled : ∀ before : Piece, (before.startCooldown completedAt 2000).cooldownUntilMs =
      completedAt + 2000 := fun before => before.cooldownUntilMs_startCooldown completedAt 2000
  simp only [finishCastle, Heap.get_modify, restedAfter, List.foldl_cons, List.foldl_nil,
    Completion.restedAtMs]
  by_cases rook : piece = castle.rook
  · rw [if_pos rook, if_pos rook.symm, cooled]
  · rw [if_neg rook, if_neg (Ne.symm rook)]
    by_cases king : piece = castle.king
    · rw [if_pos king, if_pos king.symm, cooled]
    · rw [if_neg king, if_neg (Ne.symm king), if_neg rook, if_neg king]

theorem cooldown_land (flight : Flight) (eventTimeMs shortCooldownMs : Int) :
    ((table.land flight eventTimeMs shortCooldownMs).pieces.get piece).cooldownUntilMs =
      restedAfter piece (table.pieces.get piece).cooldownUntilMs
        [⟨flight.piece, eventTimeMs, max 0 shortCooldownMs⟩] := by
  rw [restedAfter_singleton, land, Heap.get_modify]
  by_cases same : piece = flight.piece
  · rw [if_pos same, if_pos same.symm, Piece.cooldownUntilMs_startCooldown, Completion.restedAtMs]
  · rw [if_neg same, if_neg (Ne.symm same)]

/-- **What a verdict does to the cooldowns.** -/
theorem cooldown_apply (event : StepEvent) (verdict : StepVerdict) :
    ((table.apply event verdict).pieces.get piece).cooldownUntilMs =
      restedAfter piece (table.pieces.get piece).cooldownUntilMs (verdict.completions event) := by
  cases verdict with
  | ignored => rfl
  | castled castle => exact table.cooldown_finishCastle piece castle event.eventTimeMs
  | slid => rfl
  | stopped source cell => exact table.cooldown_stop piece event.piece source cell _
  | lost target => exact table.steady_remove Piece.steady_cooldown piece event.piece
  | captured source target =>
      refine ((table.remove target).cooldown_stop piece event.piece source event.toCell _).trans ?_
      rw [table.steady_remove Piece.steady_cooldown piece target]
      rfl

end Table

namespace GameEngine

variable {load : PieceConfigReader}

/-- Processing an event completes its actions. -/
theorem process_cooldown {moment : Moment} (running : moment.Running) (piece : PieceId) :
    ((moment.process load).engine.pieces.get piece).cooldownUntilMs =
      restedAfter piece (moment.engine.pieces.get piece).cooldownUntilMs
        (moment.completions load) := by
  obtain ⟨engine, steps, landings⟩ := moment
  cases steps with
  | cons event steps =>
      exact (congrArg (fun table : Table => (table.pieces.get piece).cooldownUntilMs)
        (view_processStepEvent engine landings event)).trans
          ((engine.view landings).cooldown_apply piece event (engine.verdict event))
  | nil =>
      cases landings with
      | nil => rfl
      | cons event landings =>
          refine (congrArg (fun table : Table => (table.pieces.get piece).cooldownUntilMs)
            (view_processJumpLanding load engine event landings running.fresh)).trans ?_
          simp only [Moment.completions]
          split
          · exact Table.cooldown_land ..
          · rfl

/-- **The cooldowns after a run** are those of its completions. -/
theorem run_cooldown (load : PieceConfigReader) {engine : GameEngine}
    (coherent : (engine.view []).Coherent) (calls : List Call) (piece : PieceId) :
    ((engine.run load calls).pieces.get piece).cooldownUntilMs =
      restedAfter piece (engine.pieces.get piece).cooldownUntilMs
        (engine.completions load calls) := by
  rw [completions, restedAfter, List.foldl_flatMap]
  exact (full_journey load coherent calls).fold (motive := Moment.Running)
    (fun moment => (moment.engine.pieces.get piece).cooldownUntilMs)
    (fun restedAtMs moment => restedAfter piece restedAtMs (moment.completions load))
    (fun _ _ silent running =>
      have frame := silent_frame Piece.steady_cooldown silent running piece
      ⟨frame.1, frame.2.2⟩)
    (fun _ _ (processes : Moment.Processes load _ _) running =>
      ⟨processes.running running, processes ▸ process_cooldown running piece⟩)
    (Moment.of_landings coherent)

/-! ## Requests -/

/-- A call leaves a piece alone: it starts no motion and no jump of it, and does not change it. -/
structure LeavesAlone (engine next : GameEngine) (piece : PieceId) : Prop where
  same : next.pieces.get piece = engine.pieces.get piece
  motions : ∀ motion ∈ next.realTime.activeMotions, motion.piece = piece →
    motion ∈ engine.realTime.activeMotions
  jumps : ∀ jump ∈ next.realTime.activeJumps, jump.piece = piece →
    jump ∈ engine.realTime.activeJumps

theorem LeavesAlone.refl (engine : GameEngine) (piece : PieceId) :
    LeavesAlone engine engine piece :=
  ⟨rfl, fun _ member _ => member, fun _ member _ => member⟩

section Alone

variable (engine : GameEngine) {piece : PieceId}

theorem startMotion_leavesAlone {other : PieceId} (apart : piece ≠ other)
    (source destination : Position) (stepDurationMs : Int) (direct : Bool) :
    LeavesAlone engine (engine.startMotion other source destination stepDurationMs direct)
      piece where
  same := Heap.get_modify_of_ne engine.pieces (·.setState .moving) apart
  motions := fun motion member own => by
    rcases List.mem_append.mp member with before | started
    · exact before
    · rw [List.mem_singleton.mp started] at own
      exact absurd own.symm apart
  jumps := fun _ member _ => member

theorem LeavesAlone.trans {first second third : GameEngine}
    (before : LeavesAlone first second piece)
    (after : LeavesAlone second third piece) : LeavesAlone first third piece :=
  ⟨after.same.trans before.same,
    fun motion member own => before.motions motion (after.motions motion member own) own,
    fun jump member own => before.jumps jump (after.jumps jump member own) own⟩

theorem modifyPiece_leavesAlone {other : PieceId} (apart : piece ≠ other)
    (change : Piece → Piece) : LeavesAlone engine (engine.modifyPiece other change) piece :=
  ⟨Heap.get_modify_of_ne _ _ apart, fun _ member _ => member, fun _ member _ => member⟩

/-- **A request acts only on rested pieces**: it leaves a piece on cooldown alone. -/
theorem requestMove_leavesAlone
    (busy : engine.stateOf piece ≠ .idle ∨
      (engine.pieces.get piece).isOnCooldown engine.getCurrentTimeMs = true)
    (source destination : Position) :
    LeavesAlone engine (engine.requestMove load source destination).2 piece := by
  have apart : ∀ {other : PieceId}, engine.stateOf other = .idle →
      (engine.pieces.get other).isOnCooldown engine.getCurrentTimeMs = false → piece ≠ other := by
    rintro other idle rested rfl
    rcases busy with moving | cooling
    · exact moving idle
    · rw [rested] at cooling
      cases cooling
  rcases requestMove_cases load engine source destination with
    same | ⟨other, checked, started⟩ | ⟨castle, _, _, checked, started⟩
  · rw [same]
    exact .refl engine piece
  · rw [started]
    have other := apart checked.idle checked.rested
    exact (modifyPiece_leavesAlone engine other _).trans (startMotion_leavesAlone _ other ..)
  · rw [started]
    have king := apart checked.kingIdle checked.kingRested
    have rook := apart checked.rookIdle checked.rookRested
    have marked := (modifyPiece_leavesAlone engine king (·.markAsMoved)).trans
      (modifyPiece_leavesAlone _ rook (·.markAsMoved))
    have moved := (marked.trans (startMotion_leavesAlone _ king castle.kingSource
      castle.kingDestination (max 1 ((load (engine.pieces.get castle.king).token
        "move").moveTimePerCellMs * 2)) true)).trans
      (startMotion_leavesAlone _ rook castle.rookSource castle.rookDestination
        (max 1 ((load (engine.pieces.get castle.king).token "move").moveTimePerCellMs * 2)) true)
    exact ⟨moved.same, moved.motions, moved.jumps⟩

theorem requestJump_leavesAlone
    (busy : engine.stateOf piece ≠ .idle ∨
      (engine.pieces.get piece).isOnCooldown engine.getCurrentTimeMs = true) (cell : Position) :
    LeavesAlone engine (engine.requestJump load cell).2 piece := by
  rcases requestJump_cases load engine cell with same | ⟨other, checked, started⟩
  · rw [same]
    exact .refl engine piece
  · rw [started]
    have other : piece ≠ other := by
      rintro rfl
      rcases busy with moving | cooling
      · exact moving checked.idle
      · rw [checked.rested] at cooling
        cases cooling
    refine ⟨Heap.get_modify_of_ne engine.pieces (·.setState .airborne) other,
      fun _ member _ => member, fun jump member own => ?_⟩
    rcases List.mem_append.mp member with before | started
    · exact before
    · rw [List.mem_singleton.mp started] at own
      exact absurd own.symm other

end Alone

/-! ### What the answers depend on -/

/-- Two engines that look alike to every request. -/
structure Alike (first second : GameEngine) : Prop where
  board : first.board = second.board
  isOver : first.gameOver = second.gameOver
  clock : first.getCurrentTimeMs = second.getCurrentTimeMs
  states : ∀ piece, first.stateOf piece = second.stateOf piece
  kinds : ∀ piece, first.kindOf piece = second.kindOf piece
  colors : ∀ piece, first.colorOf piece = second.colorOf piece
  moved : ∀ piece, (first.pieces.get piece).hasMoved = (second.pieces.get piece).hasMoved
  cooling : ∀ piece, (first.pieces.get piece).isOnCooldown first.getCurrentTimeMs =
    (second.pieces.get piece).isOnCooldown second.getCurrentTimeMs

section Alike

variable {first second : GameEngine} (alike : Alike first second)

include alike

theorem Alike.isSquareAttacked (cell : Position) (byColor : PieceColor) :
    first.isSquareAttacked cell byColor = second.isSquareAttacked cell byColor := by
  have attacks : ∀ source, first.attacksFrom source cell byColor =
      second.attacksFrom source cell byColor := fun source => by
    simp only [attacksFrom, alike.board, alike.colors, alike.states, alike.kinds]
  simp only [GameEngine.isSquareAttacked, alike.board, attacks]

theorem Alike.canCastle (source destination : Position) :
    first.canCastle source destination = second.canCastle source destination := by
  have clock := alike.clock
  have cooling := alike.cooling
  rw [clock] at cooling
  simp only [GameEngine.canCastle, alike.board, alike.kinds, alike.colors, alike.states,
    alike.moved, clock, cooling, alike.isSquareAttacked]

theorem Alike.validateMove (source destination : Position) :
    RuleEngine.validateMove first.board first.pieces source destination =
      RuleEngine.validateMove second.board second.pieces source destination := by
  have kinds : ∀ piece, (first.pieces.get piece).kind = (second.pieces.get piece).kind :=
    alike.kinds
  have colors : ∀ piece, (first.pieces.get piece).color = (second.pieces.get piece).color :=
    alike.colors
  simp only [RuleEngine.validateMove, RuleEngine.isLegalByPieceKind, PieceRules.canMoveLikePawn,
    alike.board, kinds, colors]

/-- Engines that look alike answer alike. -/
theorem Alike.answers (load : PieceConfigReader) (source destination cell : Position) :
    (first.requestMove load source destination).1 =
        (second.requestMove load source destination).1 ∧
      (first.requestJump load cell).1 = (second.requestJump load cell).1 := by
  have clock := alike.clock
  have cooling := alike.cooling
  rw [clock] at cooling
  have castling : first.isCastlingRequest source destination =
      second.isCastlingRequest source destination := by
    simp only [isCastlingRequest, alike.board, alike.kinds]
  constructor
  · have castles := alike.canCastle source destination
    have valid := alike.validateMove source destination
    simp only [requestMove, alike.board, alike.isOver, alike.states, clock, cooling, castling]
      at castles valid ⊢
    rw [castles, valid]
    split
    · rfl
    · split
      · rfl
      · cases second.board.getPieceAt source with
        | none => rfl
        | some piece =>
            simp only
            split
            · rfl
            · split
              · cases second.canCastle source destination <;> rfl
              · split <;> rfl
  · simp only [requestJump, alike.board, alike.isOver, alike.states, clock, cooling]
    split
    · rfl
    · split
      · rfl
      · cases second.board.getPieceAt cell with
        | none => rfl
        | some piece =>
            simp only
            split <;> rfl

end Alike

/-- A piece whose cooldown is over now. -/
def rest (nowMs : Int) (piece : Piece) : Piece := { piece with cooldownUntilMs := nowMs }

/-- The engine without the cooldown of a piece. -/
def withoutCooldown (engine : GameEngine) (piece : PieceId) : GameEngine :=
  engine.modifyPiece piece (rest engine.getCurrentTimeMs)

/-- A rested piece looks the same without its cooldown. -/
theorem alike_withoutCooldown (engine : GameEngine) {piece : PieceId}
    (rested : (engine.pieces.get piece).isOnCooldown engine.getCurrentTimeMs = false) :
    Alike (engine.withoutCooldown piece) engine := by
  have kept : ∀ {α : Type} (member : Piece → α), member (rest engine.getCurrentTimeMs
      (engine.pieces.get piece)) = member (engine.pieces.get piece) → ∀ other,
        member ((engine.pieces.modify piece (rest engine.getCurrentTimeMs)).get other) =
          member (engine.pieces.get other) := fun member same =>
    Heap.member_modify member engine.pieces same
  refine ⟨rfl, rfl, rfl, kept Piece.state rfl, kept Piece.kind rfl, kept Piece.color rfl,
    kept Piece.hasMoved rfl, kept (fun known => known.isOnCooldown engine.getCurrentTimeMs) ?_⟩
  rw [rested, Piece.isOnCooldown]
  exact Bool.and_eq_false_iff.mpr (.inr (decide_eq_false (lt_irrefl _)))

/-! ## Runs -/

/-- **Cooldowns are enforced exactly.** Before the cooldown of the latest completed action of a
piece is over, no request starts an action of the piece; from then on the cooldown of the piece
plays no part in the answer to any request. -/
theorem cooldown_enforced (load : PieceConfigReader) (layout : Layout)
    (eventBus : Option EventBus) (calls : List Call) (piece : PieceId) (completion : Completion)
    (latest : (new layout eventBus).lastCompletion load calls piece = some completion) :
    (((new layout eventBus).run load calls).getCurrentTimeMs < completion.restedAtMs →
      ∀ source destination cell,
        LeavesAlone ((new layout eventBus).run load calls)
          (((new layout eventBus).run load calls).requestMove load source destination).2 piece ∧
        LeavesAlone ((new layout eventBus).run load calls)
          (((new layout eventBus).run load calls).requestJump load cell).2 piece) ∧
    (completion.restedAtMs ≤ ((new layout eventBus).run load calls).getCurrentTimeMs →
      (((new layout eventBus).run load calls).pieces.get piece).isOnCooldown
          ((new layout eventBus).run load calls).getCurrentTimeMs = false ∧
      ∀ source destination cell,
        ((((new layout eventBus).run load calls).withoutCooldown piece).requestMove load source
            destination).1 =
          (((new layout eventBus).run load calls).requestMove load source destination).1 ∧
        ((((new layout eventBus).run load calls).withoutCooldown piece).requestJump load cell).1 =
          (((new layout eventBus).run load calls).requestJump load cell).1) := by
  have until_ := run_cooldown load (new_coherent layout eventBus) calls piece
  rw [restedAfter_latest latest] at until_
  generalize (new layout eventBus).run load calls = engine at until_ ⊢
  constructor
  · intro early source destination cell
    have busy : engine.stateOf piece ≠ .idle ∨
        (engine.pieces.get piece).isOnCooldown engine.getCurrentTimeMs = true := by
      by_cases idle : engine.stateOf piece = .idle
      · have idle : (engine.pieces.get piece).state = .idle := idle
        refine .inr ?_
        rw [Piece.isOnCooldown, until_, idle]
        exact decide_eq_true early
      · exact .inl idle
    exact ⟨requestMove_leavesAlone engine busy source destination,
      requestJump_leavesAlone engine busy cell⟩
  · intro late
    have rested : (engine.pieces.get piece).isOnCooldown engine.getCurrentTimeMs = false := by
      rw [Piece.isOnCooldown, until_]
      exact Bool.and_eq_false_iff.mpr (.inr (decide_eq_false (not_lt.mpr late)))
    exact ⟨rested, fun source destination cell =>
      (alike_withoutCooldown engine rested).answers load source destination cell⟩

/-- White's pawn has made a step and rests for half a second more. -/
def restingPawn : List Call := [.requestMove ⟨6, 4⟩ ⟨5, 4⟩, .wait 1500]

theorem cooldown_enforced_restingPawn :
    (new createInitialBoard none).lastCompletion .fallback restingPawn 21 =
        some ⟨21, 1000, 1000⟩ ∧
      ∀ source destination cell,
        LeavesAlone ((new createInitialBoard none).run .fallback restingPawn)
          (((new createInitialBoard none).run .fallback restingPawn).requestMove .fallback source
            destination).2 21 ∧
        LeavesAlone ((new createInitialBoard none).run .fallback restingPawn)
          (((new createInitialBoard none).run .fallback restingPawn).requestJump .fallback cell).2
            21 :=
  have latest : (new createInitialBoard none).lastCompletion .fallback restingPawn 21 =
      some ⟨21, 1000, 1000⟩ := by decide +kernel
  ⟨latest, (cooldown_enforced .fallback createInitialBoard none restingPawn 21 _ latest).1
    (by decide +kernel)⟩

end GameEngine

end KungFuChess

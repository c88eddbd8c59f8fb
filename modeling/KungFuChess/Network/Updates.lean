import KungFuChess.Messaging.Snapshot
import KungFuChess.Network.Presentation

/-!
# State updates

The message with the snapshot of a game. The receiver's checks of cells, tokens,
times and cooldowns reject no snapshot an engine can produce: what they ask for is
what a presentable engine keeps.
-/

set_option autoImplicit false

namespace KungFuChess

open Protocol

/-! ## Snapshots -/

/-- The numbers of an engine are in the ranges of their types: `long long` for times and
durations, `int` for scores and orders. -/
structure GameEngine.InRange (engine : GameEngine) : Prop where
  clock : engine.getCurrentTimeMs < 2 ^ 63
  whiteScore : engine.whiteScore < 2 ^ 31
  blackScore : engine.blackScore < 2 ^ 31
  cooldowns : ∀ cell ∈ engine.board.positions, ∀ piece ∈ engine.board.getPieceAt cell,
    (engine.pieces.get piece).totalCooldownMs < 2 ^ 63
  stepDurations : ∀ motion ∈ engine.realTime.activeMotions, motion.stepDurationMs < 2 ^ 63
  nextSteps : ∀ motion ∈ engine.realTime.activeMotions, motion.nextStepTimeMs < 2 ^ 63
  orders : ∀ motion ∈ engine.realTime.activeMotions, motion.order < 2 ^ 31
  finishTimes : ∀ jump ∈ engine.realTime.activeJumps, jump.finishTimeMs < 2 ^ 63

/-- The pieces in play are those the layout made. -/
theorem GameEngine.run_made (load : PieceConfigReader) (layout : Layout)
    (eventBus : Option EventBus) (calls : List Call) {piece : PieceId}
    (present : ¬ ((new layout eventBus).run load calls).Foreign piece) :
    piece < layout.nextPieceId := by
  by_contra beyond
  exact present (run_foreign (new_coherent layout eventBus)
    ⟨layout.idle piece, fun _ found => beyond (layout.made found)⟩)

namespace GameStateSnapshotBuilder

/-- The members the server adds to the snapshot of its engine. -/
def addPlayers (snapshot : GameStateSnapshot) (whiteUsername blackUsername : String)
    (playersReady : Bool) (gameplayStartsAtEpochMs : Int) : GameStateSnapshot :=
  { snapshot with
    whiteUsername := whiteUsername
    blackUsername := blackUsername
    playersReady := playersReady
    gameplayStartsAtEpochMs := gameplayStartsAtEpochMs }

section WellFormed

variable {engine : GameEngine}

theorem isValidToken_token (piece : Piece) : isValidToken piece.token = true := by
  simp only [isValidToken, Piece.token, String.toList_ofList]
  cases piece.color <;> cases piece.kind <;> decide

theorem makePieceSnapshot_wellFormed (presentable : engine.Presentable) (range : engine.InRange)
    {piece : PieceId} {cell : Position} (here : engine.board.getPieceAt cell = some piece)
    (id : (engine.pieces.get piece).id < 2 ^ 31) :
    (makePieceSnapshot engine piece cell).WellFormed where
  id := id
  token := isValidToken_token _
  position := by
    simp only [makePieceSnapshot, visiblePositionOf]
    split
    · next motion underway =>
        exact (presentable.motions motion (List.mem_of_find?_eq_some underway)).currentCell
    · exact (presentable.board cell).mp (Board.isInside_of_getPieceAt here)
  state := by
    simp only [makePieceSnapshot]
    cases (engine.pieces.get piece).state <;> decide
  remaining := (presentable.cooling piece).remaining.1
  withinTotal := (presentable.cooling piece).remaining.2
  total :=
    range.cooldowns cell (Board.mem_positions.mpr (Board.isInside_of_getPieceAt here)) piece here

theorem makeMotionSnapshot_wellFormed (presentable : engine.Presentable) (range : engine.InRange)
    {motion : Motion} (member : motion ∈ engine.realTime.activeMotions)
    (id : (engine.pieces.get motion.piece).id < 2 ^ 31) :
    (makeMotionSnapshot engine.pieces motion).WellFormed :=
  have onBoard := presentable.motions motion member
  { pieceId := id
    source := onBoard.source
    destination := onBoard.destination
    currentCell := onBoard.currentCell
    steps := onBoard.steps
    stepDuration := ⟨motion.stepPositive.le, range.stepDurations motion member⟩
    nextStepTime := ⟨onBoard.nextStepTime, range.nextSteps motion member⟩
    order := range.orders motion member }

theorem makeJumpSnapshot_wellFormed (presentable : engine.Presentable) (range : engine.InRange)
    {jump : Jump} (member : jump ∈ engine.realTime.activeJumps)
    (id : (engine.pieces.get jump.piece).id < 2 ^ 31) :
    (makeJumpSnapshot engine.pieces jump).WellFormed where
  pieceId := id
  cell := (presentable.jumps jump member).1
  finishTime := ⟨(presentable.jumps jump member).2, range.finishTimes jump member⟩

theorem makeHistorySnapshot_wellFormed {now : Int} (small : now < 2 ^ 63)
    {entry : MoveHistoryEntry} (presentable : entry.Presentable now) :
    (makeHistorySnapshot entry).WellFormed where
  completedAt := ⟨presentable.notNegative, presentable.completed.trans_lt small⟩
  color := by
    simp only [makeHistorySnapshot]
    cases entry.color <;> decide
  pieceKind := by
    simp only [makeHistorySnapshot, kindToString, isValidKind, String.toList_ofList]
    cases entry.pieceKind <;> decide
  source := presentable.source
  destination := presentable.destination
  notationText := presentable.text.1

/-- **The snapshot of a presentable engine** passes every check of its receiver. -/
theorem build_wellFormed (presentable : engine.Presentable) (range : engine.InRange)
    (coherent : (engine.view []).Coherent)
    (ids : ∀ piece, ¬ engine.Foreign piece → (engine.pieces.get piece).id < 2 ^ 31)
    {whiteUsername blackUsername : String} (white : IsText whiteUsername)
    (black : IsText blackUsername) (playersReady : Bool) {gameplayStartsAtEpochMs : Int}
    (start : IsCount gameplayStartsAtEpochMs) :
    (addPlayers (build engine) whiteUsername blackUsername playersReady
      gameplayStartsAtEpochMs).WellFormed where
  serverTime := ⟨presentable.clock, range.clock⟩
  whiteScore := ⟨presentable.scores.1, range.whiteScore⟩
  blackScore := ⟨presentable.scores.2, range.blackScore⟩
  whiteUsername := white
  blackUsername := black
  gameplayStart := start
  pieces := by
    intro entry member
    obtain ⟨cell, piece, here, _, rfl⟩ := build_made member
    exact makePieceSnapshot_wellFormed presentable range here
      (ids piece fun foreign => foreign.2 cell here)
  motions := by
    intro entry member
    obtain ⟨motion, active, rfl⟩ := List.mem_map.mp member
    refine makeMotionSnapshot_wellFormed presentable range active (ids _ fun foreign => ?_)
    have moving := coherent.stateOf_motion active
    exact PieceState.noConfusion (moving.symm.trans foreign.1)
  jumps := by
    intro entry member
    obtain ⟨jump, active, rfl⟩ := List.mem_map.mp member
    refine makeJumpSnapshot_wellFormed presentable range active (ids _ fun foreign => ?_)
    have airborne := coherent.flying jump.flight
      (List.mem_append_left _ (List.mem_map_of_mem active))
    exact PieceState.noConfusion (airborne.symm.trans foreign.1)
  whiteHistory := by
    intro history member
    obtain ⟨entry, recorded, rfl⟩ := List.mem_map.mp member
    exact makeHistorySnapshot_wellFormed range.clock (presentable.whiteHistory entry recorded)
  blackHistory := by
    intro history member
    obtain ⟨entry, recorded, rfl⟩ := List.mem_map.mp member
    exact makeHistorySnapshot_wellFormed range.clock (presentable.blackHistory entry recorded)

end WellFormed

end GameStateSnapshotBuilder

/-! ## Reachable games -/

/-- A message with a snapshot. -/
def Message.withSnapshot (header : Message) (snapshot : GameStateSnapshot) : Message :=
  { header with
    hasSnapshot := true
    snapshot := snapshot }

theorem Message.WellFormed.withSnapshot {header : Message} (wellFormed : header.WellFormed)
    {snapshot : GameStateSnapshot} (shown : snapshot.WellFormed) :
    (header.withSnapshot snapshot).WellFormed :=
  { wellFormed with
    sent := fun _ => shown
    notSent := fun absent => Bool.noConfusion absent }

namespace GameEngine

/-- `stateUpdate` of the game loop, with the members the server adds to the snapshot. -/
def stateUpdate (engine : GameEngine) (whiteUsername blackUsername : String) (playersReady : Bool)
    (gameplayStartsAtEpochMs : Int) : Message :=
  Message.withSnapshot
    { type := .gameStateUpdated
      accepted := true
      reason := "state_update"
      createdAtMs := engine.getCurrentTimeMs }
    (GameStateSnapshotBuilder.addPlayers (GameStateSnapshotBuilder.build engine) whiteUsername
      blackUsername playersReady gameplayStartsAtEpochMs)

section InitialBoard

variable (load : PieceConfigReader) (eventBus : Option EventBus) (calls : List Call)

theorem run_initial_ids (piece : PieceId) :
    (((new createInitialBoard eventBus).run load calls).pieces.get piece).id = piece :=
  (run_lasting (new_coherent createInitialBoard eventBus) Piece.lasting_id piece).trans
    (createInitialBoard.ids piece)

/-- The pieces in play have the identifiers from one to thirty-two. -/
theorem run_initial_made {piece : PieceId}
    (present : ¬ ((new createInitialBoard eventBus).run load calls).Foreign piece) :
      piece < 33 := by
  have made : createInitialBoard.nextPieceId = 33 := rfl
  exact made ▸ run_made load createInitialBoard eventBus calls present

theorem run_initial_presentable :
    ((new createInitialBoard eventBus).run load calls).Presentable :=
  run_presentable load calls (new_coherent createInitialBoard eventBus) (new_presentable eventBus
    Layout.Presentable.initialBoard.board Layout.Presentable.initialBoard.cooling)

/-- **The snapshot of a reachable engine** is well formed. -/
theorem run_initial_wellFormed (range : ((new createInitialBoard eventBus).run load calls).InRange)
    {whiteUsername blackUsername : String} (white : IsText whiteUsername)
    (black : IsText blackUsername) (playersReady : Bool) {gameplayStartsAtEpochMs : Int}
    (start : IsCount gameplayStartsAtEpochMs) :
    (GameStateSnapshotBuilder.addPlayers
      (GameStateSnapshotBuilder.build ((new createInitialBoard eventBus).run load calls))
      whiteUsername blackUsername playersReady gameplayStartsAtEpochMs).WellFormed := by
  refine GameStateSnapshotBuilder.build_wellFormed (run_initial_presentable load eventBus calls)
    range (run_coherent load createInitialBoard eventBus calls) (fun piece present => ?_) white
    black playersReady start
  rw [run_initial_ids]
  exact (run_initial_made load eventBus calls present).trans (by decide)

end InitialBoard

/-- **Every reachable game can be shown.** Whatever calls led from the initial board to
an engine, a message with the snapshot of this engine is written, and read back as it was. -/
theorem run_snapshot_carried (load : PieceConfigReader) (eventBus : Option EventBus)
    (calls : List Call) (range : ((new createInitialBoard eventBus).run load calls).InRange)
    {whiteUsername blackUsername : String} (white : IsText whiteUsername)
    (black : IsText blackUsername) (playersReady : Bool) {gameplayStartsAtEpochMs : Int}
    (start : IsCount gameplayStartsAtEpochMs) {header : Message} (wellFormed : header.WellFormed) :
    ∃ json,
      serialize (header.withSnapshot (GameStateSnapshotBuilder.addPlayers
        (GameStateSnapshotBuilder.build ((new createInitialBoard eventBus).run load calls))
        whiteUsername blackUsername playersReady gameplayStartsAtEpochMs)) = .ok json ∧
      deserialize json = .ok (header.withSnapshot (GameStateSnapshotBuilder.addPlayers
        (GameStateSnapshotBuilder.build ((new createInitialBoard eventBus).run load calls))
        whiteUsername blackUsername playersReady gameplayStartsAtEpochMs)) := by
  have shown := run_initial_wellFormed load eventBus calls range white black playersReady start
  obtain ⟨members, written, _, reads⟩ := carries_message (wellFormed.withSnapshot shown)
  exact ⟨JsonText.object members, written, reads⟩

/-- A move and a jump that are under way after a capture. -/
def busyCalls : List Call :=
  [.requestMove ⟨6, 4⟩ ⟨4, 4⟩, .requestMove ⟨1, 3⟩ ⟨3, 3⟩, .wait 5000, .requestMove ⟨4, 4⟩ ⟨3, 3⟩,
    .wait 2500, .requestJump ⟨6, 0⟩, .requestMove ⟨7, 3⟩ ⟨3, 7⟩, .wait 500]

theorem busyCalls_inRange : ((new createInitialBoard none).run .fallback busyCalls).InRange :=
  ⟨by decide +kernel, by decide +kernel, by decide +kernel, by decide +kernel, by decide +kernel,
    by decide +kernel, by decide +kernel, by decide +kernel⟩

/-- The game of these calls is shown. -/
theorem run_snapshot_carried_busy :
    ∃ json,
      serialize ((Message.withSnapshot { type := .gameStateUpdated, createdAtMs := 7 })
        (GameStateSnapshotBuilder.addPlayers (GameStateSnapshotBuilder.build
          ((new createInitialBoard none).run .fallback busyCalls)) "ann" "bob" true 9)) = .ok json ∧
      deserialize json = .ok ((Message.withSnapshot { type := .gameStateUpdated, createdAtMs := 7 })
        (GameStateSnapshotBuilder.addPlayers (GameStateSnapshotBuilder.build
          ((new createInitialBoard none).run .fallback busyCalls)) "ann" "bob" true 9)) := by
  exact run_snapshot_carried .fallback none busyCalls busyCalls_inRange (by decide) (by decide) true
    (by decide) ⟨by decide, .inl rfl, .inl rfl, by decide, by decide, by decide, by decide,
      by decide, by decide, by decide, by decide, nofun, fun _ => rfl⟩

end GameEngine

end KungFuChess

import KungFuChess.Engine.Runs
import KungFuChess.Messaging.Message

/-!
# Snapshots of the game

The state the server sends to its clients, and the builder that reads it off an
engine. The builder walks the grid, so a piece that no cell holds is not in the
snapshot, whatever its state. `run_snapshot_complete` states what keeps the
pieces on the grid: no piece is put down on a cell that holds another live piece.
-/

set_option autoImplicit false

namespace KungFuChess

namespace GameStateSnapshotBuilder

/-! ## The builder -/

def stateToString : PieceState → String
  | .idle => "idle"
  | .moving => "moving"
  | .airborne => "airborne"
  | .captured => "captured"

def colorToString : PieceColor → String
  | .white => "w"
  | .black => "b"

def kindToString (kind : PieceKind) : String := String.ofList [Piece.kindToChar kind]

/-- The cell a piece is shown on: the cell its motion has reached, or else the
cell of the grid it was found on. -/
def visiblePositionOf (piece : PieceId) (boardPosition : Position) (motions : List Motion) :
    Position :=
  match motions.find? fun motion => motion.piece = piece with
  | some motion => motion.currentCell
  | none => boardPosition

def makeHistorySnapshot (entry : MoveHistoryEntry) : MoveHistorySnapshot where
  completedAtMs := entry.completedAtMs
  color := colorToString entry.color
  pieceKind := kindToString entry.pieceKind
  source := entry.source
  destination := entry.destination
  wasCapture := entry.wasCapture
  wasPromotion := entry.wasPromotion
  wasJump := entry.wasJump
  notationText := entry.notationText

def makePieceSnapshot (engine : GameEngine) (piece : PieceId) (boardPosition : Position) :
    PieceSnapshot :=
  let value := engine.pieces.get piece
  { id := value.id
    token := value.token
    position := visiblePositionOf piece boardPosition engine.realTime.activeMotions
    state := stateToString value.state
    hasMoved := value.hasMoved
    remainingCooldownMs := value.getRemainingCooldownMs engine.getCurrentTimeMs
    totalCooldownMs := value.totalCooldownMs }

/-- One turn of the loop over the cells; the second part of the state is the set
of the identifiers added so far. -/
def addCell (engine : GameEngine) (built : List PieceSnapshot × List PieceId)
    (boardPosition : Position) : List PieceSnapshot × List PieceId :=
  match engine.board.getPieceAt boardPosition with
  | none => built
  | some piece =>
      if engine.stateOf piece = .captured ∨ (engine.pieces.get piece).id ∈ built.2 then built
      else
        (built.1 ++ [makePieceSnapshot engine piece boardPosition],
          (engine.pieces.get piece).id :: built.2)

def makeMotionSnapshot (pieces : Heap) (motion : Motion) : MotionSnapshot where
  pieceId := (pieces.get motion.piece).id
  source := motion.source
  destination := motion.destination
  currentCell := motion.currentCell
  rowStep := motion.rowStep
  colStep := motion.colStep
  directMove := motion.directMove
  stepDurationMs := motion.stepDurationMs
  nextStepTimeMs := motion.nextStepTimeMs
  order := motion.order

def makeJumpSnapshot (pieces : Heap) (jump : Jump) : JumpSnapshot where
  pieceId := (pieces.get jump.piece).id
  cell := jump.cell
  finishTimeMs := jump.finishTimeMs

def build (engine : GameEngine) : GameStateSnapshot where
  serverTimeMs := engine.getCurrentTimeMs
  gameOver := engine.gameOver
  whiteScore := engine.whiteScore
  blackScore := engine.blackScore
  pieces := (engine.board.positions.foldl (addCell engine) ([], [])).1
  motions := engine.realTime.activeMotions.map (makeMotionSnapshot engine.pieces)
  jumps := engine.realTime.activeJumps.map (makeJumpSnapshot engine.pieces)
  whiteMoveHistory := engine.whiteMoveHistory.map makeHistorySnapshot
  blackMoveHistory := engine.blackMoveHistory.map makeHistorySnapshot

/-! ## What the loop over the cells collects -/

/-- The pieces the loop finds on a list of cells, when the grid doubles none and
every identifier is its pointer. -/
def livePieceAt (engine : GameEngine) (cell : Position) : Option PieceId :=
  (engine.board.getPieceAt cell).filter fun piece => engine.stateOf piece ≠ .captured

theorem livePieceAt_eq_some {engine : GameEngine} {cell : Position} {piece : PieceId} :
    livePieceAt engine cell = some piece ↔
      engine.board.getPieceAt cell = some piece ∧ engine.stateOf piece ≠ .captured := by
  rw [livePieceAt, Option.filter_eq_some_iff, decide_eq_true_eq]

/-- The loop's set holds the identifiers of its list, each once. -/
structure Collected (built : List PieceSnapshot × List PieceId) : Prop where
  same : ∀ id, id ∈ built.2 ↔ id ∈ built.1.map PieceSnapshot.id
  distinct : (built.1.map PieceSnapshot.id).Nodup

section Collect

variable {engine : GameEngine}

/-- One turn of the loop adds the live piece of its cell. -/
theorem addCell_collects (ids : ∀ piece, (engine.pieces.get piece).id = piece)
    {built : List PieceSnapshot × List PieceId} (collected : Collected built) (cell : Position) :
    Collected (addCell engine built cell) ∧
      ∀ id, id ∈ (addCell engine built cell).1.map PieceSnapshot.id ↔
        id ∈ built.1.map PieceSnapshot.id ∨ livePieceAt engine cell = some id := by
  unfold addCell
  cases found : engine.board.getPieceAt cell with
  | none =>
      refine ⟨collected, fun id => ?_⟩
      simp only [livePieceAt_eq_some, found, reduceCtorEq, false_and, or_false]
  | some piece =>
      dsimp only
      by_cases captured : engine.stateOf piece = .captured
      · rw [if_pos (.inl captured)]
        refine ⟨collected, fun id => ⟨.inl, ?_⟩⟩
        rintro (listed | live)
        · exact listed
        · obtain ⟨here, alive⟩ := livePieceAt_eq_some.mp live
          rw [found] at here
          exact absurd (Option.some.inj here ▸ captured) alive
      · have live : livePieceAt engine cell = some piece :=
          livePieceAt_eq_some.mpr ⟨found, captured⟩
        by_cases added : piece ∈ built.2
        · rw [if_pos (.inr ((ids piece).symm ▸ added))]
          refine ⟨collected, fun id => ⟨.inl, ?_⟩⟩
          rintro (listed | found')
          · exact listed
          · rw [live] at found'
            exact Option.some.inj found' ▸ (collected.same piece).mp added
        · have fresh : ¬ (engine.stateOf piece = .captured ∨
              (engine.pieces.get piece).id ∈ built.2) := by
            rw [ids piece]
            exact not_or.mpr ⟨captured, added⟩
          have entry : (makePieceSnapshot engine piece cell).id = piece := ids piece
          rw [if_neg fresh]
          refine ⟨⟨fun id => ?_, ?_⟩, fun id => ?_⟩
          · rw [List.mem_cons, ids piece, List.map_append, List.mem_append, collected.same id,
              List.map_singleton, List.mem_singleton, entry, or_comm]
          · rw [List.map_append, List.map_singleton, entry]
            refine List.Nodup.append collected.distinct (List.nodup_singleton _) ?_
            intro id listed own
            rw [List.mem_singleton.mp own] at listed
            exact added ((collected.same piece).mpr listed)
          · rw [List.map_append, List.mem_append, List.map_singleton, List.mem_singleton, entry,
              live, Option.some.injEq, eq_comm (a := piece)]

/-- **The loop collects the live pieces of its cells**, each once. -/
theorem foldl_addCell_collects (ids : ∀ piece, (engine.pieces.get piece).id = piece)
    (cells : List Position) :
    ∀ built : List PieceSnapshot × List PieceId, Collected built →
      Collected (cells.foldl (addCell engine) built) ∧
        ∀ id, id ∈ (cells.foldl (addCell engine) built).1.map PieceSnapshot.id ↔
          id ∈ built.1.map PieceSnapshot.id ∨
            ∃ cell ∈ cells, livePieceAt engine cell = some id := by
  induction cells with
  | nil =>
      intro built collected
      refine ⟨collected, fun id => ?_⟩
      simp only [List.foldl_nil, List.not_mem_nil, false_and, exists_false, or_false]
  | cons cell rest ih =>
      intro built collected
      obtain ⟨once, here⟩ := addCell_collects ids collected cell
      obtain ⟨all, later⟩ := ih _ once
      refine ⟨all, fun id => (later id).trans ?_⟩
      rw [here id, or_assoc]
      refine or_congr_right ⟨?_, ?_⟩
      · rintro (live | ⟨other, member, live⟩)
        · exact ⟨cell, List.mem_cons_self .., live⟩
        · exact ⟨other, List.mem_cons_of_mem _ member, live⟩
      · rintro ⟨other, member, live⟩
        rcases List.mem_cons.mp member with rfl | after
        · exact .inl live
        · exact .inr ⟨other, after, live⟩

/-- **The entries of a snapshot**: one for each live piece on the grid. -/
theorem build_entries (ids : ∀ piece, (engine.pieces.get piece).id = piece) :
    ((build engine).pieces.map PieceSnapshot.id).Nodup ∧
      ∀ piece, piece ∈ (build engine).pieces.map PieceSnapshot.id ↔
        (∃ cell, engine.board.getPieceAt cell = some piece) ∧
          engine.stateOf piece ≠ .captured := by
  obtain ⟨collected, members⟩ := foldl_addCell_collects ids engine.board.positions ([], [])
    ⟨fun _ => Iff.rfl, List.nodup_nil⟩
  refine ⟨collected.distinct, fun piece => (members piece).trans ?_⟩
  simp only [List.map_nil, List.not_mem_nil, false_or, livePieceAt_eq_some]
  constructor
  · rintro ⟨cell, _, here, live⟩
    exact ⟨⟨cell, here⟩, live⟩
  · rintro ⟨⟨cell, here⟩, live⟩
    exact ⟨cell, Board.mem_positions.mpr (Board.isInside_of_getPieceAt here), here, live⟩

/-- Every entry was made for a live piece on the grid. -/
theorem build_made {entry : PieceSnapshot} (member : entry ∈ (build engine).pieces) :
    ∃ cell piece, engine.board.getPieceAt cell = some piece ∧ engine.stateOf piece ≠ .captured ∧
      entry = makePieceSnapshot engine piece cell := by
  revert entry
  refine List.foldlRecOn (motive := fun built : List PieceSnapshot × List PieceId =>
    ∀ {entry}, entry ∈ built.1 → ∃ cell piece, engine.board.getPieceAt cell = some piece ∧
      engine.stateOf piece ≠ .captured ∧ entry = makePieceSnapshot engine piece cell) _ _ ?_ ?_
  · exact fun member => absurd member List.not_mem_nil
  · intro built made cell _ entry member
    unfold addCell at member
    split at member
    · exact made member
    · next piece here =>
        split at member
        · exact made member
        · next fresh =>
            rcases List.mem_append.mp member with before | added
            · exact made before
            · exact ⟨cell, piece, here, fun captured => fresh (.inl captured),
                List.mem_singleton.mp added⟩

/-- Every entry carries the token of its piece. -/
theorem build_tokens (ids : ∀ piece, (engine.pieces.get piece).id = piece) :
    ∀ entry ∈ (build engine).pieces, entry.token = (engine.pieces.get entry.id).token := by
  intro entry member
  obtain ⟨cell, piece, _, _, rfl⟩ := build_made member
  simp only [makePieceSnapshot, ids]

/-- **The tokens of a snapshot** are those of the live pieces on the grid. -/
theorem mem_build_tokens (ids : ∀ piece, (engine.pieces.get piece).id = piece) (token : String) :
    token ∈ (build engine).pieces.map PieceSnapshot.token ↔
      ∃ piece, (∃ cell, engine.board.getPieceAt cell = some piece) ∧
        engine.stateOf piece ≠ .captured ∧ (engine.pieces.get piece).token = token := by
  obtain ⟨_, entries⟩ := build_entries ids
  constructor
  · intro listed
    obtain ⟨entry, member, rfl⟩ := List.mem_map.mp listed
    obtain ⟨onGrid, live⟩ := (entries entry.id).mp (List.mem_map_of_mem member)
    exact ⟨entry.id, onGrid, live, (build_tokens ids entry member).symm⟩
  · rintro ⟨piece, onGrid, live, rfl⟩
    obtain ⟨entry, member, own⟩ := List.mem_map.mp ((entries piece).mpr ⟨onGrid, live⟩)
    exact List.mem_map.mpr ⟨entry, member, own ▸ build_tokens ids entry member⟩

end Collect

end GameStateSnapshotBuilder

/-! ## Complete snapshots -/

/-- A snapshot of an engine that plays with `pieces` is complete: one entry for
each live piece, none for a captured one, and an entry for the piece of every
motion and of every jump. -/
structure GameStateSnapshot.Complete (snapshot : GameStateSnapshot) (engine : GameEngine)
    (pieces : PieceId → Prop) : Prop where
  live : ∀ piece, pieces piece → engine.stateOf piece ≠ .captured →
    (snapshot.pieces.map PieceSnapshot.id).count piece = 1
  captured : ∀ piece, engine.stateOf piece = .captured →
    piece ∉ snapshot.pieces.map PieceSnapshot.id
  motions : ∀ motion ∈ snapshot.motions, motion.pieceId ∈ snapshot.pieces.map PieceSnapshot.id
  jumps : ∀ jump ∈ snapshot.jumps, jump.pieceId ∈ snapshot.pieces.map PieceSnapshot.id

/-- The next step event of a moment puts no piece on a cell that holds another
one, apart from a piece it captures. -/
def Moment.CommitsClear (moment : Moment) : Prop :=
  ∀ event ∈ moment.steps.head?, ∀ cell ∈ (moment.engine.verdict event).written event,
    ∀ piece ∈ moment.engine.board.getPieceAt cell,
      piece ∈ (moment.engine.verdict event).touched event

instance (moment : Moment) : Decidable moment.CommitsClear :=
  inferInstanceAs (Decidable (∀ _ ∈ _, _))

/-- Every live piece of the layout is on the grid. -/
def Moment.Standing (layout : Layout) (moment : Moment) : Prop :=
  ∀ piece, layout.Holds piece → moment.engine.stateOf piece ≠ .captured →
    ∃ cell, moment.engine.board.getPieceAt cell = some piece

/-- **Clear commits keep every live piece on the grid.** -/
theorem Moment.Standing.process {layout : Layout} {moment : Moment}
    (standing : moment.Standing layout) (running : moment.Running) (clear : moment.CommitsClear)
    (load : PieceConfigReader) : (moment.process load).Standing layout := by
  intro piece held
  have before := standing piece held
  have processed := running.processed load
  change (moment.process load).table.stateOf piece ≠ .captured →
    ∃ cell, (moment.process load).table.board.getPieceAt cell = some piece
  generalize (moment.process load).table = next at processed ⊢
  cases processed with
  | @stepped event _ following judged =>
      intro live
      by_cases touched : piece ∈ (moment.engine.verdict event).touched event
      · rcases judged.settles running.coherent touched with ⟨_, cell, _, here⟩ | captured
        · exact ⟨cell, here⟩
        · exact absurd captured live
      · obtain ⟨state, kept⟩ := judged.frame running.coherent touched
        rw [state] at live
        obtain ⟨cell, here⟩ := before live
        refine ⟨cell, kept ?_ cell here⟩
        rintro ⟨_, written, member, there⟩
        exact touched (clear _ (following ▸ rfl) written member piece there)
  | landed member airborne here eventTimeMs shortCooldownMs =>
      rw [Table.stateOf_land]
      split
      · next same => exact fun _ => ⟨_, same ▸ here⟩
      · exact before
  | dropped member lost => exact before
  | unchanged => exact before

namespace GameEngine

/-- **Every snapshot of a run with clear commits is complete.** -/
theorem run_snapshot_complete (load : PieceConfigReader) (layout : Layout)
    (eventBus : Option EventBus) (calls : List Call)
    (clear : ∀ moment ∈ (new layout eventBus).runMoments load calls, moment.CommitsClear) :
    (GameStateSnapshotBuilder.build ((new layout eventBus).run load calls)).Complete
      ((new layout eventBus).run load calls) layout.Holds := by
  have start := new_coherent layout eventBus
  have coherent := run_coherent load layout eventBus calls
  have standing : (Moment.quiet ((new layout eventBus).run load calls)).Standing layout := by
    refine run_rule load (motive := fun moment => moment.Standing layout) Moment.CommitsClear
      (fun _ _ => True) ?_ (fun _ running committed before => before.process running committed load)
      start (fun _ _ => trivial) clear ?_
    · intro first next silent running before
      have frame := silent_frame Piece.lasting_id.toSteady silent running 0
      refine ⟨frame.1, fun piece held live => ?_⟩
      rw [frame.2.1]
      exact before piece held fun captured =>
        live ((silent_captured load silent running piece).2.mpr captured)
    · exact fun piece held _ => held
  have ids : ∀ piece, (((new layout eventBus).run load calls).pieces.get piece).id = piece :=
    fun piece => (run_lasting start Piece.lasting_id piece).trans (layout.ids piece)
  generalize engineEq : (new layout eventBus).run load calls = engine at standing ids coherent ⊢
  obtain ⟨distinct, entries⟩ := GameStateSnapshotBuilder.build_entries ids
  -- a piece in motion or in the air is a live piece of the layout
  have entered : ∀ piece, engine.stateOf piece = .moving ∨ engine.stateOf piece = .airborne →
      piece ∈ (GameStateSnapshotBuilder.build engine).pieces.map PieceSnapshot.id := by
    intro piece busy
    have live : engine.stateOf piece ≠ .captured := by
      rcases busy with state | state <;> rw [state] <;> exact PieceState.noConfusion
    refine (entries piece).mpr ⟨standing piece ?_ live, live⟩
    by_contra absent
    have foreign : engine.Foreign piece := by
      rw [← engineEq]
      exact run_foreign start ⟨layout.idle piece, fun cell here => absent ⟨cell, here⟩⟩
    rcases busy with state | state <;> rw [foreign.1] at state <;> cases state
  refine ⟨?_, ?_, ?_, ?_⟩
  · intro piece held live
    exact List.count_eq_one_of_mem distinct ((entries piece).mpr ⟨standing piece held live, live⟩)
  · exact fun piece captured member => ((entries piece).mp member).2 captured
  · intro entry member
    obtain ⟨motion, moves, rfl⟩ := List.mem_map.mp member
    rw [GameStateSnapshotBuilder.makeMotionSnapshot, ids]
    exact entered _ (.inl (coherent.stateOf_motion moves))
  · intro entry member
    obtain ⟨jump, flies, rfl⟩ := List.mem_map.mp member
    rw [GameStateSnapshotBuilder.makeJumpSnapshot, ids]
    refine entered _ (.inr (coherent.flying jump.flight ?_))
    exact List.mem_append_left _ (List.mem_map_of_mem flies)

/-- A pawn that takes a knight: the capture commits on the cell of its target. -/
theorem run_snapshot_complete_capture :
    (GameStateSnapshotBuilder.build ((new (BoardParser.parse [". bN", "wP ."]).layout none).run
        PieceConfigReader.fallback [.requestMove ⟨1, 0⟩ ⟨0, 1⟩, .wait 1000])).Complete
      ((new (BoardParser.parse [". bN", "wP ."]).layout none).run PieceConfigReader.fallback
        [.requestMove ⟨1, 0⟩ ⟨0, 1⟩, .wait 1000])
      (BoardParser.parse [". bN", "wP ."]).layout.Holds :=
  run_snapshot_complete PieceConfigReader.fallback _ none _ (by decide +kernel)

/-- A rook stops on the cell another rook has just left: the second one is in
motion, and in no entry. -/
theorem left_cell_not_complete :
    ¬ (GameStateSnapshotBuilder.build ((new (BoardParser.parse ["bR . .", "wR . ."]).layout
          none).run PieceConfigReader.fallback
          [.requestMove ⟨0, 0⟩ ⟨0, 2⟩, .requestMove ⟨1, 0⟩ ⟨0, 0⟩, .wait 1000])).Complete
        ((new (BoardParser.parse ["bR . .", "wR . ."]).layout none).run PieceConfigReader.fallback
          [.requestMove ⟨0, 0⟩ ⟨0, 2⟩, .requestMove ⟨1, 0⟩ ⟨0, 0⟩, .wait 1000])
        (BoardParser.parse ["bR . .", "wR . ."]).layout.Holds := by
  intro complete
  have once := complete.live 1 ⟨⟨0, 0⟩, by decide +kernel⟩ (by decide +kernel)
  exact absurd once (by decide +kernel)

end GameEngine

end KungFuChess

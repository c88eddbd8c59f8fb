import KungFuChess.Engine.Runs

/-!
# What completing a castle disturbs

A castle is completed by the first event of its king or its rook, whatever has
happened to the other piece since and whatever the four written cells hold by
then. So a captured piece may come back, and other pieces may vanish from the
grid. `castlesHarmlessly_iff` says exactly when neither happens: when both pieces
are still in motion at every completion, and the written cells hold no third
piece.
-/

set_option autoImplicit false

namespace KungFuChess

/-- The castle completed by the next event of a moment. -/
def Moment.completes (moment : Moment) : Option PendingCastle :=
  match moment.steps with
  | [] => none
  | event :: _ =>
      match moment.engine.verdict event with
      | .castled castle => some castle
      | _ => none

/-- Both pieces of the castle are still in motion, and the cells its completion
writes hold no other piece. -/
def Moment.CompletesCleanly (moment : Moment) (castle : PendingCastle) : Prop :=
  moment.engine.stateOf castle.king = .moving ∧ moment.engine.stateOf castle.rook = .moving ∧
    ∀ cell ∈ castle.writtenCells, ∀ piece ∈ moment.engine.board.getPieceAt cell,
      piece = castle.king ∨ piece = castle.rook

instance (moment : Moment) (castle : PendingCastle) : Decidable (moment.CompletesCleanly castle) :=
  inferInstanceAs (Decidable (_ ∧ _ ∧ _))

namespace GameEngine

/-- A piece captured in the earlier state is captured and off the board in the
later one. -/
def StaysCaptured (earlier later : GameEngine) : Prop :=
  ∀ piece, earlier.stateOf piece = .captured →
    later.stateOf piece = .captured ∧ ∀ cell, later.board.getPieceAt cell ≠ some piece

/-- The states of a run: its start, the state each event is processed in, its end. -/
def runStates (load : PieceConfigReader) (engine : GameEngine) (calls : List Call) :
    List GameEngine :=
  engine :: ((engine.runMoments load calls).map Moment.engine ++ [engine.run load calls])

/-- **Castling disturbs no other piece and revives none.** -/
structure CastlesHarmlessly (load : PieceConfigReader) (engine : GameEngine) (calls : List Call) :
    Prop where
  forever : (engine.runStates load calls).Pairwise StaysCaptured
  others : ∀ moment ∈ engine.runMoments load calls, ∀ castle ∈ moment.completes,
    ∀ piece, piece ≠ castle.king → piece ≠ castle.rook →
      (moment.process load).engine.stateOf piece = moment.engine.stateOf piece ∧
        ∀ cell, (moment.process load).engine.board.getPieceAt cell = some piece ↔
          moment.engine.board.getPieceAt cell = some piece

end GameEngine

/-! ## One completion -/

namespace Moment

variable {moment : Moment} {castle : PendingCastle}

/-- A completion is the verdict on the next event. -/
theorem completes_eq_some (completes : moment.completes = some castle) :
    ∃ event steps, moment.steps = event :: steps ∧
      moment.engine.verdict event = .castled castle := by
  obtain ⟨engine, steps, landings⟩ := moment
  unfold Moment.completes at completes
  cases steps with
  | nil => cases completes
  | cons event steps =>
      dsimp only at completes
      split at completes
      · next other verdict => exact ⟨event, steps, rfl, by rw [verdict, Option.some.inj completes]⟩
      · cases completes

/-- The completion of a pending castle, on the table. -/
theorem Running.completion (running : moment.Running) (completes : moment.completes = some castle)
    (load : PieceConfigReader) : castle ∈ moment.table.castles ∧
      ∃ completedAt, (moment.process load).table =
        moment.table.finishCastle castle completedAt := by
  obtain ⟨event, steps, next, verdict⟩ := completes_eq_some completes
  obtain ⟨engine, _, landings⟩ := moment
  cases next
  have judged := running.judged
  rw [verdict] at judged
  cases judged with
  | castled moving pending part =>
      refine ⟨pending, event.eventTimeMs, ?_⟩
      have viewed := GameEngine.view_processStepEvent engine landings event
      rwa [verdict] at viewed

/-- After a completion both pieces of the castle are idle. -/
theorem Running.completed_idle (running : moment.Running)
    (completes : moment.completes = some castle) (load : PieceConfigReader) {piece : PieceId}
    (insider : piece = castle.king ∨ piece = castle.rook) :
    (moment.process load).engine.stateOf piece = .idle := by
  obtain ⟨pending, completedAt, after⟩ := running.completion completes load
  change (moment.process load).table.stateOf piece = .idle
  rw [after, Table.stateOf_finishCastle, if_pos insider]

/-- A written cell holds no third piece afterwards. -/
theorem Running.written_after (running : moment.Running)
    (completes : moment.completes = some castle) (load : PieceConfigReader) {cell : Position}
    (written : cell ∈ castle.writtenCells) {piece : PieceId}
    (here : (moment.process load).engine.board.getPieceAt cell = some piece) :
    piece = castle.king ∨ piece = castle.rook := by
  obtain ⟨pending, completedAt, after⟩ := running.completion completes load
  obtain ⟨kingInside, rookInside, -⟩ := running.coherent.destinations castle pending
  change (moment.process load).table.board.getPieceAt cell = some piece at here
  rw [after, Table.finishCastle,
    Table.getPieceAt_castleBoard _ castle kingInside rookInside] at here
  simp only [PendingCastle.writtenCells, List.mem_cons, List.not_mem_nil, or_false] at written
  grind

/-- **A clean completion leaves every other piece alone.** -/
theorem Running.clean_others (running : moment.Running)
    (completes : moment.completes = some castle) (clean : moment.CompletesCleanly castle)
    (load : PieceConfigReader) {piece : PieceId} (notKing : piece ≠ castle.king)
    (notRook : piece ≠ castle.rook) :
    (moment.process load).engine.stateOf piece = moment.engine.stateOf piece ∧
      ∀ cell, (moment.process load).engine.board.getPieceAt cell = some piece ↔
        moment.engine.board.getPieceAt cell = some piece := by
  obtain ⟨pending, completedAt, after⟩ := running.completion completes load
  have retires := Table.finishCastle_retires running.coherent pending completedAt
  have outsider : ¬ (piece = castle.king ∨ piece = castle.rook) := not_or.mpr ⟨notKing, notRook⟩
  have state := retires.others piece outsider
  rw [← after] at state
  refine ⟨state, fun cell => ⟨fun here => ?_, fun here => ?_⟩⟩
  · refine retires.kept cell piece outsider ?_
    rw [← after]
    exact here
  · have unwritten : cell ∉ castle.writtenCells := fun written =>
      outsider (clean.2.2 cell written piece here)
    obtain ⟨kingInside, rookInside, -⟩ := running.coherent.destinations castle pending
    change (moment.process load).table.board.getPieceAt cell = some piece
    rw [after, Table.finishCastle, Table.getPieceAt_castleBoard _ castle kingInside rookInside]
    simp only [PendingCastle.writtenCells, List.mem_cons, List.not_mem_nil, or_false,
      not_or] at unwritten
    obtain ⟨notKingSource, notRookSource, notKingCell, notRookCell⟩ := unwritten
    rw [if_neg notRookCell, if_neg notKingCell, if_neg notRookSource, if_neg notKingSource]
    exact here

end Moment

/-! ## Captured pieces -/

namespace Table

/-- A verdict other than a completion brings no captured piece back. -/
theorem Judged.captured_stays {table : Table} {event : StepEvent} {verdict : StepVerdict}
    (judged : table.Judged event verdict) (coherent : table.Coherent) {piece : PieceId}
    (captured : table.stateOf piece = .captured)
    (outsider : ∀ castle, verdict = .castled castle → piece ∉ castle.parts.map Prod.fst) :
    (table.apply event verdict).stateOf piece = .captured := by
  by_cases touched : piece ∈ verdict.touched event
  · have resting : ∀ motion, table.Stepping event motion → piece ≠ event.piece := by
      rintro motion stepping rfl
      have moving := coherent.stateOf_motion stepping.member
      rw [← stepping.piece, captured] at moving
      cases moving
    cases judged with
    | ignored _ => exact captured
    | castled _ pending part => exact absurd touched (outsider _ rfl)
    | slid stepping inside clear onward => exact captured
    | arrived stepping inside clear reached =>
        exact absurd (List.mem_singleton.mp touched) (resting _ stepping)
    | halted stepping blocked =>
        exact absurd (List.mem_singleton.mp touched) (resting _ stepping)
    | lost stepping inside other met enemy airborne =>
        exact absurd (List.mem_singleton.mp touched) (resting _ stepping)
    | captured stepping inside other met enemy grounded =>
        rw [apply, stateOf_stop, if_neg (resting _ stepping), stateOf_remove]
        split
        · rfl
        · exact captured
  · rw [(judged.frame coherent touched).1]
    exact captured

end Table

namespace Moment

/-- Processing an event brings no captured piece back when the completions are
clean. -/
theorem Running.captured_stays {moment : Moment} (running : moment.Running)
    (load : PieceConfigReader)
    (clean : ∀ castle ∈ moment.completes, moment.CompletesCleanly castle) {piece : PieceId}
    (captured : moment.engine.stateOf piece = .captured) :
    (moment.process load).engine.stateOf piece = .captured := by
  have processed := running.processed load
  change (moment.process load).table.stateOf piece = .captured
  generalize (moment.process load).table = next at processed ⊢
  cases processed with
  | stepped following judged =>
      refine judged.captured_stays running.coherent captured ?_
      intro castle verdict insider
      have completes : moment.completes = some castle := by
        simp only [Moment.completes, following, verdict]
      obtain ⟨king, rook, _⟩ := clean castle completes
      rcases PendingCastle.mem_pieces.mp insider with rfl | rfl
      · rw [captured] at king
        cases king
      · rw [captured] at rook
        cases rook
  | landed member airborne here eventTimeMs shortCooldownMs =>
      rw [Table.stateOf_land, if_neg]
      · exact captured
      · rintro rfl
        rw [show moment.table.stateOf _ = .captured from captured] at airborne
        cases airborne
  | dropped member lost => exact captured
  | unchanged => exact captured

end Moment

/-- The next moment is running and has every captured piece still captured. -/
def Moment.KeepsCaptured (first next : Moment) : Prop :=
  first.Running → next.Running ∧
    ∀ piece, first.engine.stateOf piece = .captured → next.engine.stateOf piece = .captured

theorem Moment.KeepsCaptured.trans {one two three : Moment} (left : one.KeepsCaptured two)
    (right : two.KeepsCaptured three) : one.KeepsCaptured three := by
  intro running
  obtain ⟨middle, kept⟩ := left running
  obtain ⟨last, keptOn⟩ := right middle
  exact ⟨last, fun piece captured => keptOn piece (kept piece captured)⟩

/-! ## Runs -/

namespace GameEngine

variable {load : PieceConfigReader} {engine : GameEngine} {calls : List Call}

theorem states_eq (load : PieceConfigReader) (engine : GameEngine) (calls : List Call) :
    engine.runStates load calls = ((Moment.quiet engine) ::
      (engine.runMoments load calls ++ [Moment.quiet (engine.run load calls)])).map
        Moment.engine := by
  rw [runStates, List.map_cons, List.map_append]
  rfl

/-- Clean completions revive no piece. -/
theorem forever_of_clean (coherent : (engine.view []).Coherent)
    (clean : ∀ moment ∈ engine.runMoments load calls, ∀ castle ∈ moment.completes,
      moment.CompletesCleanly castle) :
    (engine.runStates load calls).Pairwise StaysCaptured := by
  have chained := (full_journey load coherent calls).chain Moment.KeepsCaptured
    (fun _ running => ⟨running, fun _ captured => captured⟩) Moment.KeepsCaptured.trans
    (fun first next silent running => ⟨(silent_captured load silent running 0).1,
      fun piece => (silent_captured load silent running piece).2.mpr⟩)
    (fun moment => ∀ castle ∈ moment.completes, moment.CompletesCleanly castle)
    (fun first next processes clean running => ⟨Moment.Processes.running processes running,
      fun piece captured => processes ▸ running.captured_stays load clean captured⟩)
    clean
  have running : ∀ moment ∈ Moment.quiet engine :: (engine.runMoments load calls ++
      [Moment.quiet (engine.run load calls)]), moment.Running := by
    have first := Moment.of_landings coherent
    intro moment member
    rcases List.mem_cons.mp member with rfl | later
    · exact first
    · exact ((List.pairwise_cons.mp chained).1 moment later first).1
  rw [states_eq, List.pairwise_map]
  refine chained.imp_of_mem ?_
  intro earlier later earlierMember laterMember keeps piece captured
  have stays := (keeps (running earlier earlierMember)).2 piece captured
  exact ⟨stays, (running later laterMember).coherent.offBoard piece stays⟩

/-- A run that revives no piece completes every castle with both pieces in motion. -/
theorem moving_of_forever (coherent : (engine.view []).Coherent)
    (forever : (engine.runStates load calls).Pairwise StaysCaptured) {moment : Moment}
    (member : moment ∈ engine.runMoments load calls) {castle : PendingCastle}
    (completes : moment.completes = some castle) {part : PieceId × Position}
    (isPart : part ∈ castle.parts) : moment.engine.stateOf part.1 = .moving := by
  have running := runMoments_running coherent moment member
  have insider := PendingCastle.mem_pieces.mp (List.mem_map_of_mem isPart)
  obtain ⟨pending, -⟩ := running.completion completes load
  rcases running.coherent.stateOf_part pending isPart with captured | moving
  · obtain ⟨before, next, after, split, _, processes, onward⟩ :=
      (full_journey load coherent calls).split member
    have idle : next.engine.stateOf part.1 = .idle :=
      processes ▸ running.completed_idle completes load insider
    -- the revived piece is still alive where the run is next visible
    obtain ⟨seen, seenMember, _, alive⟩ := onward.until_visible
      (motive := fun moment => moment.Running ∧ moment.engine.stateOf part.1 ≠ .captured)
      (fun first next silent before =>
        ⟨(silent_captured load silent before.1 0).1, fun captured =>
          before.2 ((silent_captured load silent before.1 part.1).2.mp captured)⟩)
      ⟨Moment.Processes.running processes running, by rw [idle]; exact PieceState.noConfusion⟩
    rw [states_eq, split, List.append_assoc, List.cons_append, ← List.cons_append,
      List.pairwise_map] at forever
    have later := (List.pairwise_cons.mp (List.pairwise_append.mp forever).2.1).1 seen seenMember
    exact absurd (later part.1 captured).1 alive
  · exact moving

/-- Harmless castling completes every castle cleanly. -/
theorem CastlesHarmlessly.clean (coherent : (engine.view []).Coherent)
    (harmless : engine.CastlesHarmlessly load calls) :
    ∀ moment ∈ engine.runMoments load calls, ∀ castle ∈ moment.completes,
      moment.CompletesCleanly castle := by
  intro moment member castle completes
  have running := runMoments_running coherent moment member
  refine ⟨moving_of_forever coherent harmless.forever member completes (List.mem_cons_self ..),
    moving_of_forever coherent harmless.forever member completes
      (List.mem_cons_of_mem _ (List.mem_cons_self ..)), ?_⟩
  intro cell written piece here
  by_contra outsider
  have distinct := not_or.mp outsider
  have kept := (harmless.others moment member castle completes piece distinct.1 distinct.2).2 cell
  exact outsider (running.written_after completes load written (kept.mpr here))

/-- **Castling is harmless exactly when every completion is clean.** -/
theorem castlesHarmlessly_iff (load : PieceConfigReader) (layout : Layout)
    (eventBus : Option EventBus) (calls : List Call) :
    (new layout eventBus).CastlesHarmlessly load calls ↔
      ∀ moment ∈ (new layout eventBus).runMoments load calls, ∀ castle ∈ moment.completes,
        moment.CompletesCleanly castle := by
  have coherent := new_coherent layout eventBus
  refine ⟨CastlesHarmlessly.clean coherent, fun clean => ⟨forever_of_clean coherent clean, ?_⟩⟩
  intro moment member castle completes piece notKing notRook
  exact (runMoments_running coherent moment member).clean_others completes
    (clean moment member castle completes) load notKing notRook

/-- A white king and rook ready to castle, and a black rook on the rook's file. -/
def rookFileLayout : Layout :=
  (BoardParser.parse
    [". . . . . . . bR", ". . . . . . . .", ". . . . . . . .", ". . . . . . . .",
      ". . . . . . . .", ". . . . . . . .", ". . . . . . . .", ". . . . wK . . wR"]).layout

/-- The black rook sets out, white castles, and the rook is captured on its corner
before the king's event completes the castle. -/
def rookFileCalls : List Call :=
  [.requestMove ⟨0, 7⟩ ⟨7, 7⟩, .wait 5500, .requestMove ⟨7, 4⟩ ⟨7, 6⟩, .wait 1600, .wait 500]

/-- The white rook comes back, and the black rook vanishes from the corner. -/
theorem rookFile_not_harmless :
    ¬ (new rookFileLayout none).CastlesHarmlessly PieceConfigReader.fallback rookFileCalls :=
  fun harmless => absurd (harmless.clean (new_coherent rookFileLayout none)) (by decide +kernel)

end GameEngine

end KungFuChess

import KungFuChess.Engine.Coherence

/-!
# What a verdict rests on

`Table.Judged` says once under which conditions each verdict on a step event is
reached; every later argument about a step is a case analysis on it. The first
use is that doing what a verdict says keeps a table coherent, and leaves the
events still to be processed in the same batch in step with their motions.
-/

set_option autoImplicit false

namespace KungFuChess

namespace Table

/-- The event is the step its motion makes next, and no castle holds the piece. -/
structure Stepping (table : Table) (event : StepEvent) (motion : Motion) : Prop where
  member : motion ∈ table.motions
  step : event = motion.stepEvent
  free : table.Free motion.piece

/-- The event is still the next step of its piece, unless the piece has stopped. -/
def Timely (table : Table) (event : StepEvent) : Prop :=
  table.stateOf event.piece = .moving → ∃ motion ∈ table.motions, event = motion.stepEvent

/-- No other piece is on the cell. -/
def Clear (table : Table) (piece : PieceId) (cell : Position) : Prop :=
  ∀ other, other ≠ piece → ¬ table.Occupies other cell

/-- **The conditions of each verdict.** -/
inductive Judged (table : Table) (event : StepEvent) : StepVerdict → Prop
  | ignored (resting : table.stateOf event.piece ≠ .moving) : Judged table event .ignored
  | castled {castle : PendingCastle} (moving : table.stateOf event.piece = .moving)
      (pending : castle ∈ table.castles) (part : event.piece ∈ castle.parts.map Prod.fst) :
      Judged table event (.castled castle)
  | slid {motion : Motion} (stepping : table.Stepping event motion)
      (inside : table.board.isInside event.toCell) (clear : table.Clear event.piece event.toCell)
      (onward : ¬ event.reachedDestination) : Judged table event .slid
  | arrived {motion : Motion} (stepping : table.Stepping event motion)
      (inside : table.board.isInside event.toCell) (clear : table.Clear event.piece event.toCell)
      (reached : event.reachedDestination) :
      Judged table event (.stopped motion.source event.toCell)
  | halted {motion : Motion} (stepping : table.Stepping event motion)
      (blocked : ¬ table.board.isInside event.toCell ∨ ∃ target, target ≠ event.piece ∧
        table.Occupies target event.toCell ∧ table.colorOf target = table.colorOf event.piece) :
      Judged table event (.stopped motion.source event.fromCell)
  | lost {motion : Motion} {target : PieceId} (stepping : table.Stepping event motion)
      (inside : table.board.isInside event.toCell) (other : target ≠ event.piece)
      (met : table.Occupies target event.toCell)
      (enemy : table.colorOf target ≠ table.colorOf event.piece)
      (airborne : table.stateOf target = .airborne) : Judged table event (.lost target)
  | captured {motion : Motion} {target : PieceId} (stepping : table.Stepping event motion)
      (inside : table.board.isInside event.toCell) (other : target ≠ event.piece)
      (met : table.Occupies target event.toCell)
      (enemy : table.colorOf target ≠ table.colorOf event.piece)
      (grounded : table.stateOf target ≠ .airborne) :
      Judged table event (.captured motion.source target)

namespace Stepping

variable {table : Table} {event : StepEvent} {motion : Motion}

theorem piece (stepping : table.Stepping event motion) : event.piece = motion.piece := by
  rw [stepping.step]
  rfl

theorem fromCell (stepping : table.Stepping event motion) :
    event.fromCell = motion.currentCell := by
  rw [stepping.step]
  rfl

theorem fromInside (stepping : table.Stepping event motion) (coherent : table.Coherent) :
    table.board.isInside event.fromCell :=
  stepping.fromCell ▸ coherent.within motion stepping.member

/-- Putting the piece down ends its motion. -/
theorem retires (stepping : table.Stepping event motion) (coherent : table.Coherent)
    {cell : Position} (inside : table.board.isInside cell) :
    Retires table (table.stop event.piece motion.source cell event.eventTimeMs)
      (· = event.piece) := by
  rw [stepping.piece]
  exact stop_retires coherent stepping.member (stepping.piece ▸ stepping.free) inside _

/-- So does capturing it. -/
theorem lost_retires (stepping : table.Stepping event motion) (coherent : table.Coherent) :
    Retires table (table.remove event.piece) (· = event.piece) := by
  refine remove_retires coherent ?_
  rw [stepping.piece, coherent.stateOf_motion stepping.member]
  simp only [ne_eq, reduceCtorEq, not_false_eq_true]

/-- The capture of another piece leaves the event in step. -/
theorem remove (stepping : table.Stepping event motion) {target : PieceId}
    (other : target ≠ event.piece) : (table.remove target).Stepping event motion where
  member := mem_filter_piece.mpr ⟨stepping.member, fun same => other (stepping.piece ▸ same).symm⟩
  step := stepping.step
  free := stepping.free

end Stepping

/-! ## Doing what a verdict says -/

theorem Judged.coherent {table : Table} {event : StepEvent} {verdict : StepVerdict}
    (judged : table.Judged event verdict) (coherent : table.Coherent) :
    (table.apply event verdict).Coherent := by
  cases judged with
  | ignored resting => exact coherent
  | castled moving pending part => exact coherent.retire (finishCastle_retires coherent pending _)
  | slid stepping inside clear onward => exact coherent.slide event.piece inside
  | arrived stepping inside clear reached =>
      exact coherent.retire (stepping.retires coherent inside)
  | halted stepping blocked =>
      exact coherent.retire (stepping.retires coherent (stepping.fromInside coherent))
  | lost stepping inside other met enemy airborne =>
      exact coherent.retire (stepping.lost_retires coherent)
  | captured stepping inside other met enemy grounded =>
      have removed := coherent.retire (remove_retires coherent grounded)
      exact removed.retire ((stepping.remove other).retires removed
        ((Board.isInside_takeOff _ _ _).mpr inside))

/-- A piece that keeps its motion keeps its event. -/
theorem Retires.timely {table next : Table} {gone : PieceId → Prop}
    (retires : Retires table next gone) {event : StepEvent} (timely : table.Timely event) :
    next.Timely event := by
  intro moving
  have stays : ¬ gone event.piece := by
    intro isGone
    rcases retires.ended _ isGone with idle | captured
    · rw [idle] at moving
      cases moving
    · rw [captured] at moving
      cases moving
  obtain ⟨motion, member, rfl⟩ := timely (retires.others _ stays ▸ moving)
  exact ⟨motion, (retires.motions motion).mpr ⟨member, stays⟩, rfl⟩

/-- The events of other pieces stay in step with their motions. -/
theorem Judged.timely {table : Table} {event other : StepEvent} {verdict : StepVerdict}
    (judged : table.Judged event verdict) (coherent : table.Coherent)
    (distinct : other.piece ≠ event.piece) (timely : table.Timely other) :
    (table.apply event verdict).Timely other := by
  cases judged with
  | ignored resting => exact timely
  | castled moving pending part => exact (finishCastle_retires coherent pending _).timely timely
  | slid stepping inside clear onward =>
      intro moving
      obtain ⟨motion, member, rfl⟩ := timely moving
      exact ⟨motion, coherent.mem_slide.mpr ⟨motion, member, if_neg distinct⟩, rfl⟩
  | arrived stepping inside clear reached => exact (stepping.retires coherent inside).timely timely
  | halted stepping blocked =>
      exact (stepping.retires coherent (stepping.fromInside coherent)).timely timely
  | lost stepping inside other met enemy airborne =>
      exact (stepping.lost_retires coherent).timely timely
  | captured stepping inside other met enemy grounded =>
      have removes := remove_retires coherent grounded
      have removed := coherent.retire removes
      exact ((stepping.remove other).retires removed
        ((Board.isInside_takeOff _ _ _).mpr inside)).timely (removes.timely timely)

/-! ## What a verdict changes -/

end Table

namespace StepVerdict

/-- The pieces whose state a verdict may change. -/
def touched (event : StepEvent) : StepVerdict → List PieceId
  | .ignored => []
  | .castled castle => castle.parts.map Prod.fst
  | .slid => []
  | .stopped _ _ => [event.piece]
  | .lost _ => [event.piece]
  | .captured _ target => [event.piece, target]

/-- The piece a verdict captures. -/
def fallen (event : StepEvent) : StepVerdict → Option PieceId
  | .lost _ => some event.piece
  | .captured _ target => some target
  | _ => none

theorem touched_of_fallen {event : StepEvent} {verdict : StepVerdict} {piece : PieceId}
    (falls : verdict.fallen event = some piece) : piece ∈ verdict.touched event := by
  cases verdict with
  | lost target =>
      cases falls
      exact List.mem_singleton.mpr rfl
  | captured source target =>
      cases falls
      exact List.mem_cons_of_mem _ (List.mem_singleton.mpr rfl)
  | _ => cases falls

/-- The cells a verdict overwrites or erases, whatever they hold. -/
def written (event : StepEvent) : StepVerdict → List Position
  | .castled castle => castle.writtenCells
  | .stopped _ cell => [cell]
  | .captured _ _ => [event.toCell]
  | _ => []

end StepVerdict

namespace Table

/-- A verdict takes a piece it does not concern off the grid. -/
def Buries (table : Table) (event : StepEvent) (verdict : StepVerdict) (piece : PieceId) : Prop :=
  piece ∉ verdict.touched event ∧
    ∃ cell ∈ verdict.written event, table.board.getPieceAt cell = some piece

instance (table : Table) (event : StepEvent) (verdict : StepVerdict) (piece : PieceId) :
    Decidable (table.Buries event verdict piece) :=
  inferInstanceAs (Decidable (_ ∧ _))

/-- The frame of putting one piece down. -/
theorem Stepping.frame {table : Table} {event : StepEvent} {motion : Motion}
    (stepping : table.Stepping event motion) (coherent : table.Coherent) {cell : Position}
    (inside : table.board.isInside cell) {piece : PieceId} (other : piece ≠ event.piece) :
    (table.stop event.piece motion.source cell event.eventTimeMs).stateOf piece =
        table.stateOf piece ∧
      (table.board.getPieceAt cell ≠ some piece → ∀ home,
        table.board.getPieceAt home = some piece →
          (table.stop event.piece motion.source cell event.eventTimeMs).board.getPieceAt home =
            some piece) := by
  refine ⟨by rw [stateOf_stop, if_neg other], ?_⟩
  intro spared home here
  rw [stepping.piece, getPieceAt_stop coherent stepping.member inside]
  have elsewhere : home ≠ cell := fun same => spared (same ▸ here)
  have distinct : table.board.getPieceAt home ≠ some motion.piece := by
    rw [here, ← stepping.piece]
    exact fun same => other (Option.some.inj same)
  rw [if_neg elsewhere, if_neg distinct]
  exact here

/-- The piece that is put down. -/
theorem Stepping.settles {table : Table} {event : StepEvent} {motion : Motion}
    (stepping : table.Stepping event motion) (coherent : table.Coherent) {cell : Position}
    (inside : table.board.isInside cell) :
    (table.stop event.piece motion.source cell event.eventTimeMs).stateOf event.piece = .idle ∧
      (table.stop event.piece motion.source cell event.eventTimeMs).board.getPieceAt cell =
        some event.piece := by
  refine ⟨by rw [stateOf_stop, if_pos rfl], ?_⟩
  rw [stepping.piece, getPieceAt_stop coherent stepping.member inside, if_pos rfl]

theorem remove_frame {table : Table} (coherent : table.Coherent) {target piece : PieceId}
    (other : piece ≠ target) :
    (table.remove target).stateOf piece = table.stateOf piece ∧
      ∀ cell, table.board.getPieceAt cell = some piece →
        (table.remove target).board.getPieceAt cell = some piece := by
  refine ⟨by rw [stateOf_remove, if_neg other], ?_⟩
  intro cell here
  rw [remove, Board.getPieceAt_takeOff coherent.oneCell, if_neg]
  · exact here
  · rw [here]
    exact fun same => other (Option.some.inj same)

/-- A removed piece frees its cell and no other. -/
theorem getPieceAt_remove {table : Table} (coherent : table.Coherent) {target piece : PieceId}
    {cell : Position} (here : (table.remove target).board.getPieceAt cell = some piece) :
    piece ≠ target ∧ table.board.getPieceAt cell = some piece := by
  rw [remove, Board.getPieceAt_takeOff coherent.oneCell] at here
  split at here
  · cases here
  · next absent =>
      refine ⟨?_, here⟩
      rintro rfl
      exact absent here

/-- **The frame of a verdict**: a piece it does not touch keeps its state, and its
cell unless it is buried. -/
theorem Judged.frame {table : Table} {event : StepEvent} {verdict : StepVerdict}
    (judged : table.Judged event verdict) (coherent : table.Coherent) {piece : PieceId}
    (untouched : piece ∉ verdict.touched event) :
    (table.apply event verdict).stateOf piece = table.stateOf piece ∧
      (¬ table.Buries event verdict piece → ∀ cell, table.board.getPieceAt cell = some piece →
        (table.apply event verdict).board.getPieceAt cell = some piece) := by
  cases judged with
  | ignored resting => exact ⟨rfl, fun _ _ here => here⟩
  | slid stepping inside clear onward => exact ⟨rfl, fun _ _ here => here⟩
  | castled moving pending part =>
      obtain ⟨kingInside, rookInside, -⟩ := coherent.destinations _ pending
      have outsider := fun insider => untouched (PendingCastle.mem_pieces.mpr insider)
      refine ⟨by rw [apply, stateOf_finishCastle, if_neg outsider], ?_⟩
      intro spared cell here
      have unwritten : cell ∉ PendingCastle.writtenCells _ := fun written =>
        spared ⟨untouched, cell, written, here⟩
      simp only [PendingCastle.writtenCells, List.mem_cons, List.not_mem_nil, or_false,
        not_or] at unwritten
      obtain ⟨notKingSource, notRookSource, notKing, notRook⟩ := unwritten
      rw [apply, finishCastle, getPieceAt_castleBoard _ _ kingInside rookInside, if_neg notRook,
        if_neg notKing, if_neg notRookSource, if_neg notKingSource]
      exact here
  | arrived stepping inside clear reached =>
      have other := List.mem_singleton.not.mp untouched
      obtain ⟨state, kept⟩ := stepping.frame coherent inside other
      exact ⟨state, fun spared => kept fun here =>
        spared ⟨untouched, _, List.mem_singleton.mpr rfl, here⟩⟩
  | halted stepping blocked =>
      have other := List.mem_singleton.not.mp untouched
      obtain ⟨state, kept⟩ := stepping.frame coherent (stepping.fromInside coherent) other
      exact ⟨state, fun spared => kept fun here =>
        spared ⟨untouched, _, List.mem_singleton.mpr rfl, here⟩⟩
  | lost stepping inside other met enemy airborne =>
      obtain ⟨state, kept⟩ := remove_frame coherent (List.mem_singleton.not.mp untouched)
      exact ⟨state, fun _ => kept⟩
  | captured stepping inside other met enemy grounded =>
      simp only [StepVerdict.touched, List.mem_cons, List.not_mem_nil, or_false, not_or]
        at untouched
      obtain ⟨notOwn, notTarget⟩ := untouched
      have removed := coherent.retire (remove_retires coherent grounded)
      obtain ⟨stateRemoved, keptRemoved⟩ := remove_frame coherent notTarget
      obtain ⟨state, kept⟩ := (stepping.remove other).frame removed
        ((Board.isInside_takeOff _ _ _).mpr inside) notOwn
      refine ⟨state.trans stateRemoved, fun spared cell here =>
        kept ?_ cell (keptRemoved cell here)⟩
      intro buried
      refine spared ⟨?_, _, List.mem_singleton.mpr rfl, (getPieceAt_remove coherent buried).2⟩
      simp only [StepVerdict.touched, List.mem_cons, notOwn, notTarget, List.not_mem_nil, or_self,
        not_false_eq_true]

/-- **A touched piece** is put down on a written cell, or captured. -/
theorem Judged.settles {table : Table} {event : StepEvent} {verdict : StepVerdict}
    (judged : table.Judged event verdict) (coherent : table.Coherent) {piece : PieceId}
    (touched : piece ∈ verdict.touched event) :
    ((table.apply event verdict).stateOf piece = .idle ∧
      ∃ cell ∈ verdict.written event,
        (table.apply event verdict).board.getPieceAt cell = some piece) ∨
    (table.apply event verdict).stateOf piece = .captured := by
  cases judged with
  | ignored resting => exact absurd touched List.not_mem_nil
  | slid stepping inside clear onward => exact absurd touched List.not_mem_nil
  | castled moving pending part =>
      obtain ⟨kingInside, rookInside, apart⟩ := coherent.destinations _ pending
      have insider := PendingCastle.mem_pieces.mp touched
      refine .inl ⟨by rw [apply, stateOf_finishCastle, if_pos insider], ?_⟩
      have read := getPieceAt_castleBoard table.board _ kingInside rookInside
      rcases insider with rfl | rfl
      · refine ⟨_, ?_, (read _).trans ((if_neg apart).trans (if_pos rfl))⟩
        simp only [StepVerdict.written, PendingCastle.writtenCells, List.mem_cons, true_or, or_true]
      · refine ⟨_, ?_, (read _).trans (if_pos rfl)⟩
        simp only [StepVerdict.written, PendingCastle.writtenCells, List.mem_cons, true_or, or_true]
  | arrived stepping inside clear reached =>
      rw [List.mem_singleton.mp touched]
      obtain ⟨idle, here⟩ := stepping.settles coherent inside
      exact .inl ⟨idle, _, List.mem_singleton.mpr rfl, here⟩
  | halted stepping blocked =>
      rw [List.mem_singleton.mp touched]
      obtain ⟨idle, here⟩ := stepping.settles coherent (stepping.fromInside coherent)
      exact .inl ⟨idle, _, List.mem_singleton.mpr rfl, here⟩
  | lost stepping inside other met enemy airborne =>
      rw [List.mem_singleton.mp touched]
      exact .inr (by rw [apply, stateOf_remove, if_pos rfl])
  | captured stepping inside other met enemy grounded =>
      have removed := coherent.retire (remove_retires coherent grounded)
      rcases List.mem_cons.mp touched with rfl | isTarget
      · obtain ⟨idle, here⟩ := (stepping.remove other).settles removed
          ((Board.isInside_takeOff _ _ _).mpr inside)
        exact .inl ⟨idle, _, List.mem_singleton.mpr rfl, here⟩
      · rw [List.mem_singleton.mp isTarget]
        exact .inr (by rw [apply, stateOf_stop, if_neg other, stateOf_remove, if_pos rfl])

/-- A verdict captures the piece that falls, and no other. -/
theorem Judged.captured_iff {table : Table} {event : StepEvent} {verdict : StepVerdict}
    (judged : table.Judged event verdict) {piece : PieceId}
    (touched : piece ∈ verdict.touched event) :
    (table.apply event verdict).stateOf piece = .captured ↔ verdict.fallen event = some piece := by
  cases judged with
  | ignored resting => exact absurd touched List.not_mem_nil
  | slid stepping inside clear onward => exact absurd touched List.not_mem_nil
  | castled moving pending part =>
      have insider := PendingCastle.mem_pieces.mp touched
      rw [apply, stateOf_finishCastle, if_pos insider]
      simp only [StepVerdict.fallen, reduceCtorEq]
  | arrived stepping inside clear reached =>
      rw [List.mem_singleton.mp touched, apply, stateOf_stop, if_pos rfl]
      simp only [StepVerdict.fallen, reduceCtorEq]
  | halted stepping blocked =>
      rw [List.mem_singleton.mp touched, apply, stateOf_stop, if_pos rfl]
      simp only [StepVerdict.fallen, reduceCtorEq]
  | lost stepping inside other met enemy airborne =>
      rw [List.mem_singleton.mp touched, apply, stateOf_remove, if_pos rfl]
      simp only [StepVerdict.fallen]
  | captured stepping inside other met enemy grounded =>
      rcases List.mem_cons.mp touched with rfl | isTarget
      · rw [apply, stateOf_stop, if_pos rfl]
        simp only [StepVerdict.fallen, reduceCtorEq, false_iff, Option.some.injEq]
        exact other
      · rw [List.mem_singleton.mp isTarget, apply, stateOf_stop, if_neg other, stateOf_remove,
          if_pos rfl]
        simp only [StepVerdict.fallen]

/-- A verdict touches only pieces in play: no idle piece that the grid does not
hold. -/
theorem Judged.touched_present {table : Table} {event : StepEvent} {verdict : StepVerdict}
    (judged : table.Judged event verdict) (coherent : table.Coherent) {piece : PieceId}
    (touched : piece ∈ verdict.touched event) :
    table.stateOf piece ≠ .idle ∨ ∃ cell, table.board.getPieceAt cell = some piece := by
  have own : ∀ motion, table.Stepping event motion → table.stateOf event.piece ≠ .idle := by
    intro motion stepping
    rw [stepping.piece, coherent.stateOf_motion stepping.member]
    exact PieceState.noConfusion
  cases judged with
  | ignored resting => exact absurd touched List.not_mem_nil
  | slid stepping inside clear onward => exact absurd touched List.not_mem_nil
  | castled moving pending part =>
      obtain ⟨part, isPart, rfl⟩ := List.mem_map.mp touched
      left
      rcases coherent.stateOf_part pending isPart with captured | moving
      · rw [captured]
        exact PieceState.noConfusion
      · rw [moving]
        exact PieceState.noConfusion
  | arrived stepping inside clear reached =>
      exact .inl (List.mem_singleton.mp touched ▸ own _ stepping)
  | halted stepping blocked => exact .inl (List.mem_singleton.mp touched ▸ own _ stepping)
  | lost stepping inside other met enemy airborne =>
      exact .inl (List.mem_singleton.mp touched ▸ own _ stepping)
  | captured stepping inside other met enemy grounded =>
      rcases List.mem_cons.mp touched with rfl | isTarget
      · exact .inl (own _ stepping)
      · rw [List.mem_singleton.mp isTarget]
        rcases met with ⟨motion, member, rfl, _⟩ | ⟨_, here⟩
        · left
          rw [coherent.stateOf_motion member]
          exact PieceState.noConfusion
        · exact .inr ⟨_, here⟩

/-- A verdict puts no piece on the grid that it does not touch. -/
theorem Judged.origin {table : Table} {event : StepEvent} {verdict : StepVerdict}
    (judged : table.Judged event verdict) (coherent : table.Coherent) {piece : PieceId}
    (untouched : piece ∉ verdict.touched event) {cell : Position}
    (here : (table.apply event verdict).board.getPieceAt cell = some piece) :
    table.board.getPieceAt cell = some piece := by
  cases judged with
  | ignored resting => exact here
  | slid stepping inside clear onward => exact here
  | castled moving pending part =>
      exact (finishCastle_retires coherent pending _).kept cell piece
        (fun insider => untouched (PendingCastle.mem_pieces.mpr insider)) here
  | arrived stepping inside clear reached =>
      exact (stepping.retires coherent inside).kept cell piece
        (List.mem_singleton.not.mp untouched) here
  | halted stepping blocked =>
      exact (stepping.retires coherent (stepping.fromInside coherent)).kept cell piece
        (List.mem_singleton.not.mp untouched) here
  | lost stepping inside other met enemy airborne =>
      exact (stepping.lost_retires coherent).kept cell piece
        (List.mem_singleton.not.mp untouched) here
  | captured stepping inside other met enemy grounded =>
      simp only [StepVerdict.touched, List.mem_cons, List.not_mem_nil, or_false, not_or]
        at untouched
      have removed := coherent.retire (remove_retires coherent grounded)
      have before := ((stepping.remove other).retires removed
        ((Board.isInside_takeOff _ _ _).mpr inside)).kept cell piece untouched.1 here
      exact (remove_retires coherent grounded).kept cell piece untouched.2 before

end Table

/-! ## Reaching a verdict -/

namespace GameEngine

variable {engine : GameEngine} {landings : List JumpLandingEvent}

/-- The search for a piece on a cell finds nothing when no other piece is there. -/
theorem clear_of_find_none (coherent : (engine.view landings).Coherent) {cell : Position}
    {piece : PieceId} (search : engine.findPieceAtRealOrVirtualCell cell piece = none) :
    (engine.view landings).Clear piece cell := by
  unfold findPieceAtRealOrVirtualCell at search
  dsimp only at search
  split at search
  · cases search
  · next none_moving =>
      intro other distinct occupies
      rcases occupies with ⟨motion, member, rfl, current⟩ | ⟨resting, here⟩
      · have missed := List.find?_eq_none.mp none_moving motion member
        have moving : engine.stateOf motion.piece = .moving := coherent.stateOf_motion member
        simp only [ne_eq, distinct, not_false_eq_true, moving, current, and_self, decide_true,
          not_true_eq_false] at missed
      · have here : engine.board.getPieceAt cell = some other := here
        have resting : engine.stateOf other ≠ .moving := resting
        simp only [here, distinct, if_false, resting, false_and, reduceCtorEq] at search

/-- What the search finds is another piece on the cell. -/
theorem occupies_of_find_some (coherent : (engine.view landings).Coherent) {cell : Position}
    {piece target : PieceId}
    (search : engine.findPieceAtRealOrVirtualCell cell piece = some target) :
    target ≠ piece ∧ (engine.view landings).Occupies target cell := by
  unfold findPieceAtRealOrVirtualCell at search
  dsimp only at search
  split at search
  · next motion found =>
      have passed := List.find?_some found
      simp only [ne_eq, decide_eq_true_eq] at passed
      cases search
      exact ⟨passed.1, .inl ⟨motion, List.mem_of_find?_eq_some found, rfl, passed.2.2⟩⟩
  · next none_moving =>
      split at search
      · cases search
      · next boardPiece here =>
          split at search
          · cases search
          · next distinct =>
              split at search
              · cases search
              · next stays =>
                  cases search
                  refine ⟨distinct, ?_⟩
                  by_cases moving : engine.stateOf target = .moving
                  · obtain ⟨motion, member, own⟩ := (coherent.moving target).mp moving
                    refine .inl ⟨motion, member, own, ?_⟩
                    by_contra elsewhere
                    exact stays ⟨moving, motion, member, own, elsewhere⟩
                  · exact .inr ⟨moving, here⟩

/-- The castle an event belongs to is pending and holds its piece. -/
theorem castleOf_eq_some {event : StepEvent} {castle : PendingCastle}
    (found : engine.castleOf event = some castle) :
    castle ∈ engine.pendingCastles ∧ event.piece ∈ castle.parts.map Prod.fst := by
  have passed := List.find?_some found
  simp only [decide_eq_true_eq] at passed
  exact ⟨List.mem_of_find?_eq_some found, PendingCastle.mem_pieces.mpr passed⟩

theorem free_of_castleOf_none {event : StepEvent} (found : engine.castleOf event = none) :
    (engine.view landings).Free event.piece := by
  intro castle pending part
  have missed := List.find?_eq_none.mp found castle pending
  simp only [decide_eq_true_eq] at missed
  exact missed (PendingCastle.mem_pieces.mp part)

/-- The motion that the engine finds for a timely event. -/
theorem find_motion (coherent : (engine.view landings).Coherent) {event : StepEvent}
    (timely : (engine.view landings).Timely event) (moving : engine.stateOf event.piece = .moving) :
    ∃ motion ∈ engine.realTime.activeMotions, event = motion.stepEvent ∧
      (engine.realTime.activeMotions.find? fun motion => motion.piece = event.piece) =
        some motion := by
  obtain ⟨motion, member, step⟩ := timely moving
  have own : motion.piece = event.piece := by rw [step]; rfl
  refine ⟨motion, member, step, ?_⟩
  cases search : engine.realTime.activeMotions.find? fun motion => motion.piece = event.piece with
  | none =>
      have missed := List.find?_eq_none.mp search motion member
      simp only [own, decide_true, not_true_eq_false] at missed
  | some other =>
      have passed := List.find?_some search
      simp only [decide_eq_true_eq] at passed
      exact congrArg some (coherent.motion_unique (List.mem_of_find?_eq_some search) member
        (passed.trans own.symm))

/-- **Every verdict is reached under its conditions.** -/
theorem verdict_judged (coherent : (engine.view landings).Coherent) {event : StepEvent}
    (timely : (engine.view landings).Timely event) :
    (engine.view landings).Judged event (engine.verdict event) := by
  unfold verdict
  dsimp only
  split
  · next resting => exact .ignored resting
  · next busy =>
      have moving : engine.stateOf event.piece = .moving := not_not.mp busy
      cases found : engine.castleOf event with
      | some castle =>
          exact .castled moving (castleOf_eq_some found).1 (castleOf_eq_some found).2
      | none =>
          obtain ⟨motion, member, step, first⟩ := find_motion coherent timely moving
          have own : motion.piece = event.piece := by rw [step]; rfl
          have stepping : (engine.view landings).Stepping event motion :=
            ⟨member, step, own ▸ free_of_castleOf_none found⟩
          simp only [first]
          split
          · next outside => exact .halted stepping (.inl outside)
          · next within =>
              have inside : (engine.view landings).board.isInside event.toCell :=
                not_not.mp within
              cases search : engine.findPieceAtRealOrVirtualCell event.toCell event.piece with
              | none =>
                  have clear := clear_of_find_none coherent search
                  dsimp only
                  split
                  · next reached => exact .arrived stepping inside clear reached
                  · next onward => exact .slid stepping inside clear onward
              | some target =>
                  obtain ⟨other, met⟩ := occupies_of_find_some coherent search
                  dsimp only
                  split
                  · next friend => exact .halted stepping (.inr ⟨target, other, met, friend⟩)
                  · next enemy =>
                      split
                      · next airborne => exact .lost stepping inside other met enemy airborne
                      · next grounded => exact .captured stepping inside other met enemy grounded

end GameEngine

end KungFuChess

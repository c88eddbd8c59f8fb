import KungFuChess.Engine.Table
import Mathlib.Data.List.Flatten
import Mathlib.Data.List.Pairwise

/-!
# Coherent tables

The stores of a table agree: a piece is moving exactly when it has a motion, and
then one; a piece in the air is in flight; no piece is on two cells, a captured
one on none, and a moving one at most on the cell it left. Coherence holds in
every run, castles included. It says nothing about which pieces are missing from
the grid; that depends on what the commits of a run overwrite.

All operations that end motions are covered by one lemma, `Coherent.retire`: a
group of pieces gives up its motions, and the grid changes only for that group
or loses pieces.
-/

set_option autoImplicit false

namespace KungFuChess

namespace Table

/-- **The stores of a table agree.** -/
structure Coherent (table : Table) : Prop where
  distinct : (table.motions.map Motion.piece).Nodup
  moving : ∀ piece, table.stateOf piece = .moving ↔
    ∃ motion ∈ table.motions, motion.piece = piece
  within : ∀ motion ∈ table.motions, table.board.isInside motion.currentCell
  oneCell : table.board.OneCell
  atSource : ∀ motion ∈ table.motions, ∀ cell,
    table.board.getPieceAt cell = some motion.piece → cell = motion.source
  offBoard : ∀ piece, table.stateOf piece = .captured →
    ∀ cell, table.board.getPieceAt cell ≠ some piece
  airborne : (table.flights.map Flight.piece).Nodup
  flying : ∀ flight ∈ table.flights, table.stateOf flight.piece = .airborne
  castlePieces : (table.castles.flatMap fun castle => castle.parts.map Prod.fst).Nodup
  underway : ∀ castle ∈ table.castles, ∀ part ∈ castle.parts,
    table.stateOf part.1 = .captured ∨
      ∃ motion ∈ table.motions, motion.piece = part.1 ∧ motion.source = part.2
  destinations : ∀ castle ∈ table.castles, table.board.isInside castle.kingDestination ∧
    table.board.isInside castle.rookDestination ∧
    castle.kingDestination ≠ castle.rookDestination

namespace Coherent

variable {table : Table}

/-! ## The motion of a piece -/

theorem stateOf_motion (coherent : Coherent table) {motion : Motion}
    (member : motion ∈ table.motions) : table.stateOf motion.piece = .moving :=
  (coherent.moving motion.piece).mpr ⟨motion, member, rfl⟩

/-- A piece has at most one motion. -/
theorem motion_unique (coherent : Coherent table) {first second : Motion}
    (firstMember : first ∈ table.motions) (secondMember : second ∈ table.motions)
    (same : first.piece = second.piece) : first = second :=
  List.inj_on_of_nodup_map coherent.distinct firstMember secondMember same

/-- A piece has at most one flight. -/
theorem flight_unique (coherent : Coherent table) {first second : Flight}
    (firstMember : first ∈ table.flights) (secondMember : second ∈ table.flights)
    (same : first.piece = second.piece) : first = second :=
  List.inj_on_of_nodup_map coherent.airborne firstMember secondMember same

/-- The pieces of a castle are in motion or captured. -/
theorem stateOf_part (coherent : Coherent table) {castle : PendingCastle}
    (pending : castle ∈ table.castles) {part : PieceId × Position} (isPart : part ∈ castle.parts) :
    table.stateOf part.1 = .captured ∨ table.stateOf part.1 = .moving := by
  rcases coherent.underway castle pending part isPart with gone | ⟨motion, member, own, _⟩
  · exact .inl gone
  · exact .inr ((coherent.moving part.1).mpr ⟨motion, member, own⟩)

/-- The pieces of a castle are on the grid only where they started. -/
theorem atStart (coherent : Coherent table) {castle : PendingCastle}
    (pending : castle ∈ table.castles) {part : PieceId × Position} (isPart : part ∈ castle.parts)
    {cell : Position} (here : table.board.getPieceAt cell = some part.1) : cell = part.2 := by
  rcases coherent.underway castle pending part isPart with gone | ⟨motion, member, own, source⟩
  · exact absurd here (coherent.offBoard part.1 gone cell)
  · exact (coherent.atSource motion member cell (own ▸ here)).trans source

/-- No piece belongs to two castles, or twice to one. -/
theorem castle_unique (coherent : Coherent table) {first second : PendingCastle}
    (firstPending : first ∈ table.castles) (secondPending : second ∈ table.castles)
    {piece : PieceId} (inFirst : piece ∈ first.parts.map Prod.fst)
    (inSecond : piece ∈ second.parts.map Prod.fst) : first = second := by
  by_contra distinct
  have disjoint := (List.nodup_flatMap.mp coherent.castlePieces).2
  have symmetric : Std.Symm (Function.onFun List.Disjoint
      fun castle : PendingCastle => castle.parts.map Prod.fst) := ⟨fun _ _ => List.disjoint_symm⟩
  exact disjoint.forall firstPending secondPending distinct inFirst inSecond

theorem castles_nodup (coherent : Coherent table) : table.castles.Nodup :=
  (List.nodup_flatMap.mp coherent.castlePieces).2.imp fun {first second} apart same => by
    subst same
    exact apart (List.mem_cons_self ..) (List.mem_cons_self ..)

theorem king_ne_rook (coherent : Coherent table) {castle : PendingCastle}
    (pending : castle ∈ table.castles) : castle.king ≠ castle.rook := by
  have nodup := (List.nodup_flatMap.mp coherent.castlePieces).1 castle pending
  simpa only [PendingCastle.parts, List.map_cons, List.map_nil, List.nodup_cons,
    List.mem_singleton, List.not_mem_nil, not_false_eq_true, List.nodup_nil, and_true] using nodup

end Coherent

/-! ## Ending motions -/

/-- A group of pieces gives up its motions. Every other piece keeps its state and
its motion, and may disappear from the grid but not appear on it; a piece of the
group ends idle on at most one cell, or captured on none. -/
structure Retires (table next : Table) (gone : PieceId → Prop) : Prop where
  sublist : next.motions.Sublist table.motions
  motions : ∀ motion, motion ∈ next.motions ↔ motion ∈ table.motions ∧ ¬ gone motion.piece
  others : ∀ piece, ¬ gone piece → next.stateOf piece = table.stateOf piece
  ended : ∀ piece, gone piece → next.stateOf piece = .idle ∨ next.stateOf piece = .captured
  grounded : ∀ piece, gone piece → table.stateOf piece ≠ .airborne
  inside : ∀ cell, next.board.isInside cell ↔ table.board.isInside cell
  kept : ∀ cell piece, ¬ gone piece → next.board.getPieceAt cell = some piece →
    table.board.getPieceAt cell = some piece
  placed : ∀ piece, gone piece → ∀ first second, next.board.getPieceAt first = some piece →
    next.board.getPieceAt second = some piece → first = second
  off : ∀ piece, gone piece → next.stateOf piece = .captured →
    ∀ cell, next.board.getPieceAt cell ≠ some piece
  flights : next.flights = table.flights
  castles : next.castles.Sublist table.castles
  parts : ∀ castle ∈ next.castles, ∀ part ∈ castle.parts, gone part.1 →
    next.stateOf part.1 = .captured

/-- **Coherence survives the end of motions.** -/
theorem Coherent.retire {table next : Table} {gone : PieceId → Prop} (coherent : Coherent table)
    (retires : Retires table next gone) : Coherent next where
  distinct := (retires.sublist.map Motion.piece).nodup coherent.distinct
  moving := by
    intro piece
    by_cases isGone : gone piece
    · have resting : next.stateOf piece ≠ .moving := by
        rcases retires.ended piece isGone with idle | captured
        · simp only [idle, ne_eq, reduceCtorEq, not_false_eq_true]
        · simp only [captured, ne_eq, reduceCtorEq, not_false_eq_true]
      refine ⟨fun moving => absurd moving resting, ?_⟩
      rintro ⟨motion, member, rfl⟩
      exact absurd isGone ((retires.motions motion).mp member).2
    · rw [retires.others piece isGone, coherent.moving piece]
      constructor
      · rintro ⟨motion, member, rfl⟩
        exact ⟨motion, (retires.motions motion).mpr ⟨member, isGone⟩, rfl⟩
      · rintro ⟨motion, member, rfl⟩
        exact ⟨motion, ((retires.motions motion).mp member).1, rfl⟩
  within := fun motion member => (retires.inside _).mpr
    (coherent.within motion ((retires.motions motion).mp member).1)
  oneCell := by
    intro first second piece atFirst atSecond
    by_cases isGone : gone piece
    · exact retires.placed piece isGone first second atFirst atSecond
    · exact coherent.oneCell (retires.kept first piece isGone atFirst)
        (retires.kept second piece isGone atSecond)
  atSource := fun motion member cell here =>
    have before := (retires.motions motion).mp member
    coherent.atSource motion before.1 cell (retires.kept cell motion.piece before.2 here)
  offBoard := by
    intro piece captured cell here
    by_cases isGone : gone piece
    · exact retires.off piece isGone captured cell here
    · exact coherent.offBoard piece (retires.others piece isGone ▸ captured) cell
        (retires.kept cell piece isGone here)
  airborne := retires.flights ▸ coherent.airborne
  flying := by
    intro flight member
    have flying := coherent.flying flight (retires.flights ▸ member)
    have staysUp : ¬ gone flight.piece := fun isGone => retires.grounded _ isGone flying
    exact (retires.others _ staysUp).trans flying
  castlePieces := (retires.castles.flatMap _).nodup coherent.castlePieces
  underway := by
    intro castle pending part isPart
    by_cases isGone : gone part.1
    · exact .inl (retires.parts castle pending part isPart isGone)
    · rw [retires.others _ isGone]
      rcases coherent.underway castle (retires.castles.mem pending) part isPart with
        captured | ⟨motion, member, own, source⟩
      · exact .inl captured
      · exact .inr ⟨motion, (retires.motions motion).mpr ⟨member, own ▸ isGone⟩, own, source⟩
  destinations := fun castle pending => by
    have before := coherent.destinations castle (retires.castles.mem pending)
    exact ⟨(retires.inside _).mpr before.1, (retires.inside _).mpr before.2.1, before.2.2⟩

/-- Filtering out the motions of one piece. -/
theorem mem_filter_piece {motions : List Motion} {piece : PieceId} {motion : Motion} :
    motion ∈ motions.filter (fun motion => motion.piece ≠ piece) ↔
      motion ∈ motions ∧ ¬ motion.piece = piece := by
  rw [List.mem_filter, decide_eq_true_iff]

/-- Only a piece in no castle may be put down by its own event. -/
def Free (table : Table) (piece : PieceId) : Prop :=
  ∀ castle ∈ table.castles, piece ∉ castle.parts.map Prod.fst

theorem remove_retires {table : Table} (coherent : Coherent table) {piece : PieceId}
    (grounded : table.stateOf piece ≠ .airborne) :
    Retires table (table.remove piece) (· = piece) where
  sublist := List.filter_sublist
  motions := fun _ => mem_filter_piece
  others := fun other apart => by rw [stateOf_remove, if_neg apart]
  ended := fun other same => .inr (by rw [stateOf_remove, if_pos same])
  grounded := by
    rintro other rfl
    exact grounded
  inside := fun cell => Board.isInside_takeOff table.board piece cell
  kept := by
    intro cell other apart here
    rw [remove, Board.getPieceAt_takeOff coherent.oneCell] at here
    split at here
    · cases here
    · exact here
  placed := by
    rintro other rfl first second here
    rw [remove, Board.getPieceAt_takeOff coherent.oneCell] at here
    split at here
    · cases here
    · next absent => exact absurd here absent
  off := by
    rintro other rfl _ cell here
    rw [remove, Board.getPieceAt_takeOff coherent.oneCell] at here
    split at here
    · cases here
    · next absent => exact absurd here absent
  flights := rfl
  castles := List.Sublist.refl _
  parts := fun castle _ part _ same => by rw [stateOf_remove, if_pos same]

/-- Reading the grid after a moving piece was put down. -/
theorem getPieceAt_stop {table : Table} (coherent : Coherent table) {motion : Motion}
    (member : motion ∈ table.motions) {cell : Position} (inside : table.board.isInside cell)
    (eventTimeMs : Int) (other : Position) :
    (table.stop motion.piece motion.source cell eventTimeMs).board.getPieceAt other =
      if other = cell then some motion.piece
      else if table.board.getPieceAt other = some motion.piece then none
      else table.board.getPieceAt other :=
  Board.getPieceAt_commit inside (coherent.atSource motion member) other

theorem stop_retires {table : Table} (coherent : Coherent table) {motion : Motion}
    (member : motion ∈ table.motions) (free : table.Free motion.piece) {cell : Position}
    (inside : table.board.isInside cell) (eventTimeMs : Int) :
    Retires table (table.stop motion.piece motion.source cell eventTimeMs)
      (· = motion.piece) where
  sublist := List.filter_sublist
  motions := fun _ => mem_filter_piece
  others := fun other apart => by rw [stateOf_stop, if_neg apart]
  ended := fun other same => .inl (by rw [stateOf_stop, if_pos same])
  grounded := by
    rintro other rfl
    simp only [coherent.stateOf_motion member, ne_eq, reduceCtorEq, not_false_eq_true]
  inside := Board.isInside_commit table.board motion.piece motion.source cell
  kept := by
    intro other piece apart here
    rw [getPieceAt_stop coherent member inside] at here
    split at here
    · exact absurd (Option.some.inj here).symm apart
    · split at here
      · cases here
      · exact here
  placed := by
    have onlyThere : ∀ other, (table.stop motion.piece motion.source cell
        eventTimeMs).board.getPieceAt other = some motion.piece → other = cell := by
      intro other here
      rw [getPieceAt_stop coherent member inside] at here
      split at here
      · assumption
      · split at here
        · cases here
        · next absent => exact absurd here absent
    rintro piece rfl first second atFirst atSecond
    exact (onlyThere first atFirst).trans (onlyThere second atSecond).symm
  off := by
    intro piece same captured
    rw [stateOf_stop, if_pos same] at captured
    cases captured
  flights := rfl
  castles := List.Sublist.refl _
  parts := fun castle pending part isPart same =>
    absurd (same ▸ List.mem_map_of_mem isPart) (free castle pending)

/-- Reading the grid after a castle was completed. -/
theorem getPieceAt_castleBoard (board : Board) (castle : PendingCastle)
    (kingInside : board.isInside castle.kingDestination)
    (rookInside : board.isInside castle.rookDestination) (cell : Position) :
    (castleBoard board castle).getPieceAt cell =
      if cell = castle.rookDestination then some castle.rook
      else if cell = castle.kingDestination then some castle.king
      else if cell = castle.rookSource then none
      else if cell = castle.kingSource then none
      else board.getPieceAt cell := by
  simp only [castleBoard, Board.getPieceAt_setPieceAt, Board.getPieceAt_removePiece,
    Board.isInside_setPieceAt, Board.isInside_removePiece]
  by_cases atRook : cell = castle.rookDestination
  · simp only [atRook, rookInside, and_self, if_true]
  · by_cases atKing : cell = castle.kingDestination
    · subst atKing
      simp only [atRook, false_and, if_false, kingInside, and_self, if_true]
    · simp only [atRook, atKing, false_and, if_false]

theorem isInside_castleBoard (board : Board) (castle : PendingCastle) (cell : Position) :
    (castleBoard board castle).isInside cell ↔ board.isInside cell := by
  simp only [castleBoard, Board.isInside_setPieceAt, Board.isInside_removePiece]

theorem finishCastle_retires {table : Table} (coherent : Coherent table) {castle : PendingCastle}
    (pending : castle ∈ table.castles) (completedAt : Int) :
    Retires table (table.finishCastle castle completedAt)
      fun piece => piece = castle.king ∨ piece = castle.rook := by
  obtain ⟨kingInside, rookInside, apart⟩ := coherent.destinations castle pending
  have read := getPieceAt_castleBoard table.board castle kingInside rookInside
  have kingPart : (castle.king, castle.kingSource) ∈ castle.parts := List.mem_cons_self ..
  have rookPart : (castle.rook, castle.rookSource) ∈ castle.parts :=
    List.mem_cons_of_mem _ (List.mem_cons_self ..)
  have kingStart : ∀ cell, table.board.getPieceAt cell = some castle.king →
      cell = castle.kingSource := fun cell => coherent.atStart pending kingPart
  have rookStart : ∀ cell, table.board.getPieceAt cell = some castle.rook →
      cell = castle.rookSource := fun cell => coherent.atStart pending rookPart
  have distinct := coherent.king_ne_rook pending
  have kingOnly : ∀ cell, (castleBoard table.board castle).getPieceAt cell = some castle.king →
      cell = castle.kingDestination := by
    intro cell here
    rw [read] at here
    grind
  have rookOnly : ∀ cell, (castleBoard table.board castle).getPieceAt cell = some castle.rook →
      cell = castle.rookDestination := by
    intro cell here
    rw [read] at here
    grind
  refine
    { sublist := List.filter_sublist.trans List.filter_sublist
      motions := ?_, others := ?_, ended := ?_, grounded := ?_
      inside := isInside_castleBoard table.board castle
      kept := ?_, placed := ?_, off := ?_, flights := rfl
      castles := List.erase_sublist
      parts := ?_ }
  · intro motion
    change motion ∈ List.filter _ (List.filter _ _) ↔ _
    rw [mem_filter_piece, mem_filter_piece, not_or, and_assoc]
  · intro piece outsider
    rw [stateOf_finishCastle, if_neg outsider]
  · intro piece insider
    exact .inl (by rw [stateOf_finishCastle, if_pos insider])
  · rintro piece (rfl | rfl)
    · rcases coherent.stateOf_part pending kingPart with captured | moving
      · simp only [captured, ne_eq, reduceCtorEq, not_false_eq_true]
      · simp only [moving, ne_eq, reduceCtorEq, not_false_eq_true]
    · rcases coherent.stateOf_part pending rookPart with captured | moving
      · simp only [captured, ne_eq, reduceCtorEq, not_false_eq_true]
      · simp only [moving, ne_eq, reduceCtorEq, not_false_eq_true]
  · intro cell piece outsider here
    rw [finishCastle, read] at here
    grind
  · rintro piece (rfl | rfl) first second atFirst atSecond
    · exact (kingOnly first atFirst).trans (kingOnly second atSecond).symm
    · exact (rookOnly first atFirst).trans (rookOnly second atSecond).symm
  · intro piece insider captured
    rw [stateOf_finishCastle, if_pos insider] at captured
    cases captured
  · intro other remaining part isPart insider
    have left := (coherent.castles_nodup.mem_erase_iff).mp remaining
    have shared : part.1 ∈ castle.parts.map Prod.fst := by
      rcases insider with same | same
      · exact same ▸ List.mem_map_of_mem kingPart
      · exact same ▸ List.mem_map_of_mem rookPart
    exact absurd (coherent.castle_unique left.2 pending (List.mem_map_of_mem isPart) shared) left.1

/-! ## The other operations -/

namespace Coherent

variable {table : Table}

theorem mem_slide (coherent : Coherent table) {piece : PieceId} {cell : Position}
    {motion : Motion} : motion ∈ (table.slide piece cell).motions ↔
      ∃ before ∈ table.motions,
        (if before.piece = piece then before.moveOn cell else before) = motion := by
  rw [slide, RealTimeArbiter.updateMotionCellIn_eq_map coherent.distinct, List.mem_map]

/-- A motion after a slide comes from one of the same piece, with the same
source. -/
theorem of_mem_slide (coherent : Coherent table) {piece : PieceId} {cell : Position}
    {motion : Motion} (member : motion ∈ (table.slide piece cell).motions) :
    ∃ before ∈ table.motions, before.piece = motion.piece ∧ before.source = motion.source ∧
      motion.currentCell = if motion.piece = piece then cell else before.currentCell := by
  obtain ⟨before, present, rfl⟩ := coherent.mem_slide.mp member
  refine ⟨before, present, ?_⟩
  by_cases own : before.piece = piece
  · rw [if_pos own]
    exact ⟨rfl, rfl, (if_pos own).symm⟩
  · rw [if_neg own]
    exact ⟨rfl, rfl, (if_neg own).symm⟩

/-- The motion of a piece survives a slide. -/
theorem slide_survives (coherent : Coherent table) (piece : PieceId) (cell : Position)
    {motion : Motion} (member : motion ∈ table.motions) :
    ∃ after ∈ (table.slide piece cell).motions,
      after.piece = motion.piece ∧ after.source = motion.source := by
  refine ⟨_, coherent.mem_slide.mpr ⟨motion, member, rfl⟩, ?_⟩
  split <;> exact ⟨rfl, rfl⟩

theorem slide (coherent : Coherent table) (piece : PieceId) {cell : Position}
    (inside : table.board.isInside cell) : Coherent (table.slide piece cell) where
  distinct := by
    rw [Table.slide, RealTimeArbiter.map_piece_updateMotionCellIn]
    exact coherent.distinct
  moving := by
    intro other
    rw [stateOf_slide, coherent.moving other]
    constructor
    · rintro ⟨motion, member, rfl⟩
      obtain ⟨after, present, same, _⟩ := coherent.slide_survives piece cell member
      exact ⟨after, present, same⟩
    · rintro ⟨motion, member, rfl⟩
      obtain ⟨before, present, same, _⟩ := coherent.of_mem_slide member
      exact ⟨before, present, same⟩
  within := by
    intro motion member
    obtain ⟨before, present, _, _, current⟩ := coherent.of_mem_slide member
    rw [current]
    split
    · exact inside
    · exact coherent.within before present
  oneCell := coherent.oneCell
  atSource := by
    intro motion member other here
    obtain ⟨before, present, same, source, _⟩ := coherent.of_mem_slide member
    exact source ▸ coherent.atSource before present other (same ▸ here)
  offBoard := coherent.offBoard
  airborne := coherent.airborne
  flying := coherent.flying
  castlePieces := coherent.castlePieces
  underway := by
    intro castle pending part isPart
    rcases coherent.underway castle pending part isPart with gone | ⟨motion, member, own, source⟩
    · exact .inl gone
    · obtain ⟨after, present, same, kept⟩ := coherent.slide_survives piece cell member
      exact .inr ⟨after, present, same.trans own, kept.trans source⟩
  destinations := coherent.destinations

/-- Coherence does not look at the other members of a piece. -/
theorem mark (coherent : Coherent table) (piece : PieceId) : Coherent (table.mark piece) where
  distinct := coherent.distinct
  moving := fun other => by rw [stateOf_mark]; exact coherent.moving other
  within := coherent.within
  oneCell := coherent.oneCell
  atSource := coherent.atSource
  offBoard := fun other => by rw [stateOf_mark]; exact coherent.offBoard other
  airborne := coherent.airborne
  flying := fun flight member => by rw [stateOf_mark]; exact coherent.flying flight member
  castlePieces := coherent.castlePieces
  underway := fun castle pending part isPart => by
    rw [stateOf_mark]
    exact coherent.underway castle pending part isPart
  destinations := coherent.destinations

/-- An idle piece on the grid may depart from its cell. -/
theorem depart (coherent : Coherent table) {motion : Motion}
    (idle : table.stateOf motion.piece = .idle)
    (here : table.board.getPieceAt motion.source = some motion.piece)
    (starts : motion.currentCell = motion.source) : Coherent (table.depart motion) := by
  have fresh : ∀ other ∈ table.motions, other.piece ≠ motion.piece := by
    intro other member same
    have moving := coherent.stateOf_motion member
    rw [same, idle] at moving
    cases moving
  have keeps : ∀ piece, table.stateOf piece ≠ .idle →
      (table.depart motion).stateOf piece = table.stateOf piece := by
    intro piece busy
    rw [stateOf_depart, if_neg fun same : piece = motion.piece => busy (same ▸ idle)]
  refine
    { distinct := ?_, moving := ?_, within := ?_, oneCell := coherent.oneCell
      atSource := ?_, offBoard := ?_, airborne := coherent.airborne, flying := ?_
      castlePieces := coherent.castlePieces, underway := ?_
      destinations := coherent.destinations }
  · rw [Table.depart, List.map_append, List.map_cons, List.map_nil]
    refine List.Nodup.append coherent.distinct (List.nodup_singleton _) ?_
    intro piece old new
    obtain ⟨other, member, rfl⟩ := List.mem_map.mp old
    exact fresh other member (List.mem_singleton.mp new)
  · intro piece
    rw [stateOf_depart]
    split
    · next same =>
        simp only [true_iff]
        exact ⟨motion, List.mem_append_right _ (List.mem_singleton.mpr rfl), same.symm⟩
    · next apart =>
        rw [coherent.moving piece]
        constructor
        · rintro ⟨other, member, own⟩
          exact ⟨other, List.mem_append_left _ member, own⟩
        · rintro ⟨other, member, own⟩
          rcases List.mem_append.mp member with old | new
          · exact ⟨other, old, own⟩
          · exact absurd (own.symm.trans (congrArg Motion.piece (List.mem_singleton.mp new))) apart
  · intro other member
    rcases List.mem_append.mp member with old | new
    · exact coherent.within other old
    · rw [List.mem_singleton.mp new, starts]
      exact Board.isInside_of_getPieceAt here
  · intro other member cell found
    rcases List.mem_append.mp member with old | new
    · exact coherent.atSource other old cell found
    · rw [List.mem_singleton.mp new] at found ⊢
      exact coherent.oneCell found here
  · intro piece captured
    rw [stateOf_depart] at captured
    split at captured
    · cases captured
    · exact coherent.offBoard piece captured
  · intro flight member
    have flying := coherent.flying flight member
    rw [keeps flight.piece (by simp only [flying, ne_eq, reduceCtorEq, not_false_eq_true])]
    exact flying
  · intro castle pending part isPart
    rcases coherent.underway castle pending part isPart with gone | ⟨other, member, own, source⟩
    · refine .inl ?_
      rw [keeps part.1 (by simp only [gone, ne_eq, reduceCtorEq, not_false_eq_true])]
      exact gone
    · exact .inr ⟨other, List.mem_append_left _ member, own, source⟩

/-- Two motions may be declared a castle when neither piece belongs to one. -/
theorem pend (coherent : Coherent table) {castle : PendingCastle}
    (distinct : castle.king ≠ castle.rook)
    (free : ∀ part ∈ castle.parts, table.Free part.1)
    (underway : ∀ part ∈ castle.parts,
      ∃ motion ∈ table.motions, motion.piece = part.1 ∧ motion.source = part.2)
    (kingInside : table.board.isInside castle.kingDestination)
    (rookInside : table.board.isInside castle.rookDestination)
    (apart : castle.kingDestination ≠ castle.rookDestination) :
    Coherent (table.pend castle) where
  distinct := coherent.distinct
  moving := coherent.moving
  within := coherent.within
  oneCell := coherent.oneCell
  atSource := coherent.atSource
  offBoard := coherent.offBoard
  airborne := coherent.airborne
  flying := coherent.flying
  castlePieces := by
    rw [Table.pend, List.flatMap_append, List.flatMap_singleton]
    refine List.Nodup.append coherent.castlePieces ?_ ?_
    · simpa only [PendingCastle.parts, List.map_cons, List.map_nil, List.nodup_cons,
        List.mem_singleton, List.not_mem_nil, not_false_eq_true, List.nodup_nil, and_true]
        using distinct
    · intro piece old new
      obtain ⟨other, pending, inOther⟩ := List.mem_flatMap.mp old
      obtain ⟨part, isPart, rfl⟩ := List.mem_map.mp new
      exact free part isPart other pending inOther
  underway := by
    intro other pending part isPart
    rcases List.mem_append.mp pending with old | new
    · exact coherent.underway other old part isPart
    · rw [List.mem_singleton.mp new] at isPart
      exact .inr (underway part isPart)
  destinations := by
    intro other pending
    rcases List.mem_append.mp pending with old | new
    · exact coherent.destinations other old
    · rw [List.mem_singleton.mp new]
      exact ⟨kingInside, rookInside, apart⟩

/-- An idle piece belongs to no castle. -/
theorem free_of_idle (coherent : Coherent table) {piece : PieceId}
    (idle : table.stateOf piece = .idle) : table.Free piece := by
  intro castle pending inCastle
  obtain ⟨part, isPart, rfl⟩ := List.mem_map.mp inCastle
  rcases coherent.stateOf_part pending isPart with captured | moving
  · rw [idle] at captured
    cases captured
  · rw [idle] at moving
    cases moving

/-- An idle piece on the grid may jump up. -/
theorem lift (coherent : Coherent table) {flight : Flight}
    (idle : table.stateOf flight.piece = .idle) : Coherent (table.lift flight) := by
  have keeps : ∀ piece, table.stateOf piece ≠ .idle →
      (table.lift flight).stateOf piece = table.stateOf piece := by
    intro piece busy
    rw [stateOf_lift, if_neg fun same : piece = flight.piece => busy (same ▸ idle)]
  refine
    { distinct := coherent.distinct, moving := ?_, within := coherent.within
      oneCell := coherent.oneCell, atSource := coherent.atSource, offBoard := ?_
      airborne := ?_, flying := ?_, castlePieces := coherent.castlePieces, underway := ?_
      destinations := coherent.destinations }
  · intro piece
    refine Iff.trans ?_ (coherent.moving piece)
    rw [stateOf_lift]
    split
    · next same => simp only [same, idle, reduceCtorEq]
    · exact Iff.rfl
  · intro piece captured
    rw [stateOf_lift] at captured
    split at captured
    · cases captured
    · exact coherent.offBoard piece captured
  · rw [Table.lift, List.map_append, List.map_cons, List.map_nil]
    refine List.Nodup.append coherent.airborne (List.nodup_singleton _) ?_
    intro piece old new
    obtain ⟨other, member, rfl⟩ := List.mem_map.mp old
    have flying := coherent.flying other member
    rw [List.mem_singleton.mp new, idle] at flying
    cases flying
  · intro other member
    rcases List.mem_append.mp member with old | new
    · have flying := coherent.flying other old
      rw [keeps other.piece (by simp only [flying, ne_eq, reduceCtorEq, not_false_eq_true])]
      exact flying
    · rw [List.mem_singleton.mp new, stateOf_lift, if_pos rfl]
  · intro castle pending part isPart
    rcases coherent.underway castle pending part isPart with gone | underway
    · refine .inl ?_
      rw [keeps part.1 (by simp only [gone, ne_eq, reduceCtorEq, not_false_eq_true])]
      exact gone
    · exact .inr underway

/-- Flights may be dropped. -/
theorem dropFlight (coherent : Coherent table) (flight : Flight) :
    Coherent (table.dropFlight flight) where
  distinct := coherent.distinct
  moving := coherent.moving
  within := coherent.within
  oneCell := coherent.oneCell
  atSource := coherent.atSource
  offBoard := coherent.offBoard
  airborne := (List.erase_sublist.map Flight.piece).nodup coherent.airborne
  flying := fun other member => coherent.flying other (List.mem_of_mem_erase member)
  castlePieces := coherent.castlePieces
  underway := coherent.underway
  destinations := coherent.destinations

/-- A piece in flight may land. -/
theorem land (coherent : Coherent table) {flight : Flight} (member : flight ∈ table.flights)
    (eventTimeMs shortCooldownMs : Int) :
    Coherent (table.land flight eventTimeMs shortCooldownMs) := by
  have airborne := coherent.flying flight member
  have keeps : ∀ piece, table.stateOf piece ≠ .airborne →
      (table.land flight eventTimeMs shortCooldownMs).stateOf piece = table.stateOf piece := by
    intro piece grounded
    rw [stateOf_land, if_neg fun same : piece = flight.piece => grounded (same ▸ airborne)]
  refine
    { distinct := coherent.distinct, moving := ?_, within := coherent.within
      oneCell := coherent.oneCell, atSource := coherent.atSource, offBoard := ?_
      airborne := (List.erase_sublist.map Flight.piece).nodup coherent.airborne
      flying := ?_, castlePieces := coherent.castlePieces, underway := ?_
      destinations := coherent.destinations }
  · intro piece
    refine Iff.trans ?_ (coherent.moving piece)
    rw [stateOf_land]
    split
    · next same => simp only [same, airborne, reduceCtorEq]
    · exact Iff.rfl
  · intro piece captured
    rw [stateOf_land] at captured
    split at captured
    · cases captured
    · exact coherent.offBoard piece captured
  · intro other remaining
    have flights : table.flights.Nodup := List.Nodup.of_map _ coherent.airborne
    have left := flights.mem_erase_iff.mp remaining
    rw [stateOf_land, if_neg fun same => left.1 (coherent.flight_unique left.2 member same)]
    exact coherent.flying other left.2
  · intro castle pending part isPart
    rcases coherent.underway castle pending part isPart with gone | underway
    · refine .inl ?_
      rw [keeps part.1 (by simp only [gone, ne_eq, reduceCtorEq, not_false_eq_true])]
      exact gone
    · exact .inr underway

/-- An advance of the clock keeps every motion and only reorders the flights. -/
theorem filter_moving (coherent : Coherent table) :
    table.motions.filter (fun motion => table.stateOf motion.piece = .moving) = table.motions := by
  rw [List.filter_eq_self]
  intro motion member
  simp only [coherent.stateOf_motion member, decide_true]

theorem reorder (coherent : Coherent table) {flights : List Flight}
    (perm : flights.Perm table.flights) : Coherent { table with flights := flights } where
  distinct := coherent.distinct
  moving := coherent.moving
  within := coherent.within
  oneCell := coherent.oneCell
  atSource := coherent.atSource
  offBoard := coherent.offBoard
  airborne := (perm.map Flight.piece).nodup_iff.mpr coherent.airborne
  flying := fun flight member => coherent.flying flight (perm.mem_iff.mp member)
  castlePieces := coherent.castlePieces
  underway := coherent.underway
  destinations := coherent.destinations

end Coherent

end Table

end KungFuChess

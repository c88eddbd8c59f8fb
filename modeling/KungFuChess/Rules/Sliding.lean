import KungFuChess.Library.Walk
import KungFuChess.Rules

/-!
# Sliding pieces

Rooks, bishops and queens slide: some number of unit steps in one direction,
through empty cells. `PieceRules` finds the direction from the signs of the
differences and walks until it meets the destination, which it does because each
caller has checked that the two cells are on one line of its piece.
-/

set_option autoImplicit false

namespace KungFuChess

/-! ## Directions -/

/-- A step, by rows and columns. -/
structure Direction where
  row : Int
  col : Int
  deriving DecidableEq, Repr

namespace Direction

/-- Along a rank or a file. -/
def Orthogonal (direction : Direction) : Prop :=
  direction.row.natAbs + direction.col.natAbs = 1

def Diagonal (direction : Direction) : Prop :=
  direction.row.natAbs = 1 ∧ direction.col.natAbs = 1

/-- A step of a king. -/
def Unit (direction : Direction) : Prop :=
  max direction.row.natAbs direction.col.natAbs = 1

theorem Orthogonal.unit {direction : Direction} (orthogonal : direction.Orthogonal) :
    direction.Unit := by
  unfold Orthogonal at orthogonal
  unfold Unit
  omega

theorem Diagonal.unit {direction : Direction} (diagonal : direction.Diagonal) :
    direction.Unit := by
  unfold Diagonal at diagonal
  unfold Unit
  omega

/-- A unit step moves each coordinate by at most one, and some coordinate. -/
theorem Unit.cases {direction : Direction} (unit : direction.Unit) :
    (direction.row = 1 ∨ direction.row = -1 ∨ direction.row = 0) ∧
      (direction.col = 1 ∨ direction.col = -1 ∨ direction.col = 0) ∧
      (direction.row ≠ 0 ∨ direction.col ≠ 0) := by
  unfold Unit at unit
  omega

end Direction

namespace Position

/-- The cell after a number of steps in one direction. -/
def along (source : Position) (direction : Direction) (steps : Nat) : Position :=
  ⟨source.row + steps * direction.row, source.col + steps * direction.col⟩

/-- The direction in which the path walk of the source sets out. -/
def toward (source destination : Position) : Direction :=
  ⟨PieceRules.stepToward source.row destination.row,
    PieceRules.stepToward source.col destination.col⟩

@[simp] theorem along_zero (source : Position) (direction : Direction) :
    source.along direction 0 = source := by
  simp only [along, Nat.cast_zero, zero_mul, add_zero]

theorem along_succ (source : Position) (direction : Direction) (steps : Nat) :
    source.along direction (steps + 1) =
      ⟨(source.along direction steps).row + direction.row,
        (source.along direction steps).col + direction.col⟩ := by
  simp only [along, Nat.cast_succ, add_mul, one_mul, add_assoc]

/-- One coordinate of a number of unit steps. -/
theorem stepToward_along {step : Int} (unit : step = 1 ∨ step = -1 ∨ step = 0) (base : Int)
    {steps : Nat} (moved : 0 < steps) :
    PieceRules.stepToward base (base + steps * step) = step ∧
      (base + steps * step - base).natAbs = steps * step.natAbs := by
  constructor
  · unfold PieceRules.stepToward
    rcases unit with rfl | rfl | rfl <;> omega
  · rw [add_sub_cancel_left, Int.natAbs_mul, Int.natAbs_natCast]

/-- **Steps in a unit direction** give back the direction and their number. -/
theorem toward_along {direction : Direction} (unit : direction.Unit) (source : Position)
    {steps : Nat} (moved : 0 < steps) :
    source.toward (source.along direction steps) = direction ∧
      source.distance (source.along direction steps) = steps := by
  obtain ⟨rowUnit, colUnit, _⟩ := unit.cases
  obtain ⟨rowStep, rowDistance⟩ := stepToward_along rowUnit source.row moved
  obtain ⟨colStep, colDistance⟩ := stepToward_along colUnit source.col moved
  constructor
  · simp only [toward, along, rowStep, colStep]
  · simp only [distance, along, rowDistance, colDistance]
    rw [Nat.mul_max_mul_left, show max _ _ = 1 from unit, mul_one]

/-- Different numbers of steps lead to different cells. -/
theorem along_injective {direction : Direction} (unit : direction.Unit) (source : Position) :
    Function.Injective (source.along direction) := by
  intro first second same
  simp only [along, Position.mk.injEq] at same
  obtain ⟨row, col, moves⟩ := unit.cases
  rcases row with row | row | row <;> rcases col with col | col | col <;>
    simp only [row, col] at same moves <;> omega

/-- On a line of its piece, the walk sets out towards the destination. -/
theorem along_toward {source destination : Position}
    (line : source.row = destination.row ∨ source.col = destination.col ∨
      (destination.row - source.row).natAbs = (destination.col - source.col).natAbs) :
    source.along (source.toward destination) (source.distance destination) = destination := by
  obtain ⟨row, col⟩ := source
  obtain ⟨toRow, toCol⟩ := destination
  simp only [along, toward, distance, PieceRules.stepToward, Position.mk.injEq] at line ⊢
  constructor <;> split <;> (try split) <;> omega

theorem distance_pos {source destination : Position} (distinct : source ≠ destination) :
    0 < source.distance destination := by
  obtain ⟨row, col⟩ := source
  obtain ⟨toRow, toCol⟩ := destination
  simp only [ne_eq, Position.mk.injEq, distance] at distinct ⊢
  omega

theorem orthogonal_toward {source destination : Position} (distinct : source ≠ destination)
    (line : source.row = destination.row ∨ source.col = destination.col) :
    (source.toward destination).Orthogonal := by
  obtain ⟨row, col⟩ := source
  obtain ⟨toRow, toCol⟩ := destination
  simp only [ne_eq, Position.mk.injEq, Direction.Orthogonal, toward, PieceRules.stepToward]
    at distinct line ⊢
  grind

theorem diagonal_toward {source destination : Position} (distinct : source ≠ destination)
    (line : (destination.row - source.row).natAbs = (destination.col - source.col).natAbs) :
    (source.toward destination).Diagonal := by
  obtain ⟨row, col⟩ := source
  obtain ⟨toRow, toCol⟩ := destination
  simp only [ne_eq, Position.mk.injEq, Direction.Diagonal, toward, PieceRules.stepToward]
    at distinct line ⊢
  grind

/-- The cells on the way between two cells of a board are cells of the board. -/
theorem isInside_along {board : Board} {direction : Direction} (unit : direction.Unit)
    {source : Position} {steps : Nat} (start : board.isInside source)
    (goal : board.isInside (source.along direction steps)) {step : Nat} (before : step ≤ steps) :
    board.isInside (source.along direction step) := by
  obtain ⟨row, col, _⟩ := unit.cases
  simp only [Board.isInside, along] at start goal ⊢
  rcases row with row | row | row <;> rcases col with col | col | col <;>
    simp only [row, col] at goal ⊢ <;> omega

end Position

/-! ## The path walk -/

namespace PieceRules

/-- The step of the path walk. -/
def pathStep (direction : Direction) (current : Position) : Position :=
  ⟨current.row + direction.row, current.col + direction.col⟩

/-- The path walk of a board on its way to a cell. -/
abbrev PathWalk (board : Board) (source destination : Position) : List Position → Bool → Prop :=
  Walk.Ends (pathStep (source.toward destination)) board.isEmpty destination
    (pathStep (source.toward destination) source)

theorem iterate_pathStep (direction : Direction) (source : Position) (steps : Nat) :
    (pathStep direction)^[steps] source = source.along direction steps := by
  induction steps with
  | zero => exact (source.along_zero direction).symm
  | succ steps ih => rw [Function.iterate_succ_apply', ih, pathStep, Position.along_succ]

theorem walkPath_eq_walk (board : Board) (destination : Position) (rowStep colStep : Int)
    (fuel : Nat) : ∀ current : Position,
    walkPath board destination rowStep colStep fuel current =
      Walk.walk (pathStep ⟨rowStep, colStep⟩) board.isEmpty destination fuel current := by
  induction fuel with
  | zero => exact fun _ => rfl
  | succ fuel ih => exact fun current => by rw [walkPath, Walk.walk, ih, pathStep]

/-- **The path walk terminates** when the destination is some unit steps away, reads only
cells strictly between, and `isPathClear` is its answer: all these cells are empty. -/
theorem isPathClear_along (board : Board) {direction : Direction} (unit : direction.Unit)
    (source : Position) {steps : Nat} (moved : 0 < steps) :
    (isPathClear board source (source.along direction steps) = true ↔
      ∀ step, 0 < step → step < steps → board.isEmpty (source.along direction step) = true) ∧
    ∃ cells, PathWalk board source (source.along direction steps) cells
        (isPathClear board source (source.along direction steps)) ∧
      ∀ cell ∈ cells, ∃ step, 0 < step ∧ step < steps ∧ cell = source.along direction step := by
  obtain ⟨toward, distance⟩ := Position.toward_along unit source moved
  obtain ⟨steps, rfl⟩ : ∃ before, steps = before + 1 := ⟨steps - 1, by omega⟩
  have onward : ∀ step, (pathStep direction)^[step] (pathStep direction source) =
      source.along direction (step + 1) := fun step => by
    rw [← Function.iterate_succ_apply, iterate_pathStep]
  have meets : Walk.Meets (pathStep direction) (source.along direction (steps + 1))
      (pathStep direction source) steps := by
    refine ⟨onward steps, fun step before met => ?_⟩
    rw [onward] at met
    have same := Position.along_injective unit source met
    omega
  obtain ⟨cells, answer, ends, short, clear, between⟩ :=
    Walk.ends_of_meets board.isEmpty meets
  have answered : isPathClear board source (source.along direction (steps + 1)) = answer := by
    have fuelled := Walk.walk_eq_of_ends ends (Nat.lt_succ_of_le short)
    rw [← fuelled]
    unfold isPathClear
    dsimp only
    rw [distance, walkPath_eq_walk]
    exact congrArg (fun direction => Walk.walk (pathStep direction) _ _ _
      (pathStep direction source)) toward
  refine ⟨?_, cells, ?_, fun cell member => ?_⟩
  · rw [answered, clear]
    constructor
    · intro all step positive before
      obtain ⟨step, rfl⟩ : ∃ before, step = before + 1 := ⟨step - 1, by omega⟩
      exact onward step ▸ all step (by omega)
    · exact fun all step before => onward step ▸ all (step + 1) (Nat.succ_pos step) (by omega)
  · rw [answered, PathWalk, toward]
    exact ends
  · obtain ⟨step, before, same⟩ := between cell member
    exact ⟨step + 1, Nat.succ_pos step, by omega, same.trans (onward step)⟩

/-! ## Sliding -/

/-- A piece of these directions slides from one cell to another: some unit steps in
one of them, with every cell between empty. -/
def Slides (board : Board) (directions : Direction → Prop) (source destination : Position) :
    Prop :=
  ∃ steps ≥ 1, ∃ direction, directions direction ∧
    destination = source.along direction steps ∧
    ∀ step, 0 < step → step < steps → board.isEmpty (source.along direction step) = true

/-- On a line, the walk decides whether the piece slides. -/
theorem slides_iff_isPathClear {board : Board} {directions : Direction → Prop}
    (units : ∀ direction, directions direction → direction.Unit) {source destination : Position}
    (own : directions (source.toward destination)) (distinct : source ≠ destination)
    (line : source.along (source.toward destination) (source.distance destination) =
      destination) :
    Slides board directions source destination ↔ isPathClear board source destination = true := by
  constructor
  · rintro ⟨steps, moved, direction, among, rfl, clear⟩
    exact (isPathClear_along board (units direction among) source moved).1.mpr clear
  · intro clear
    refine ⟨_, Position.distance_pos distinct, _, own, line.symm, ?_⟩
    have walk := (isPathClear_along board (units _ own) source (Position.distance_pos distinct)).1
    rw [line] at walk
    exact walk.mp clear

theorem slides_distinct {board : Board} {directions : Direction → Prop}
    (units : ∀ direction, directions direction → direction.Unit) {source destination : Position}
    (slides : Slides board directions source destination) : source ≠ destination := by
  obtain ⟨steps, moved, direction, among, rfl, _⟩ := slides
  intro same
  have zero : steps = 0 := Position.along_injective (units direction among) source
    (same.symm.trans (source.along_zero direction).symm)
  omega

/-- What stands on the destination does not matter to a slide. -/
theorem slides_setPieceAt {board : Board} {directions : Direction → Prop}
    (units : ∀ direction, directions direction → direction.Unit) (source destination : Position)
    (piece : Option PieceId) :
    Slides (board.setPieceAt destination piece) directions source destination ↔
      Slides board directions source destination := by
  unfold Slides
  refine exists_congr fun steps => and_congr_right fun _ => exists_congr fun direction =>
    and_congr_right fun among => and_congr_right fun arrives => forall_congr' fun step =>
      forall_congr' fun _ => forall_congr' fun before => ?_
  have between : source.along direction step ≠ destination := fun same => by
    have equal := Position.along_injective (units direction among) source (same.trans arrives)
    omega
  simp only [Board.isEmpty, Board.getPieceAt_setPieceAt, between, false_and, if_false]

theorem canMoveLikeRook_iff (board : Board) (source destination : Position) :
    canMoveLikeRook board source destination = true ↔
      Slides board Direction.Orthogonal source destination := by
  have units := fun (direction : Direction) (orthogonal : direction.Orthogonal) => orthogonal.unit
  unfold canMoveLikeRook
  split
  · next same => exact ⟨nofun, fun slides => absurd same (slides_distinct units slides)⟩
  · next distinct =>
      split
      · next off =>
          refine ⟨nofun, ?_⟩
          rintro ⟨steps, _, direction, orthogonal, rfl, _⟩
          unfold Direction.Orthogonal at orthogonal
          have still : direction.row = 0 ∨ direction.col = 0 := by omega
          simp only [Position.along] at off
          rcases still with still | still <;>
            simp only [still, mul_zero, add_zero, ne_eq, not_true_eq_false, false_and,
              and_false] at off
      · next line =>
          have line : source.row = destination.row ∨ source.col = destination.col := by
            simpa only [not_and_or, ne_eq, not_not] using line
          exact (slides_iff_isPathClear units (Position.orthogonal_toward distinct line) distinct
            (Position.along_toward (line.imp_right .inl))).symm

theorem canMoveLikeBishop_iff (board : Board) (source destination : Position) :
    canMoveLikeBishop board source destination = true ↔
      Slides board Direction.Diagonal source destination := by
  have units := fun (direction : Direction) (diagonal : direction.Diagonal) => diagonal.unit
  unfold canMoveLikeBishop
  split
  · next same => exact ⟨nofun, fun slides => absurd same (slides_distinct units slides)⟩
  · next distinct =>
      split
      · next off =>
          refine ⟨nofun, ?_⟩
          rintro ⟨steps, _, direction, ⟨row, col⟩, rfl, _⟩
          simp only [Position.along, add_sub_cancel_left, Int.natAbs_mul, row, col, ne_eq,
            not_true_eq_false] at off
      · next line =>
          have line := not_not.mp line
          exact (slides_iff_isPathClear units (Position.diagonal_toward distinct line) distinct
            (Position.along_toward (.inr (.inr line)))).symm

theorem slides_or (board : Board) (first second : Direction → Prop)
    (source destination : Position) :
    Slides board (fun direction => first direction ∨ second direction) source destination ↔
      Slides board first source destination ∨ Slides board second source destination := by
  constructor
  · rintro ⟨steps, moved, direction, one | two, onward⟩
    · exact .inl ⟨steps, moved, direction, one, onward⟩
    · exact .inr ⟨steps, moved, direction, two, onward⟩
  · rintro (⟨steps, moved, direction, one, onward⟩ | ⟨steps, moved, direction, two, onward⟩)
    · exact ⟨steps, moved, direction, .inl one, onward⟩
    · exact ⟨steps, moved, direction, .inr two, onward⟩

theorem canMoveLikeQueen_iff (board : Board) (source destination : Position) :
    canMoveLikeQueen board source destination = true ↔
      Slides board (fun direction => direction.Orthogonal ∨ direction.Diagonal) source
        destination := by
  rw [canMoveLikeQueen, Bool.or_eq_true, canMoveLikeRook_iff, canMoveLikeBishop_iff, slides_or]

/-- The walk of a caller of `isPathClear` terminates and reads cells of the board. -/
theorem pathWalk_inside {board : Board} {source destination : Position}
    (start : board.isInside source) (goal : board.isInside destination)
    (distinct : source ≠ destination)
    (line : source.row = destination.row ∨ source.col = destination.col ∨
      (destination.row - source.row).natAbs = (destination.col - source.col).natAbs) :
    ∃ cells, PathWalk board source destination cells (isPathClear board source destination) ∧
      ∀ cell ∈ cells, board.isInside cell := by
  have unit : (source.toward destination).Unit := by
    rcases line with row | col | diagonal
    · exact (Position.orthogonal_toward distinct (.inl row)).unit
    · exact (Position.orthogonal_toward distinct (.inr col)).unit
    · exact (Position.diagonal_toward distinct diagonal).unit
  have meets := Position.along_toward line
  obtain ⟨_, cells, walk, between⟩ :=
    isPathClear_along board unit source (Position.distance_pos distinct)
  rw [meets] at walk
  refine ⟨cells, walk, fun cell member => ?_⟩
  obtain ⟨step, _, before, rfl⟩ := between cell member
  exact Position.isInside_along unit start (meets.symm ▸ goal) before.le

/-- **The sliding rules.** On every board and between any two of its cells, the rook, the
bishop and the queen may move exactly where they slide, and the path walk they make
terminates and reads cells of the board only. -/
theorem sliding_rules (board : Board) (source destination : Position)
    (start : board.isInside source) (goal : board.isInside destination) :
    (canMoveLikeRook board source destination = true ↔
      Slides board Direction.Orthogonal source destination) ∧
    (canMoveLikeBishop board source destination = true ↔
      Slides board Direction.Diagonal source destination) ∧
    (canMoveLikeQueen board source destination = true ↔
      Slides board (fun direction => direction.Orthogonal ∨ direction.Diagonal) source
        destination) ∧
    (source ≠ destination →
      (source.row = destination.row ∨ source.col = destination.col ∨
        (destination.row - source.row).natAbs = (destination.col - source.col).natAbs) →
      ∃ cells, PathWalk board source destination cells (isPathClear board source destination) ∧
        ∀ cell ∈ cells, board.isInside cell) :=
  ⟨canMoveLikeRook_iff board source destination, canMoveLikeBishop_iff board source destination,
    canMoveLikeQueen_iff board source destination, pathWalk_inside start goal⟩

/-- The rook on a corner of the start position slides nowhere up its file, where its own
pawn stands. -/
theorem sliding_rules_corner :
    (createInitialBoard.board.isInside ⟨7, 0⟩ ∧ createInitialBoard.board.isInside ⟨5, 0⟩) ∧
    ¬ Slides createInitialBoard.board Direction.Orthogonal ⟨7, 0⟩ ⟨5, 0⟩ ∧
    ∃ cells, PathWalk createInitialBoard.board ⟨7, 0⟩ ⟨5, 0⟩ cells false ∧
      ∀ cell ∈ cells, createInitialBoard.board.isInside cell := by
  have inside : createInitialBoard.board.isInside ⟨7, 0⟩ ∧
      createInitialBoard.board.isInside ⟨5, 0⟩ := by decide +kernel
  obtain ⟨rook, _, _, walk⟩ := sliding_rules createInitialBoard.board _ _ inside.1 inside.2
  have blocked : isPathClear createInitialBoard.board ⟨7, 0⟩ ⟨5, 0⟩ = false := by decide +kernel
  refine ⟨inside, fun slides => ?_, blocked ▸ walk (by decide) (.inr (.inl rfl))⟩
  have moves := rook.mpr slides
  rw [show canMoveLikeRook createInitialBoard.board ⟨7, 0⟩ ⟨5, 0⟩ =
    false by decide +kernel] at moves
  cases moves

end PieceRules

end KungFuChess

import KungFuChess.Core.Board
import Mathlib.Algebra.Order.Ring.Int
import Mathlib.Tactic.Linarith

/-!
# From pixels to cells

`BoardMapper::pixelToCell` turns a point of a window into a cell of the board. The
cells lie beside each other as rectangles of one size, and the point belongs to the
cell whose rectangle it is in.
-/

set_option autoImplicit false

namespace KungFuChess

/-- Where the board lies in a window, and the size of its cells, in pixels. -/
structure BoardGeometry where
  boardStartX : Int := 0
  boardStartY : Int := 0
  cellSizeX : Int := 100
  cellSizeY : Int := 100
  deriving DecidableEq

/-- The point is in the rectangle of the cell. -/
def BoardGeometry.Covers (geometry : BoardGeometry) (cell : Position) (x y : Int) : Prop :=
  (geometry.boardStartX + cell.col * geometry.cellSizeX ≤ x ∧
    x < geometry.boardStartX + (cell.col + 1) * geometry.cellSizeX) ∧
  geometry.boardStartY + cell.row * geometry.cellSizeY ≤ y ∧
    y < geometry.boardStartY + (cell.row + 1) * geometry.cellSizeY

namespace BoardMapper

/-- `BoardMapper::pixelToCell`. -/
def pixelToCell (x y : Int) (board : Board) (geometry : BoardGeometry) : Option Position :=
  if geometry.cellSizeX ≤ 0 ∨ geometry.cellSizeY ≤ 0 then none
  else
    let relativeX := x - geometry.boardStartX
    let relativeY := y - geometry.boardStartY
    if relativeX < 0 ∨ relativeY < 0 then none
    else
      let boardPixelWidth := board.width * geometry.cellSizeX
      let boardPixelHeight := board.height * geometry.cellSizeY
      if boardPixelWidth ≤ relativeX ∨ boardPixelHeight ≤ relativeY then none
      else
        let position : Position :=
          ⟨relativeY.tdiv geometry.cellSizeY, relativeX.tdiv geometry.cellSizeX⟩
        if board.isInside position then some position else none

/-- A mapped click is on the board. -/
theorem isInside_of_pixelToCell {x y : Int} {board : Board} {geometry : BoardGeometry}
    {cell : Position} (mapped : pixelToCell x y board geometry = some cell) :
    board.isInside cell := by
  unfold pixelToCell at mapped
  split at mapped
  · cases mapped
  · dsimp only at mapped
    split at mapped
    · cases mapped
    · split at mapped
      · cases mapped
      · split at mapped
        · next inside =>
            cases mapped
            exact inside
        · cases mapped

/-- A quotient rounded towards zero is the number of whole sizes below a distance. -/
theorem tdiv_eq_iff {distance size quotient : Int} (positive : 0 < size)
    (forward : 0 ≤ distance) :
    distance.tdiv size = quotient ↔
      quotient * size ≤ distance ∧ distance < (quotient + 1) * size := by
  rw [Int.tdiv_eq_ediv_of_nonneg forward]
  constructor
  · rintro rfl
    exact ⟨Int.ediv_mul_le _ positive.ne', Int.lt_ediv_add_one_mul_self _ positive⟩
  · rintro ⟨low, high⟩
    refine le_antisymm ?_ ?_
    · exact Int.lt_add_one_iff.mp (Int.ediv_lt_of_lt_mul positive high)
    · exact Int.le_ediv_of_mul_le positive low

/-- **A point is mapped to a cell exactly when the cell is on the board and its
rectangle covers the point.** -/
theorem pixelToCell_eq_some_iff {x y : Int} {board : Board} {geometry : BoardGeometry}
    (wide : 0 < geometry.cellSizeX) (high : 0 < geometry.cellSizeY) (cell : Position) :
    pixelToCell x y board geometry = some cell ↔
      board.isInside cell ∧ geometry.Covers cell x y := by
  have sized : ¬ (geometry.cellSizeX ≤ 0 ∨ geometry.cellSizeY ≤ 0) := by omega
  unfold pixelToCell
  rw [if_neg sized]
  dsimp only
  constructor
  · intro mapped
    have whole : pixelToCell x y board geometry = some cell := by
      unfold pixelToCell
      rw [if_neg sized]
      exact mapped
    have inside : board.isInside cell := isInside_of_pixelToCell whole
    refine ⟨inside, ?_⟩
    split at mapped
    · cases mapped
    · next ahead =>
        obtain ⟨right, down⟩ := not_or.mp ahead
        split at mapped
        · cases mapped
        · split at mapped
          · cases mapped
            have column := (tdiv_eq_iff wide (not_lt.mp right)).mp rfl
            have row := (tdiv_eq_iff high (not_lt.mp down)).mp rfl
            exact ⟨⟨by linarith [column.1], by linarith [column.2]⟩,
              by linarith [row.1], by linarith [row.2]⟩
          · cases mapped
  · rintro ⟨inside, ⟨left, right⟩, top, bottom⟩
    obtain ⟨rowLow, colLow, rowHigh, colHigh⟩ := inside
    have across : 0 ≤ cell.col * geometry.cellSizeX := mul_nonneg colLow wide.le
    have along : 0 ≤ cell.row * geometry.cellSizeY := mul_nonneg rowLow high.le
    have width : (cell.col + 1) * geometry.cellSizeX ≤ board.width * geometry.cellSizeX :=
      mul_le_mul_of_nonneg_right (by omega) wide.le
    have height : (cell.row + 1) * geometry.cellSizeY ≤ board.height * geometry.cellSizeY :=
      mul_le_mul_of_nonneg_right (by omega) high.le
    have forward : ¬ (x - geometry.boardStartX < 0 ∨ y - geometry.boardStartY < 0) := by omega
    have within : ¬ (board.width * geometry.cellSizeX ≤ x - geometry.boardStartX ∨
        board.height * geometry.cellSizeY ≤ y - geometry.boardStartY) := by omega
    have column : (x - geometry.boardStartX).tdiv geometry.cellSizeX = cell.col :=
      (tdiv_eq_iff wide (by omega)).mpr ⟨by omega, by omega⟩
    have row : (y - geometry.boardStartY).tdiv geometry.cellSizeY = cell.row :=
      (tdiv_eq_iff high (by omega)).mpr ⟨by omega, by omega⟩
    rw [if_neg forward, if_neg within, row, column]
    exact if_pos ⟨rowLow, colLow, rowHigh, colHigh⟩

end BoardMapper

end KungFuChess

import KungFuChess.Core.Board

/-!
# Piece rules and move validation

The movement rules of `PieceRules` and the validation of `RuleEngine`. Both look
at the logical board only: a piece in motion still blocks and is still attacked
on the cell the grid holds it at.

The path walk of the source runs until it meets the destination. Its callers
pass cells on one rank, file or diagonal, where it meets it after as many steps
as the two cells are apart, so that number of steps is the fuel of the walk
here.
-/

set_option autoImplicit false

namespace KungFuChess

/-! ## Piece rules -/

namespace PieceRules

/-- The unit step from one coordinate towards another. -/
def stepToward (source destination : Int) : Int :=
  if destination > source then 1 else if destination < source then -1 else 0

/-- The loop of `isPathClear`, with the position it has reached. -/
def walkPath (board : Board) (destination : Position) (rowStep colStep : Int) :
    Nat → Position → Bool
  | 0, _ => false
  | fuel + 1, current =>
      if current = destination then true
      else if ¬ board.isEmpty current then false
      else walkPath board destination rowStep colStep fuel
        ⟨current.row + rowStep, current.col + colStep⟩

/-- Whether every cell strictly between the two is empty. -/
def isPathClear (board : Board) (source destination : Position) : Bool :=
  let rowStep := stepToward source.row destination.row
  let colStep := stepToward source.col destination.col
  walkPath board destination rowStep colStep (source.distance destination)
    ⟨source.row + rowStep, source.col + colStep⟩

def canMoveLikeRook (board : Board) (source destination : Position) : Bool :=
  if source = destination then false
  else if source.row ≠ destination.row ∧ source.col ≠ destination.col then false
  else isPathClear board source destination

def canMoveLikeBishop (board : Board) (source destination : Position) : Bool :=
  if source = destination then false
  else if (destination.row - source.row).natAbs ≠ (destination.col - source.col).natAbs then false
  else isPathClear board source destination

def canMoveLikeQueen (board : Board) (source destination : Position) : Bool :=
  canMoveLikeRook board source destination || canMoveLikeBishop board source destination

def canMoveLikeKnight (source destination : Position) : Bool :=
  if source = destination then false
  else
    let rowDiff := (destination.row - source.row).natAbs
    let colDiff := (destination.col - source.col).natAbs
    (rowDiff = 2 ∧ colDiff = 1) ∨ (rowDiff = 1 ∧ colDiff = 2)

def canMoveLikeKing (source destination : Position) : Bool :=
  if source = destination then false
  else
    let rowDiff := (destination.row - source.row).natAbs
    let colDiff := (destination.col - source.col).natAbs
    rowDiff ≤ 1 ∧ colDiff ≤ 1

def canMoveLikePawn (board : Board) (pieces : Heap) (source destination : Position)
    (color : PieceColor) : Bool :=
  if source = destination then false
  else
    let direction : Int := if color = .white then -1 else 1
    let startRow : Int := if color = .white then board.height - 2 else 1
    let rowDiff := destination.row - source.row
    let colDiff := destination.col - source.col
    -- a single forward step into an empty cell
    if rowDiff = direction ∧ colDiff = 0 then board.isEmpty destination
    -- a clear double step from the starting rank
    else if source.row = startRow ∧ rowDiff = 2 * direction ∧ colDiff = 0 then
      board.isEmpty ⟨source.row + direction, source.col⟩ && board.isEmpty destination
    -- a diagonal step only when capturing an opponent
    else if rowDiff = direction ∧ colDiff.natAbs = 1 then
      match board.getPieceAt destination with
      | none => false
      | some targetPiece => (pieces.get targetPiece).color ≠ color
    else false

end PieceRules

/-! ## Move validation -/

namespace RuleEngine

open PieceRules

def isLegalByPieceKind (board : Board) (pieces : Heap) (source destination : Position) : Bool :=
  match board.getPieceAt source with
  | none => false
  | some piece =>
      match (pieces.get piece).kind with
      | .rook => canMoveLikeRook board source destination
      | .bishop => canMoveLikeBishop board source destination
      | .queen => canMoveLikeQueen board source destination
      | .knight => canMoveLikeKnight source destination
      | .king => canMoveLikeKing source destination
      | .pawn => canMoveLikePawn board pieces source destination (pieces.get piece).color

def validateMove (board : Board) (pieces : Heap) (source destination : Position) :
    MoveValidation :=
  if ¬ board.isInside source ∨ ¬ board.isInside destination then
    ⟨false, Reasons.outsideBoard⟩
  else
    match board.getPieceAt source with
    | none => ⟨false, Reasons.emptySource⟩
    | some sourcePiece =>
        if ∃ destinationPiece ∈ board.getPieceAt destination,
            (pieces.get destinationPiece).color = (pieces.get sourcePiece).color then
          ⟨false, Reasons.friendlyDestination⟩
        else if ¬ isLegalByPieceKind board pieces source destination then
          ⟨false, Reasons.illegalPieceMove⟩
        else ⟨true, Reasons.ok⟩

end RuleEngine

end KungFuChess

import KungFuChess.Core.Pieces
import Mathlib.Data.List.Basic
import Mathlib.Logic.Function.Basic

/-!
# The board grid and the layouts a game starts from

The grid holds, for each cell inside its bounds, at most one pointer. Every
write outside the bounds is dropped and every read there finds nothing, as in
the source, so the single equation `getPieceAt_setPieceAt` says all that later
proofs use about a write.

A layout is a board together with the pieces its cells point to. The board
parser and the server's initial board build one by placing freshly made pieces;
the structure records what that construction guarantees, so that no layout with
a shared or a dangling piece can be built.
-/

set_option autoImplicit false

namespace KungFuChess

/-! ## The grid -/

structure Board where
  height : Int
  width : Int
  cells : Position → Option PieceId

namespace Board

/-- `Board(height, width)`: every cell empty. -/
def empty (height width : Int) : Board := ⟨height, width, fun _ => none⟩

def isInside (board : Board) (position : Position) : Prop :=
  0 ≤ position.row ∧ 0 ≤ position.col ∧ position.row < board.height ∧ position.col < board.width

instance (board : Board) (position : Position) : Decidable (board.isInside position) :=
  inferInstanceAs (Decidable (_ ∧ _ ∧ _ ∧ _))

def getPieceAt (board : Board) (position : Position) : Option PieceId :=
  if board.isInside position then board.cells position else none

def isEmpty (board : Board) (position : Position) : Bool :=
  board.getPieceAt position = none

def setPieceAt (board : Board) (position : Position) (piece : Option PieceId) : Board :=
  if board.isInside position then
    { board with cells := Function.update board.cells position piece }
  else board

def removePiece (board : Board) (position : Position) : Board :=
  board.setPieceAt position none

/-- Place a piece on an empty cell; the flag tells whether it was placed. -/
def placePiece (board : Board) (position : Position) (piece : PieceId) : Bool × Board :=
  if ¬ board.isInside position then (false, board)
  else if ¬ board.isEmpty position then (false, board)
  else (true, board.setPieceAt position (some piece))

/-- The cells in the order of the source's row and column loops. -/
def positions (board : Board) : List Position :=
  (List.range board.height.toNat).flatMap fun row : Nat =>
    (List.range board.width.toNat).map fun col : Nat => ⟨(row : Int), (col : Int)⟩

theorem mem_positions {board : Board} {position : Position} :
    position ∈ board.positions ↔ board.isInside position := by
  obtain ⟨row, col⟩ := position
  simp only [positions, List.mem_flatMap, List.mem_map, List.mem_range, isInside,
    Position.mk.injEq]
  constructor
  · rintro ⟨r, hr, c, hc, rfl, rfl⟩
    omega
  · rintro ⟨hr, hc, hrow, hcol⟩
    exact ⟨row.toNat, by omega, col.toNat, by omega, by omega, by omega⟩

@[simp] theorem setPieceAt_height (board : Board) (position : Position) (piece : Option PieceId) :
    (board.setPieceAt position piece).height = board.height := by
  unfold setPieceAt
  split <;> rfl

@[simp] theorem setPieceAt_width (board : Board) (position : Position) (piece : Option PieceId) :
    (board.setPieceAt position piece).width = board.width := by
  unfold setPieceAt
  split <;> rfl

@[simp] theorem isInside_setPieceAt (board : Board) (position cell : Position)
    (piece : Option PieceId) :
    (board.setPieceAt position piece).isInside cell ↔ board.isInside cell := by
  simp only [isInside, setPieceAt_height, setPieceAt_width]

/-- **Reading after a write.** -/
theorem getPieceAt_setPieceAt (board : Board) (position cell : Position)
    (piece : Option PieceId) :
    (board.setPieceAt position piece).getPieceAt cell =
      if cell = position ∧ board.isInside position then piece else board.getPieceAt cell := by
  simp only [getPieceAt, isInside_setPieceAt]
  unfold setPieceAt
  by_cases inside : board.isInside position
  · rw [if_pos inside]
    by_cases same : cell = position
    · subst same
      simp only [if_true, and_self, inside, Function.update_self]
    · simp only [same, false_and, if_false, Function.update_of_ne same]
  · simp only [inside, and_false, if_false]

theorem isInside_of_getPieceAt {board : Board} {position : Position} {piece : PieceId}
    (found : board.getPieceAt position = some piece) : board.isInside position := by
  by_contra outside
  rw [getPieceAt, if_neg outside] at found
  cases found

@[simp] theorem getPieceAt_empty (height width : Int) (position : Position) :
    (empty height width).getPieceAt position = none := by
  unfold getPieceAt empty
  split <;> rfl

theorem getPieceAt_removePiece (board : Board) (position cell : Position) :
    (board.removePiece position).getPieceAt cell =
      if cell = position then none else board.getPieceAt cell := by
  rw [removePiece, getPieceAt_setPieceAt]
  by_cases same : cell = position
  · subst same
    by_cases inside : board.isInside cell
    · simp only [inside, and_self, if_true]
    · simp only [inside, and_false, if_false, if_true, getPieceAt]
  · simp only [same, false_and, if_false]

@[simp] theorem isInside_removePiece (board : Board) (position cell : Position) :
    (board.removePiece position).isInside cell ↔ board.isInside cell :=
  isInside_setPieceAt board position cell none

/-! ### Finding, taking off and committing one piece -/

/-- The first cell, in row-major order, that holds the piece; the default
position when none does. -/
def logicalCellOf (board : Board) (piece : PieceId) : Position :=
  (board.positions.find? fun cell => board.getPieceAt cell = some piece).getD {}

/-- Take the piece off the first cell that holds it. -/
def takeOff (board : Board) (piece : PieceId) : Board :=
  let cell := board.logicalCellOf piece
  if board.isInside cell then board.removePiece cell else board

/-- Put the piece on `destination`, and take it off `source` when it is there. A
destination outside the board changes nothing. -/
def commit (board : Board) (piece : PieceId) (source destination : Position) : Board :=
  if ¬ board.isInside destination then board
  else
    let cleared := if board.getPieceAt source = some piece then board.removePiece source else board
    cleared.setPieceAt destination (some piece)

/-- No piece stands on two cells. -/
def OneCell (board : Board) : Prop :=
  ∀ {first second piece}, board.getPieceAt first = some piece →
    board.getPieceAt second = some piece → first = second

theorem logicalCellOf_eq {board : Board} (oneCell : board.OneCell) {piece : PieceId}
    {cell : Position} (found : board.getPieceAt cell = some piece) :
    board.logicalCellOf piece = cell := by
  unfold logicalCellOf
  cases search : board.positions.find? fun cell => board.getPieceAt cell = some piece with
  | none =>
      have missed := List.find?_eq_none.mp search cell
        (mem_positions.mpr (isInside_of_getPieceAt found))
      simp only [found, decide_true, not_true_eq_false] at missed
  | some first =>
      have here : board.getPieceAt first = some piece := by
        simpa using List.find?_some search
      exact oneCell here found

/-- On a board without doubled pieces, taking a piece off removes it from every
cell and leaves every other piece where it is. -/
theorem getPieceAt_takeOff {board : Board} (oneCell : board.OneCell) (piece : PieceId)
    (cell : Position) :
    (board.takeOff piece).getPieceAt cell =
      if board.getPieceAt cell = some piece then none else board.getPieceAt cell := by
  unfold takeOff
  by_cases placed : ∃ home, board.getPieceAt home = some piece
  · obtain ⟨home, found⟩ := placed
    simp only [logicalCellOf_eq oneCell found, isInside_of_getPieceAt found, if_true,
      getPieceAt_removePiece]
    by_cases same : cell = home
    · subst same
      simp only [found, if_true]
    · have elsewhere : board.getPieceAt cell ≠ some piece := fun here =>
        same (oneCell here found)
      simp only [same, elsewhere, if_false]
  · have absent : board.getPieceAt cell ≠ some piece := fun here => placed ⟨cell, here⟩
    have outside : ¬ board.isInside (board.logicalCellOf piece) := by
      have search : (board.positions.find? fun cell => board.getPieceAt cell = some piece) =
          none := by
        rw [List.find?_eq_none]
        intro first _ found
        exact placed ⟨first, by simpa using found⟩
      simp only [logicalCellOf, search, Option.getD_none, isInside]
      omega
    simp only [outside, absent, if_false]

/-- A piece that stands at most on `source` stands exactly on `destination` after
the commit; the piece it found there is gone, and every other cell is as before. -/
theorem getPieceAt_commit {board : Board} {piece : PieceId} {source destination : Position}
    (inside : board.isInside destination)
    (atSource : ∀ cell, board.getPieceAt cell = some piece → cell = source) (cell : Position) :
    (board.commit piece source destination).getPieceAt cell =
      if cell = destination then some piece
      else if board.getPieceAt cell = some piece then none
      else board.getPieceAt cell := by
  have insideCleared : (if board.getPieceAt source = some piece then board.removePiece source
      else board).isInside destination := by
    split
    · exact (isInside_removePiece board source destination).mpr inside
    · exact inside
  simp only [commit, inside, not_true_eq_false, if_false, getPieceAt_setPieceAt, insideCleared,
    and_true]
  by_cases arrived : cell = destination
  · simp only [arrived, if_true]
  · simp only [arrived, if_false]
    by_cases held : board.getPieceAt cell = some piece
    · have same := atSource cell held
      subst same
      simp only [held, if_true, getPieceAt_removePiece]
    · simp only [held, if_false]
      by_cases home : board.getPieceAt source = some piece
      · have distinct : cell ≠ source := fun same => held (same ▸ home)
        simp only [home, if_true, getPieceAt_removePiece, distinct, if_false]
      · simp only [home, if_false]

@[simp] theorem commit_height (board : Board) (piece : PieceId) (source destination : Position) :
    (board.commit piece source destination).height = board.height := by
  simp only [commit]
  split
  · rfl
  · split
    · simp only [setPieceAt_height, removePiece]
    · simp only [setPieceAt_height]

@[simp] theorem takeOff_height (board : Board) (piece : PieceId) :
    (board.takeOff piece).height = board.height := by
  simp only [takeOff]
  split
  · simp only [removePiece, setPieceAt_height]
  · rfl

theorem isInside_takeOff (board : Board) (piece : PieceId) (cell : Position) :
    (board.takeOff piece).isInside cell ↔ board.isInside cell := by
  simp only [takeOff]
  split
  · exact isInside_removePiece _ _ _
  · rfl

theorem isInside_commit (board : Board) (piece : PieceId) (source destination cell : Position) :
    (board.commit piece source destination).isInside cell ↔ board.isInside cell := by
  simp only [commit]
  split
  · rfl
  · rw [isInside_setPieceAt]
    split
    · exact isInside_removePiece _ _ _
    · rfl

end Board

/-! ## Layouts -/

/-- A board and the pieces its cells point to, as a board construction leaves
them: the pieces made so far are `1, …, nextPieceId - 1`, all idle, and no piece
is on two cells. -/
structure Layout where
  board : Board
  pieces : Heap
  nextPieceId : Nat
  made : ∀ {cell piece}, board.getPieceAt cell = some piece → piece < nextPieceId
  oneCell : board.OneCell
  ids : ∀ piece, (pieces.get piece).id = piece
  idle : ∀ piece, (pieces.get piece).state = .idle

namespace Layout

/-- The value of the heap at a pointer no piece was made for. -/
def unmade : Heap := ⟨fun piece => { id := piece, color := .white, kind := .pawn }⟩

/-- An empty grid before any piece is made. -/
def empty (height width : Int) : Layout where
  board := Board.empty height width
  pieces := unmade
  nextPieceId := 1
  made := fun found => by simp only [Board.getPieceAt_empty, reduceCtorEq] at found
  oneCell := fun found => by simp only [Board.getPieceAt_empty, reduceCtorEq] at found
  ids := fun _ => rfl
  idle := fun _ => rfl

theorem getPieceAt_placePiece {board : Board} {position cell : Position} {piece other : PieceId}
    (found : (board.placePiece position piece).2.getPieceAt cell = some other) :
    board.getPieceAt cell = some other ∨ (cell = position ∧ other = piece) := by
  unfold Board.placePiece at found
  split at found
  · exact .inl found
  · split at found
    · exact .inl found
    · rw [Board.getPieceAt_setPieceAt] at found
      split at found
      · next written => exact .inr ⟨written.1, (Option.some.inj found).symm⟩
      · exact .inl found

/-- Make the next piece and place it. -/
def placeNew (layout : Layout) (position : Position) (color : PieceColor) (kind : PieceKind) :
    Layout where
  board := (layout.board.placePiece position layout.nextPieceId).2
  pieces := layout.pieces.set layout.nextPieceId
    { id := layout.nextPieceId, color := color, kind := kind }
  nextPieceId := layout.nextPieceId + 1
  made := fun found => by
    rcases getPieceAt_placePiece found with before | ⟨_, rfl⟩
    · exact Nat.lt_succ_of_lt (layout.made before)
    · exact Nat.lt_succ_self _
  oneCell := fun first second => by
    rcases getPieceAt_placePiece first with before | ⟨rfl, rfl⟩
    · rcases getPieceAt_placePiece second with again | ⟨_, rfl⟩
      · exact layout.oneCell before again
      · exact absurd (layout.made before) (Nat.lt_irrefl _)
    · rcases getPieceAt_placePiece second with again | ⟨rfl, _⟩
      · exact absurd (layout.made again) (Nat.lt_irrefl _)
      · rfl
  ids := fun piece => by
    rw [Heap.get_set]
    split
    · next same => exact same.symm
    · exact layout.ids piece
  idle := fun piece => by
    rw [Heap.get_set]
    split
    · rfl
    · exact layout.idle piece

/-- The pieces a layout puts on its board. -/
def Holds (layout : Layout) (piece : PieceId) : Prop :=
  ∃ cell, layout.board.getPieceAt cell = some piece

end Layout

/-! ## The standard chess board -/

/-- The back rank, from the first column to the last. -/
def backRank : List PieceKind :=
  [.rook, .knight, .bishop, .queen, .king, .bishop, .knight, .rook]

/-- Place one rank of pieces, column by column. -/
def Layout.placeRank (layout : Layout) (row : Int) (color : PieceColor)
    (kinds : List PieceKind) : Layout :=
  kinds.zipIdx.foldl (fun built entry => built.placeNew ⟨row, entry.2⟩ color entry.1) layout

/-- `GameServer::createInitialBoard`. -/
def createInitialBoard : Layout :=
  ((((Layout.empty 8 8).placeRank 0 .black backRank).placeRank 1 .black
    (List.replicate 8 .pawn)).placeRank 6 .white (List.replicate 8 .pawn)).placeRank 7 .white
      backRank

end KungFuChess

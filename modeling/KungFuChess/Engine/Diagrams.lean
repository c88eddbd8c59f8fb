import KungFuChess.Engine.Histories
import KungFuChess.Engine.Scoring

/-!
# Moves of classical chess

A diagram is a position of classical chess, and `Diagram.move` is one move of it:
a man leaves its cell and replaces what stands on another, a pawn on its last rank
as a queen. `GameEngine.Played` says of a later engine that exactly one such move
has been played since an earlier one, with all that the engine books of it.
-/

set_option autoImplicit false

namespace KungFuChess

/-! ## Classical chess -/

/-- A man on a chess board. -/
structure Man where
  color : PieceColor
  kind : PieceKind
  deriving DecidableEq, Repr

/-- A position of classical chess. -/
@[ext] structure Diagram where
  height : Int
  man : Position → Option Man

namespace Diagram

/-- The last rank of a colour. -/
def lastRow (diagram : Diagram) : PieceColor → Int
  | .white => 0
  | .black => diagram.height - 1

/-- A pawn becomes a queen on its last rank. -/
def promoted (diagram : Diagram) (man : Man) (cell : Position) : Man :=
  if man.kind = .pawn ∧ cell.row = diagram.lastRow man.color then { man with kind := .queen }
  else man

/-- **A move of classical chess**: a man leaves its cell and replaces what stands on another. -/
def move (diagram : Diagram) (source destination : Position) : Diagram where
  height := diagram.height
  man := fun cell =>
    if cell = destination then
      (diagram.man source).map fun man => diagram.promoted man destination
    else if cell = source then none
    else diagram.man cell

end Diagram

namespace GameEngine

/-- The position the grid shows. -/
def diagram (engine : GameEngine) : Diagram where
  height := engine.board.height
  man := fun cell =>
    (engine.board.getPieceAt cell).map fun piece => ⟨engine.colorOf piece, engine.kindOf piece⟩

/-- What a move onto a cell is worth to a colour. -/
def prize (engine : GameEngine) (piece : PieceId) (destination : Position) (color : PieceColor) :
    Int :=
  match engine.board.getPieceAt destination with
  | none => 0
  | some target =>
      if engine.colorOf piece = color then getPieceValue (engine.kindOf target) else 0

/-- **A move has been played**: what a later engine shows, in terms of an earlier one. -/
structure Played (engine result : GameEngine) (piece : PieceId) (source destination : Position)
    (finishTimeMs : Int) : Prop where
  height : result.board.height = engine.board.height
  grid : ∀ cell, result.board.getPieceAt cell =
    if cell = destination then some piece
    else if cell = source then none
    else engine.board.getPieceAt cell
  mover : result.pieces.get piece =
    Table.stopped (engine.promotes piece destination) source destination finishTimeMs
      ((engine.pieces.get piece).markAsMoved.setState .moving)
  taken : ∀ target, engine.board.getPieceAt destination = some target →
    engine.colorOf target = (engine.colorOf piece).opposite ∧
      result.pieces.get target = (engine.pieces.get target).setState .captured
  others : ∀ other, other ≠ piece → engine.board.getPieceAt destination ≠ some other →
    result.pieces.get other = engine.pieces.get other
  scores : ∀ color,
    result.scoreOf color = engine.scoreOf color + engine.prize piece destination color
  histories : ∀ color, result.moveHistory color = engine.moveHistory color ++
    if engine.colorOf piece = color then
      [engine.stopEntry piece source destination finishTimeMs
        (engine.board.getPieceAt destination).isSome]
    else []
  ends : result.gameOver = true ↔
    ∃ target, engine.board.getPieceAt destination = some target ∧ engine.kindOf target = .king
  motions : result.realTime.activeMotions = []
  jumps : result.realTime.activeJumps = []

/-- The clock alone changes nothing that a played move shows. -/
theorem Played.later {engine result : GameEngine} {piece : PieceId}
    {source destination : Position} {finishTimeMs : Int}
    (played : engine.Played result piece source destination finishTimeMs) (now : Int) :
    engine.Played { result with realTime := { result.realTime with currentTimeMs := now } } piece
      source destination finishTimeMs where
  height := played.height
  grid := played.grid
  mover := played.mover
  taken := played.taken
  others := played.others
  scores := fun color => Eq.trans (by cases color <;> rfl) (played.scores color)
  histories := fun color => Eq.trans (by cases color <;> rfl) (played.histories color)
  ends := played.ends
  motions := played.motions
  jumps := played.jumps

theorem promotes_iff (engine : GameEngine) (piece : PieceId) (cell : Position) :
    engine.promotes piece cell = true ↔ engine.kindOf piece = .pawn ∧
      cell.row = engine.diagram.lastRow (engine.colorOf piece) := by
  simp only [promotes, Bool.and_eq_true, decide_eq_true_eq, Bool.or_eq_true]
  refine and_congr_right fun _ => ?_
  cases engine.colorOf piece with
  | white => simp only [true_and, reduceCtorEq, false_and, or_false, Diagram.lastRow]
  | black => simp only [true_and, reduceCtorEq, false_and, false_or, Diagram.lastRow, diagram]

/-- The man that a played move leaves on its destination. -/
theorem Played.man {engine result : GameEngine} {piece : PieceId}
    {source destination : Position} {finishTimeMs : Int}
    (played : engine.Played result piece source destination finishTimeMs) :
    (⟨result.colorOf piece, result.kindOf piece⟩ : Man) =
      engine.diagram.promoted ⟨engine.colorOf piece, engine.kindOf piece⟩ destination := by
  have promotes := engine.promotes_iff piece destination
  simp only [Diagram.promoted, ← promotes]
  rw [colorOf, kindOf, played.mover]
  unfold Table.stopped
  split
  · rfl
  · rfl

/-- **The position of a played move** is the one that classical chess reaches. -/
theorem Played.diagram_move {engine result : GameEngine} {piece : PieceId}
    {source destination : Position} {finishTimeMs : Int}
    (played : engine.Played result piece source destination finishTimeMs)
    (oneCell : engine.board.OneCell) (here : engine.board.getPieceAt source = some piece) :
    result.diagram = engine.diagram.move source destination := by
  refine Diagram.ext played.height (funext fun cell => ?_)
  simp only [diagram, Diagram.move, played.grid, here, Option.map_some]
  split
  · exact congrArg some played.man
  · split
    · rfl
    · next aside away =>
        cases there : engine.board.getPieceAt cell with
        | none => rfl
        | some other =>
            have apart : other ≠ piece := fun same => away (oneCell there (same ▸ here))
            have kept := played.others other apart fun met => aside (oneCell there met)
            simp only [Option.map_some, colorOf, kindOf, kept]

end GameEngine

end KungFuChess

import KungFuChess.Engine.GameEngine
import KungFuChess.Rules.Sliding

/-!
# Attacked squares

`isSquareAttacked` asks the shapes of the piece rules whether a piece of one
colour could capture on a cell, whatever stands there now. A pawn is asked for its
diagonals only. The move rules give the same answer once a piece to capture stands
on the cell.
-/

set_option autoImplicit false

namespace KungFuChess

open PieceRules

/-! ## A piece to capture -/

section Placed

variable {board : Board} {cell source : Position} {placed : PieceId}

/-- The rules of the other pieces see the same board with the piece to capture on
the destination. -/
theorem canMoveLikeRook_setPieceAt :
    canMoveLikeRook (board.setPieceAt cell (some placed)) source cell =
      canMoveLikeRook board source cell := by
  rw [Bool.eq_iff_iff, canMoveLikeRook_iff, canMoveLikeRook_iff]
  exact slides_setPieceAt (fun _ orthogonal => orthogonal.unit) source cell _

theorem canMoveLikeBishop_setPieceAt :
    canMoveLikeBishop (board.setPieceAt cell (some placed)) source cell =
      canMoveLikeBishop board source cell := by
  rw [Bool.eq_iff_iff, canMoveLikeBishop_iff, canMoveLikeBishop_iff]
  exact slides_setPieceAt (fun _ diagonal => diagonal.unit) source cell _

theorem canMoveLikeQueen_setPieceAt :
    canMoveLikeQueen (board.setPieceAt cell (some placed)) source cell =
      canMoveLikeQueen board source cell := by
  rw [canMoveLikeQueen, canMoveLikeQueen, canMoveLikeRook_setPieceAt, canMoveLikeBishop_setPieceAt]

theorem getPieceAt_placed (inside : board.isInside cell) :
    (board.setPieceAt cell (some placed)).getPieceAt cell = some placed := by
  rw [Board.getPieceAt_setPieceAt, if_pos ⟨rfl, inside⟩]

theorem isEmpty_placed (inside : board.isInside cell) :
    (board.setPieceAt cell (some placed)).isEmpty cell = false := by
  rw [Board.isEmpty, getPieceAt_placed inside, decide_eq_false_iff_not]
  exact Option.some_ne_none placed

/-- With an enemy on its destination, a pawn moves there by one of its diagonals. -/
theorem canMoveLikePawn_setPieceAt {pieces : Heap} {color : PieceColor}
    (inside : board.isInside cell) (enemy : (pieces.get placed).color = color.opposite) :
    canMoveLikePawn (board.setPieceAt cell (some placed)) pieces source cell color =
      decide (cell.row - source.row = (if color = .white then -1 else 1) ∧
        (cell.col - source.col).natAbs = 1) := by
  have other : color.opposite ≠ color := fun same =>
    (PieceColor.opposite_eq_iff color color).mp same rfl
  rw [Bool.eq_iff_iff]
  simp only [canMoveLikePawn, getPieceAt_placed inside, isEmpty_placed inside, enemy,
    Bool.and_false, other, ne_eq, not_false_eq_true, decide_true, decide_eq_true_eq]
  have unit : (if color = .white then (-1 : Int) else 1) ≠ 0 := by
    split <;> decide
  generalize (if color = .white then (-1 : Int) else 1) = direction at unit ⊢
  generalize (if color = .white then _ else (1 : Int)) = startRow
  split
  · next same =>
      subst same
      refine ⟨nofun, fun moves => absurd moves.1 ?_⟩
      rw [sub_self]
      exact Ne.symm unit
  · split
    · next forward =>
        refine ⟨nofun, fun moves => ?_⟩
        rw [forward.2] at moves
        exact absurd moves.2 (by decide)
    · split
      · next double =>
          refine ⟨nofun, fun moves => ?_⟩
          have still : direction = 0 := by omega
          exact absurd still unit
      · split
        · next diagonal => exact ⟨fun _ => diagonal, fun _ => rfl⟩
        · next off => exact ⟨nofun, fun moves => absurd moves off⟩

end Placed

namespace GameEngine

variable {engine : GameEngine} {cell source : Position} {byColor : PieceColor} {placed : PieceId}
  {pieces : Heap}

/-- The last check of `validateMove` decides its answer. -/
theorem isValid_ite (legal : Bool) :
    (if ¬ legal = true then (⟨false, Reasons.illegalPieceMove⟩ : MoveValidation)
      else ⟨true, Reasons.ok⟩).isValid = legal := by
  cases legal <;> rfl

/-- No piece attacks the cell it stands on. -/
theorem attacksFrom_self : engine.attacksFrom source source byColor = false := by
  unfold attacksFrom
  cases engine.board.getPieceAt source with
  | none => rfl
  | some attacker =>
      simp only [canMoveLikeKing, canMoveLikeKnight, canMoveLikeRook, canMoveLikeBishop,
        canMoveLikeQueen, if_true, Bool.or_self, sub_self, Int.natAbs_zero, zero_ne_one, and_false,
        decide_false]
      cases engine.kindOf attacker <;> simp only [ite_self]

/-- **One attacker**: a piece of the colour attacks the cell exactly when the rules
let it capture there. -/
theorem attacksFrom_iff (inside : engine.board.isInside cell) {attacker : PieceId}
    (found : engine.board.getPieceAt source = some attacker)
    (own : engine.colorOf attacker = byColor) (alive : engine.stateOf attacker ≠ .captured)
    (same : pieces.get attacker = engine.pieces.get attacker)
    (enemy : (pieces.get placed).color = byColor.opposite) :
    engine.attacksFrom source cell byColor = true ↔
      (RuleEngine.validateMove (engine.board.setPieceAt cell (some placed)) pieces source
        cell).isValid = true := by
  have sourceInside := Board.isInside_of_getPieceAt found
  have bounds : ¬ (¬ (engine.board.setPieceAt cell (some placed)).isInside source ∨
      ¬ (engine.board.setPieceAt cell (some placed)).isInside cell) := by
    simp only [Board.isInside_setPieceAt, sourceInside, inside, not_true_eq_false, or_self,
      not_false_eq_true]
  rw [RuleEngine.validateMove, if_neg bounds]
  by_cases here : source = cell
  · subst here
    have friendly : ∃ destinationPiece ∈
        (engine.board.setPieceAt source (some placed)).getPieceAt source,
        (pieces.get destinationPiece).color = (pieces.get placed).color :=
      ⟨placed, getPieceAt_placed inside, rfl⟩
    rw [getPieceAt_placed inside] at friendly ⊢
    simp only [if_pos friendly, attacksFrom_self, Bool.false_eq_true]
  · have standing : (engine.board.setPieceAt cell (some placed)).getPieceAt source =
        some attacker := by
      rw [Board.getPieceAt_setPieceAt, if_neg fun both => here both.1, found]
    have color : (pieces.get attacker).color = byColor := (congrArg Piece.color same).trans own
    have hostile : ¬ ∃ destinationPiece ∈
        (engine.board.setPieceAt cell (some placed)).getPieceAt cell,
        (pieces.get destinationPiece).color = (pieces.get attacker).color := by
      rw [getPieceAt_placed inside, color]
      rintro ⟨piece, member, equal⟩
      obtain rfl := Option.some.inj member
      exact (PieceColor.opposite_eq_iff byColor byColor).mp (enemy.symm.trans equal) rfl
    rw [standing]
    dsimp only
    rw [if_neg hostile, RuleEngine.isLegalByPieceKind, standing]
    simp only [attacksFrom, found, own, alive, or_self, ne_eq, not_true_eq_false, if_false, same,
      kindOf, canMoveLikeRook_setPieceAt, canMoveLikeBishop_setPieceAt,
      canMoveLikeQueen_setPieceAt, same ▸ color, canMoveLikePawn_setPieceAt inside enemy]
    cases (engine.pieces.get attacker).kind <;> simp only [isValid_ite]

/-- **Attack detection agrees with the move rules.** While no piece on the board is
captured, a cell of the board is attacked by a colour exactly when a piece of that
colour may move to it once a piece of the other colour is placed there. -/
theorem isSquareAttacked_iff (engine : GameEngine) (cell : Position) (byColor : PieceColor)
    (pieces : Heap) (placed : PieceId) (inside : engine.board.isInside cell)
    (alive : ∀ source piece, engine.board.getPieceAt source = some piece →
      engine.stateOf piece ≠ .captured)
    (same : ∀ source piece, engine.board.getPieceAt source = some piece →
      pieces.get piece = engine.pieces.get piece)
    (enemy : (pieces.get placed).color = byColor.opposite) :
    engine.isSquareAttacked cell byColor = true ↔
      ∃ source piece, engine.board.getPieceAt source = some piece ∧
        engine.colorOf piece = byColor ∧
        (RuleEngine.validateMove (engine.board.setPieceAt cell (some placed)) pieces source
          cell).isValid = true := by
  simp only [isSquareAttacked, List.any_eq_true, Board.mem_positions]
  constructor
  · rintro ⟨source, _, attacks⟩
    cases found : engine.board.getPieceAt source with
    | none =>
        simp only [attacksFrom, found, Bool.false_eq_true] at attacks
    | some attacker =>
        have own : engine.colorOf attacker = byColor := by
          by_contra foreign
          simp only [attacksFrom, found, foreign, ne_eq, not_false_eq_true, true_or, if_true,
            Bool.false_eq_true] at attacks
        exact ⟨source, attacker, found, own, (attacksFrom_iff inside found own
          (alive source attacker found) (same source attacker found) enemy).mp attacks⟩
  · rintro ⟨source, attacker, found, own, moves⟩
    exact ⟨source, Board.isInside_of_getPieceAt found, (attacksFrom_iff inside found own
      (alive source attacker found) (same source attacker found) enemy).mpr moves⟩

/-- In the start position white attacks the cell before its own rook's pawn, as a new black
queen there would find. -/
theorem isSquareAttacked_iff_start :
    ((new createInitialBoard none).board.isInside ⟨5, 0⟩ ∧
      (new createInitialBoard none).isSquareAttacked ⟨5, 0⟩ .white = true) ∧
    ∃ source piece, (new createInitialBoard none).board.getPieceAt source = some piece ∧
      (new createInitialBoard none).colorOf piece = .white ∧
      (RuleEngine.validateMove ((new createInitialBoard none).board.setPieceAt ⟨5, 0⟩ (some 100))
        ((new createInitialBoard none).pieces.set 100
          { id := 100, color := .black, kind := .queen }) source ⟨5, 0⟩).isValid = true := by
  have inside : (new createInitialBoard none).board.isInside ⟨5, 0⟩ := by decide +kernel
  have attacked : (new createInitialBoard none).isSquareAttacked ⟨5, 0⟩ .white = true := by
    decide +kernel
  have few : createInitialBoard.nextPieceId ≤ 100 := by decide +kernel
  refine ⟨⟨inside, attacked⟩, (isSquareAttacked_iff _ ⟨5, 0⟩ .white _ 100 inside
    (fun _ piece _ captured => ?_) (fun source piece found => ?_) ?_).mp attacked⟩
  · have idle : PieceState.idle = .captured := (createInitialBoard.idle piece).symm.trans captured
    cases idle
  · have made : ∀ layout : Layout, (new layout none).board.getPieceAt source = some piece →
        piece < layout.nextPieceId := fun layout placed => layout.made placed
    have before : piece < createInitialBoard.nextPieceId := made createInitialBoard found
    rw [Heap.get_set, if_neg (Nat.ne_of_lt (Nat.lt_of_lt_of_le before few))]
  · rw [Heap.get_set, if_pos rfl]
    rfl

end GameEngine

end KungFuChess

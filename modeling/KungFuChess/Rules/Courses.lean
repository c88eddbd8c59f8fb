import KungFuChess.Rules.Sliding

/-!
# The cells a legal move goes through

A knight goes to its destination in one step. Every other piece goes there on a
line, one king step at a time, and a legal move finds all cells before the
destination empty.
-/

set_option autoImplicit false

namespace KungFuChess

namespace PieceRules

/-- The number of steps of a move. -/
def stepsOf (kind : PieceKind) (source destination : Position) : Nat :=
  if kind = .knight then 1 else source.distance destination

/-- The cell of a move after some of its steps. -/
def cellOf (kind : PieceKind) (source destination : Position) (step : Nat) : Position :=
  if kind = .knight then (if step = 0 then source else destination)
  else source.along (source.toward destination) step

/-- A row of cells from one cell to another, without a return, over empty cells of the board. -/
structure Course (board : Board) (source destination : Position) (steps : Nat)
    (cell : Nat → Position) : Prop where
  moves : 0 < steps
  start : cell 0 = source
  goal : cell steps = destination
  distinct : ∀ first ≤ steps, ∀ second ≤ steps, cell first = cell second → first = second
  inside : ∀ step ≤ steps, board.isInside (cell step)
  free : ∀ step, 0 < step → step < steps → board.getPieceAt (cell step) = none

namespace Course

variable {board : Board} {source destination : Position} {steps : Nat} {cell : Nat → Position}

/-- A course does not return to its start. -/
theorem leaves (course : Course board source destination steps cell) {step : Nat}
    (before : step < steps) : cell (step + 1) ≠ source := by
  intro back
  have same := course.distinct (step + 1) before 0 (Nat.zero_le _) (back.trans course.start.symm)
  omega

/-- A course meets its destination at its end only. -/
theorem arrives (course : Course board source destination steps cell) {step : Nat}
    (before : step < steps) : cell (step + 1) = destination ↔ step + 1 = steps := by
  constructor
  · intro met
    exact course.distinct (step + 1) before steps le_rfl (met.trans course.goal.symm)
  · intro last
    rw [last]
    exact course.goal

/-- What a course meets on a cell it enters stands on its destination. -/
theorem meets (course : Course board source destination steps cell) {step : Nat}
    (before : step < steps) {piece : PieceId}
    (here : board.getPieceAt (cell (step + 1)) = some piece) : step + 1 = steps := by
  by_contra short
  rw [course.free (step + 1) (Nat.succ_pos step) (by omega)] at here
  cases here

end Course

/-! ## Lines -/

/-- Two cells on one line, with every cell between them empty. -/
structure OpenLine (board : Board) (source destination : Position) : Prop where
  distinct : source ≠ destination
  line : source.row = destination.row ∨ source.col = destination.col ∨
    (destination.row - source.row).natAbs = (destination.col - source.col).natAbs
  clear : ∀ step, 0 < step → step < source.distance destination →
    board.isEmpty (source.along (source.toward destination) step) = true

/-- A line leads in one of the directions of a king. -/
theorem OpenLine.unit {board : Board} {source destination : Position}
    (openLine : OpenLine board source destination) : (source.toward destination).Unit := by
  rcases openLine.line with row | col | diagonal
  · exact (Position.orthogonal_toward openLine.distinct (.inl row)).unit
  · exact (Position.orthogonal_toward openLine.distinct (.inr col)).unit
  · exact (Position.diagonal_toward openLine.distinct diagonal).unit

/-- **An open line is a course.** -/
theorem OpenLine.course {board : Board} {source destination : Position}
    (openLine : OpenLine board source destination) (start : board.isInside source)
    (goal : board.isInside destination) :
    Course board source destination (source.distance destination)
      (source.along (source.toward destination)) := by
  have reaches := Position.along_toward openLine.line
  exact
    { moves := Position.distance_pos openLine.distinct
      start := Position.along_zero ..
      goal := reaches
      distinct := fun _ _ _ _ same => Position.along_injective openLine.unit source same
      inside := fun step before =>
        Position.isInside_along openLine.unit start (reaches.symm ▸ goal) before
      free := fun step moved before => of_decide_eq_true (openLine.clear step moved before) }

/-- One direct step is a course. -/
theorem course_direct {board : Board} {source destination : Position}
    (start : board.isInside source) (goal : board.isInside destination)
    (distinct : source ≠ destination) :
    Course board source destination 1 fun step => if step = 0 then source else destination where
  moves := Nat.one_pos
  start := if_pos rfl
  goal := if_neg Nat.one_ne_zero
  distinct := by
    intro first firstBound second secondBound same
    obtain rfl | rfl : first = 0 ∨ first = 1 := by omega
    · obtain rfl | rfl : second = 0 ∨ second = 1 := by omega
      · rfl
      · exact absurd same distinct
    · obtain rfl | rfl : second = 0 ∨ second = 1 := by omega
      · exact absurd same.symm distinct
      · rfl
  inside := by
    intro step _
    split
    · exact start
    · exact goal
  free := fun step moved before => by omega

/-! ## Legal moves -/

/-- A piece slides along an open line. -/
theorem openLine_of_slides {board : Board} {directions : Direction → Prop}
    (units : ∀ direction, directions direction → direction.Unit) {source destination : Position}
    (slides : Slides board directions source destination) :
    OpenLine board source destination := by
  have distinct := slides_distinct units slides
  obtain ⟨steps, moved, direction, among, rfl, clear⟩ := slides
  have unit := units direction among
  obtain ⟨toward, distance⟩ := Position.toward_along unit source moved
  refine ⟨distinct, ?_, ?_⟩
  · obtain ⟨row, col, _⟩ := unit.cases
    simp only [Position.along]
    rcases row with row | row | row <;> rcases col with col | col | col <;>
      simp only [row, col] <;> omega
  · rw [toward, distance]
    exact clear

/-- The king steps along an open line. -/
theorem openLine_of_king {board : Board} {source destination : Position}
    (legal : canMoveLikeKing source destination = true) : OpenLine board source destination := by
  unfold canMoveLikeKing at legal
  split at legal
  · cases legal
  · next distinct =>
      have near := of_decide_eq_true legal
      refine ⟨distinct, by omega, fun step moved before => ?_⟩
      unfold Position.distance at before
      omega

/-- So does the pawn, by one or two cells. -/
theorem openLine_of_pawn {board : Board} {pieces : Heap} {source destination : Position}
    {color : PieceColor} (legal : canMoveLikePawn board pieces source destination color = true) :
    OpenLine board source destination := by
  have unit : (if color = .white then (-1 : Int) else 1).natAbs = 1 := by split <;> rfl
  simp only [canMoveLikePawn] at legal
  generalize (if color = .white then (-1 : Int) else 1) = direction at unit legal
  generalize (if color = .white then board.height - 2 else 1) = startRow at legal
  split at legal
  · cases legal
  · next distinct =>
      split at legal
      · refine ⟨distinct, by omega, fun step moved before => ?_⟩
        unfold Position.distance at before
        omega
      · split at legal
        · next double =>
            refine ⟨distinct, by omega, fun step moved before => ?_⟩
            obtain ⟨first, _⟩ := Bool.and_eq_true_iff.mp legal
            have middle : source.along (source.toward destination) step =
                ⟨source.row + direction, source.col⟩ := by
              unfold Position.distance at before
              obtain rfl : step = 1 := by omega
              simp only [Position.along, Position.toward, stepToward, Position.mk.injEq]
              constructor <;> split <;> (try split) <;> omega
            rw [middle]
            exact first
        · split at legal
          · refine ⟨distinct, by omega, fun step moved before => ?_⟩
            unfold Position.distance at before
            omega
          · cases legal

/-- **A legal move follows a course.** -/
theorem course_of_legal {board : Board} {pieces : Heap} {source destination : Position}
    {piece : PieceId} (here : board.getPieceAt source = some piece)
    (goal : board.isInside destination)
    (legal : RuleEngine.isLegalByPieceKind board pieces source destination = true) :
    Course board source destination (stepsOf (pieces.get piece).kind source destination)
      (cellOf (pieces.get piece).kind source destination) := by
  have start := Board.isInside_of_getPieceAt here
  simp only [RuleEngine.isLegalByPieceKind, here] at legal
  unfold stepsOf cellOf
  cases kind : (pieces.get piece).kind with
  | knight =>
      simp only [kind, canMoveLikeKnight] at legal
      simp only [if_true]
      refine course_direct start goal fun same => ?_
      rw [if_pos same] at legal
      cases legal
  | rook =>
      simp only [kind, canMoveLikeRook_iff] at legal
      exact (openLine_of_slides (fun _ orthogonal => orthogonal.unit) legal).course start goal
  | bishop =>
      simp only [kind, canMoveLikeBishop_iff] at legal
      exact (openLine_of_slides (fun _ diagonal => diagonal.unit) legal).course start goal
  | queen =>
      simp only [kind, canMoveLikeQueen_iff] at legal
      exact (openLine_of_slides (fun _ line => line.elim (·.unit) (·.unit)) legal).course start
        goal
  | king =>
      simp only [kind] at legal
      exact (openLine_of_king legal).course start goal
  | pawn =>
      simp only [kind] at legal
      exact (openLine_of_pawn legal).course start goal

end PieceRules

end KungFuChess

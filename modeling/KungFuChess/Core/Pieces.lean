import Mathlib.Algebra.Order.Ring.Int
import Mathlib.Algebra.Order.Ring.Nat
import Mathlib.Data.Fintype.Basic
import Mathlib.Tactic.Common

/-!
# Positions, pieces and the records of a game

The value types of the shared core: board positions, pieces with their cooldown
clock, the configuration read for a piece, the reasons a request is answered
with, and the entries of a move history.

In the source a piece is a heap object and every store (board cell, motion,
jump, pending castle) holds a shared pointer to it. Here a pointer is a
`PieceId` and the heap is a function from identifiers to pieces, so that two
stores see the same piece exactly when they hold the same identifier.
-/

set_option autoImplicit false

namespace KungFuChess

/-! ## Positions -/

/-- A cell, by row and column. The default position lies outside every board. -/
structure Position where
  row : Int := -1
  col : Int := -1
  deriving DecidableEq, Repr

/-- The number of king steps between two cells. -/
def Position.distance (source destination : Position) : Nat :=
  max (destination.row - source.row).natAbs (destination.col - source.col).natAbs

/-! ## Pieces -/

inductive PieceColor where
  | white
  | black
  deriving DecidableEq, Repr

instance : Fintype PieceColor := ⟨{.white, .black}, fun color => by cases color <;> decide⟩

inductive PieceKind where
  | king
  | queen
  | rook
  | bishop
  | knight
  | pawn
  deriving DecidableEq, Repr

inductive PieceState where
  | idle
  | moving
  | airborne
  | captured
  deriving DecidableEq, Repr

/-- The other side. -/
def PieceColor.opposite : PieceColor → PieceColor
  | .white => .black
  | .black => .white

@[simp] theorem PieceColor.opposite_eq_iff (first second : PieceColor) :
    first.opposite = second ↔ first ≠ second := by
  cases first <;> cases second <;> decide

def Piece.colorFromChar (colorChar : Char) : PieceColor :=
  if colorChar = 'w' then .white else .black

def Piece.kindFromChar (kindChar : Char) : PieceKind :=
  if kindChar = 'K' then .king
  else if kindChar = 'Q' then .queen
  else if kindChar = 'R' then .rook
  else if kindChar = 'B' then .bishop
  else if kindChar = 'N' then .knight
  else .pawn

def Piece.colorToChar : PieceColor → Char
  | .white => 'w'
  | .black => 'b'

def Piece.kindToChar : PieceKind → Char
  | .king => 'K'
  | .queen => 'Q'
  | .rook => 'R'
  | .bishop => 'B'
  | .knight => 'N'
  | .pawn => 'P'

/-- The identity of a piece: the pointer every store holds. -/
abbrev PieceId := Nat

structure Piece where
  id : PieceId
  color : PieceColor
  kind : PieceKind
  state : PieceState := .idle
  cooldownStartedAtMs : Int := 0
  cooldownUntilMs : Int := 0
  totalCooldownMs : Int := 0
  hasMoved : Bool := false
  deriving DecidableEq, Repr

namespace Piece

def setState (piece : Piece) (newState : PieceState) : Piece :=
  { piece with state := newState }

def setKind (piece : Piece) (newKind : PieceKind) : Piece :=
  { piece with kind := newKind }

def markAsMoved (piece : Piece) : Piece :=
  { piece with hasMoved := true }

/-- A negative duration starts an empty cooldown. -/
def startCooldown (piece : Piece) (currentTimeMs durationMs : Int) : Piece :=
  let durationMs := if durationMs < 0 then 0 else durationMs
  { piece with
    cooldownStartedAtMs := currentTimeMs
    totalCooldownMs := durationMs
    cooldownUntilMs := currentTimeMs + durationMs }

/-- Only an idle piece cools down. -/
def isOnCooldown (piece : Piece) (currentTimeMs : Int) : Bool :=
  piece.state = .idle && decide (currentTimeMs < piece.cooldownUntilMs)

def getRemainingCooldownMs (piece : Piece) (currentTimeMs : Int) : Int :=
  if !piece.isOnCooldown currentTimeMs then 0 else piece.cooldownUntilMs - currentTimeMs

def token (piece : Piece) : String :=
  String.ofList [colorToChar piece.color, kindToChar piece.kind]

section Members

variable (piece : Piece) (newState : PieceState) (newKind : PieceKind)
  (currentTimeMs durationMs : Int)

@[simp] theorem setState_state : (piece.setState newState).state = newState := rfl

@[simp] theorem startCooldown_state :
    (piece.startCooldown currentTimeMs durationMs).state = piece.state := rfl

@[simp] theorem setState_token : (piece.setState newState).token = piece.token := rfl

end Members

/-- A member of a piece that the start of an action does not change. -/
structure Steady {α : Type} (member : Piece → α) : Prop where
  setState : ∀ piece newState, member (setState piece newState) = member piece
  markAsMoved : ∀ piece, member (markAsMoved piece) = member piece

/-- A member of a piece that nothing the engine does to a piece changes. Pieces
change their kind only by the promotion of a pawn. -/
structure Lasting {α : Type} (member : Piece → α) : Prop extends Steady member where
  startCooldown : ∀ piece currentTimeMs durationMs,
    member (startCooldown piece currentTimeMs durationMs) = member piece
  promote : ∀ piece, piece.kind = .pawn → member (setKind piece .queen) = member piece

theorem steady_kind : Steady Piece.kind := ⟨fun _ _ => rfl, fun _ => rfl⟩

theorem steady_cooldown : Steady Piece.cooldownUntilMs := ⟨fun _ _ => rfl, fun _ => rfl⟩

theorem lasting_id : Lasting Piece.id where
  setState := fun _ _ => rfl
  startCooldown := fun _ _ _ => rfl
  markAsMoved := fun _ => rfl
  promote := fun _ _ => rfl

theorem lasting_color : Lasting Piece.color where
  setState := fun _ _ => rfl
  startCooldown := fun _ _ _ => rfl
  markAsMoved := fun _ => rfl
  promote := fun _ _ => rfl

/-- Kings stay kings, and no other piece becomes one. -/
theorem lasting_king : Lasting fun piece => decide (piece.kind = .king) where
  setState := fun _ _ => rfl
  startCooldown := fun _ _ _ => rfl
  markAsMoved := fun _ => rfl
  promote := fun piece pawn => by
    simp only [setKind, pawn, reduceCtorEq]

end Piece

/-! ## The heap of pieces -/

/-- What every pointer points to. -/
structure Heap where
  get : PieceId → Piece

namespace Heap

/-- Store a piece behind a pointer. -/
def set (pieces : Heap) (piece : PieceId) (value : Piece) : Heap :=
  ⟨fun other => if other = piece then value else pieces.get other⟩

/-- Apply a member function to the piece behind one pointer. -/
def modify (pieces : Heap) (piece : PieceId) (change : Piece → Piece) : Heap :=
  pieces.set piece (change (pieces.get piece))

theorem get_set (pieces : Heap) (piece other : PieceId) (value : Piece) :
    (pieces.set piece value).get other = if other = piece then value else pieces.get other := rfl

theorem get_modify (pieces : Heap) (piece other : PieceId) (change : Piece → Piece) :
    (pieces.modify piece change).get other =
      if other = piece then change (pieces.get piece) else pieces.get other := rfl

@[simp] theorem get_modify_self (pieces : Heap) (piece : PieceId) (change : Piece → Piece) :
    (pieces.modify piece change).get piece = change (pieces.get piece) := by
  rw [get_modify, if_pos rfl]

@[simp] theorem get_modify_of_ne (pieces : Heap) {piece other : PieceId}
    (change : Piece → Piece) (distinct : other ≠ piece) :
    (pieces.modify piece change).get other = pieces.get other := by
  rw [get_modify, if_neg distinct]

@[ext] theorem ext {first second : Heap}
    (same : ∀ piece, first.get piece = second.get piece) : first = second := by
  cases first
  cases second
  exact congrArg mk (funext same)

@[simp] theorem modify_modify (pieces : Heap) (piece : PieceId) (first second : Piece → Piece) :
    (pieces.modify piece first).modify piece second =
      pieces.modify piece fun value => second (first value) := by
  ext other
  by_cases same : other = piece
  · subst same
    simp only [get_modify_self]
  · simp only [get_modify_of_ne _ _ same]

/-- A change that keeps a member of the changed piece keeps it for all pieces. -/
theorem member_modify {α : Type} (member : Piece → α) (pieces : Heap) {piece : PieceId}
    {change : Piece → Piece} (kept : member (change (pieces.get piece)) = member (pieces.get piece))
    (other : PieceId) :
    member ((pieces.modify piece change).get other) = member (pieces.get other) := by
  rw [get_modify]
  split
  · next same => rw [kept, same]
  · rfl

end Heap

/-! ## Configuration, answers and history -/

/-- The timing values of one piece in one state. -/
structure PieceStateConfig where
  moveTimePerCellMs : Int := 1000
  jumpDurationMs : Int := 1000
  shortCooldownMs : Int := 3000
  deriving DecidableEq, Repr

/-- `PieceConfigReader::load`: what the asset files give for a piece token and a
state. The files are not part of the program, so every development below is over
an arbitrary one. -/
abbrev PieceConfigReader := String → String → PieceStateConfig

/-- The reader of an installation without configuration files. -/
def PieceConfigReader.fallback : PieceConfigReader := fun _ _ => {}

structure MoveValidation where
  isValid : Bool
  reason : String
  deriving DecidableEq, Repr

structure MoveResult where
  isAccepted : Bool
  reason : String
  deriving DecidableEq, Repr

namespace Reasons

def ok : String := "ok"
def outsideBoard : String := "outside_board"
def emptySource : String := "empty_source"
def friendlyDestination : String := "friendly_destination"
def illegalPieceMove : String := "illegal_piece_move"
def gameOver : String := "game_over"
def motionInProgress : String := "motion_in_progress"
def cannotJump : String := "cannot_jump"
def jumpStarted : String := "jump_started"

end Reasons

structure MoveHistoryEntry where
  completedAtMs : Int := 0
  color : PieceColor := .white
  pieceKind : PieceKind := .pawn
  source : Position := {}
  destination : Position := {}
  wasCapture : Bool := false
  wasPromotion : Bool := false
  wasJump : Bool := false
  notationText : String := ""
  deriving DecidableEq, Repr

end KungFuChess

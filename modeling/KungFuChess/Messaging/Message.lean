import KungFuChess.Core.Pieces
import Mathlib.Data.List.DropRight

/-!
# Messages

What the server and its clients send each other: the snapshot of a game, the
message around it and the user names in it. A `std::string` is a string with one
character for each byte.
-/

set_option autoImplicit false

namespace KungFuChess

/-! ## The snapshot -/

structure PieceSnapshot where
  id : PieceId := 0
  token : String := ""
  position : Position := {}
  state : String := "idle"
  hasMoved : Bool := false
  remainingCooldownMs : Int := 0
  totalCooldownMs : Int := 0
  deriving DecidableEq, Repr

structure MotionSnapshot where
  pieceId : PieceId := 0
  source : Position := {}
  destination : Position := {}
  currentCell : Position := {}
  rowStep : Int := 0
  colStep : Int := 0
  directMove : Bool := false
  stepDurationMs : Int := 0
  nextStepTimeMs : Int := 0
  order : Nat := 0
  deriving DecidableEq, Repr

structure JumpSnapshot where
  pieceId : PieceId := 0
  cell : Position := {}
  finishTimeMs : Int := 0
  deriving DecidableEq, Repr

structure MoveHistorySnapshot where
  completedAtMs : Int := 0
  color : String := ""
  pieceKind : String := ""
  source : Position := {}
  destination : Position := {}
  wasCapture : Bool := false
  wasPromotion : Bool := false
  wasJump : Bool := false
  notationText : String := ""
  deriving DecidableEq, Repr

/-- The state of a game as it is sent. -/
structure GameStateSnapshot where
  serverTimeMs : Int := 0
  gameOver : Bool := false
  whiteScore : Int := 0
  blackScore : Int := 0
  whiteUsername : String := ""
  blackUsername : String := ""
  playersReady : Bool := false
  gameplayStartsAtEpochMs : Int := 0
  pieces : List PieceSnapshot := []
  motions : List MotionSnapshot := []
  jumps : List JumpSnapshot := []
  whiteMoveHistory : List MoveHistorySnapshot := []
  blackMoveHistory : List MoveHistorySnapshot := []
  deriving DecidableEq, Repr

/-! ## Messages -/

inductive MessageType where
  | moveRequest
  | jumpRequest
  | moveAccepted
  | moveRejected
  | playerAssigned
  | waitingForOpponent
  | gameStarted
  | gameFull
  | invalidUsername
  | reconnectRequest
  | reconnecting
  | gameClosed
  | gameStateUpdated
  | gameOver
  deriving DecidableEq, Repr

/-- One message; only server responses and updates carry a snapshot. -/
structure Message where
  type : MessageType := .moveRejected
  sequence : Nat := 0
  source : Position := {}
  destination : Position := {}
  accepted : Bool := false
  reason : String := ""
  playerColor : String := ""
  reconnectToken : String := ""
  username : String := ""
  whiteUsername : String := ""
  blackUsername : String := ""
  secondsRemaining : Int := 0
  createdAtMs : Int := 0
  hasSnapshot : Bool := false
  snapshot : GameStateSnapshot := {}
  deriving DecidableEq, Repr

/-! ## User names -/

namespace Username

def maxLength : Nat := 64

/-- `std::isspace` in the C locale. -/
def isSpace (character : Char) : Bool :=
  character = ' ' || (9 ≤ character.toNat && character.toNat ≤ 13)

/-- A name without its leading and trailing white space. -/
def trim (value : String) : String :=
  String.ofList ((value.toList.dropWhile isSpace).rdropWhile isSpace)

/-- A name has to keep between one and sixty-four bytes when it is trimmed. -/
def isValid (value : String) : Bool :=
  !(trim value).isEmpty && (trim value).length ≤ maxLength

/-- Removing trailing white space uncovers no leading white space. -/
theorem dropWhile_rdropWhile {letters : List Char} (start : letters.dropWhile isSpace = letters) :
    (letters.rdropWhile isSpace).dropWhile isSpace = letters.rdropWhile isSpace := by
  have kept := letters.rdropWhile_prefix isSpace
  cases shortened : letters.rdropWhile isSpace with
  | nil => rfl
  | cons head tail =>
      rw [shortened] at kept
      obtain ⟨rest, rfl⟩ := kept
      refine List.dropWhile_cons_of_neg fun space => ?_
      rw [List.cons_append, List.dropWhile_cons_of_pos space] at start
      have dropped := ((tail ++ rest).dropWhile_suffix isSpace).length_le
      rw [start, List.length_cons] at dropped
      exact absurd dropped (Nat.not_succ_le_self _)

@[simp] theorem trim_trim (value : String) : trim (trim value) = trim value := by
  simp only [trim, String.toList_ofList]
  rw [dropWhile_rdropWhile (List.dropWhile_idempotent isSpace _), List.rdropWhile_idempotent]

end Username

end KungFuChess

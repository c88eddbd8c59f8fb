import KungFuChess.Network.Updates
import Mathlib.Algebra.Order.BigOperators.Group.List
import Mathlib.Data.Nat.Log

/-!
# The size of a state update

The length of the text of a state update, as a number of bytes computed from the
snapshot: a constant for the keys and the punctuation, the digits of the numbers and
the widths of the strings. An entry of a history takes at least 171 bytes, and the
histories only grow.
-/

set_option autoImplicit false

namespace KungFuChess

open JsonText Protocol

/-! ## Widths of values -/

/-- The decimal digits of a number, with its sign. -/
def numberWidth (value : Int) : Nat := Nat.log 10 value.natAbs + 1 + if value < 0 then 1 else 0

def booleanWidth (value : Bool) : Nat := if value then 4 else 5

/-- A character with an escape takes two bytes. -/
def characterWidth (character : Char) : Nat :=
  if character ∈ ['\\', '"', '\n', '\r', '\t'] then 2 else 1

/-- A string between its quotes. -/
def stringWidth (value : String) : Nat := (value.toList.map characterWidth).sum + 2

def positionWidth (position : Position) : Nat :=
  15 + numberWidth position.row + numberWidth position.col

/-- The items of an array between its brackets, with commas between them. -/
def arrayWidth (widths : List Nat) : Nat := widths.sum + (widths.length - 1) + 2

def PieceSnapshot.width (piece : PieceSnapshot) : Nat :=
  91 + numberWidth piece.id + stringWidth piece.token + positionWidth piece.position +
    stringWidth piece.state + booleanWidth piece.hasMoved +
    numberWidth piece.remainingCooldownMs + numberWidth piece.totalCooldownMs

def MotionSnapshot.width (motion : MotionSnapshot) : Nat :=
  133 + numberWidth motion.pieceId + positionWidth motion.source +
    positionWidth motion.destination + positionWidth motion.currentCell +
    numberWidth motion.rowStep + numberWidth motion.colStep + booleanWidth motion.directMove +
    numberWidth motion.stepDurationMs + numberWidth motion.nextStepTimeMs +
    numberWidth motion.order

def JumpSnapshot.width (jump : JumpSnapshot) : Nat :=
  36 + numberWidth jump.pieceId + positionWidth jump.cell + numberWidth jump.finishTimeMs

def MoveHistorySnapshot.width (history : MoveHistorySnapshot) : Nat :=
  118 + numberWidth history.completedAtMs + stringWidth history.color +
    stringWidth history.pieceKind + positionWidth history.source +
    positionWidth history.destination + booleanWidth history.wasCapture +
    booleanWidth history.wasPromotion + booleanWidth history.wasJump +
    stringWidth history.notationText

def GameStateSnapshot.width (snapshot : GameStateSnapshot) : Nat :=
  204 + numberWidth snapshot.serverTimeMs + booleanWidth snapshot.gameOver +
    numberWidth snapshot.whiteScore + numberWidth snapshot.blackScore +
    stringWidth snapshot.whiteUsername + stringWidth snapshot.blackUsername +
    booleanWidth snapshot.playersReady + numberWidth snapshot.gameplayStartsAtEpochMs +
    arrayWidth (snapshot.pieces.map PieceSnapshot.width) +
    arrayWidth (snapshot.motions.map MotionSnapshot.width) +
    arrayWidth (snapshot.jumps.map JumpSnapshot.width) +
    arrayWidth (snapshot.whiteMoveHistory.map MoveHistorySnapshot.width) +
    arrayWidth (snapshot.blackMoveHistory.map MoveHistorySnapshot.width)

/-- A message with a snapshot. -/
def Message.width (message : Message) : Nat :=
  223 + (messageTypeToString message.type).toList.length + numberWidth message.sequence +
    positionWidth message.source + positionWidth message.destination +
    booleanWidth message.accepted + stringWidth message.reason +
    stringWidth message.playerColor + stringWidth message.reconnectToken +
    stringWidth message.username + stringWidth message.whiteUsername +
    stringWidth message.blackUsername + numberWidth message.secondsRemaining +
    numberWidth message.createdAtMs + 4 + message.snapshot.width

namespace Protocol

/-! ## Lengths of texts -/

theorem length_number (value : Int) : (number value).length = numberWidth value := by
  have digits : ∀ natural : Nat, (Nat.toDigits 10 natural).length = Nat.log 10 natural + 1 := by
    intro natural
    refine le_antisymm ?_ ?_
    · exact (Nat.length_toDigits_le_iff (by decide) (Nat.succ_pos _)).mpr
        (Nat.lt_pow_succ_log_self (by decide) natural)
    · by_cases oneDigit : Nat.log 10 natural = 0
      · rw [oneDigit]
        exact Nat.length_toDigits_pos
      · by_contra short
        have few := (Nat.length_toDigits_le_iff (by decide) (Nat.pos_of_ne_zero oneDigit)).mp
          (Nat.le_of_lt_succ (not_le.mp short))
        have positive : natural ≠ 0 := by
          rintro rfl
          exact oneDigit (Nat.log_zero_right 10)
        exact absurd few (not_lt.mpr (Nat.pow_log_le_self 10 positive))
  rw [number, numberWidth]
  split <;> simp only [List.length_cons, digits, Nat.add_zero]

theorem length_boolean (value : Bool) : (boolean value).length = booleanWidth value := by
  cases value <;> decide

/-- A character that is written takes its width. -/
theorem length_escapeCharacter {character : Char} {piece : Text}
    (written : escapeCharacter character = .ok piece) :
    piece.length = characterWidth character := by
  rw [characterWidth]
  unfold escapeCharacter at written
  split at written
  case h_6 =>
    next backslash quote newline carriage tab =>
      split at written
      · cases written
      · cases written
        rw [if_neg, List.length_singleton]
        simp only [List.mem_cons, List.not_mem_nil, or_false, not_or]
        exact ⟨backslash, quote, newline, carriage, tab⟩
  all_goals
    cases written
    decide

/-- A string that is written takes its width. -/
theorem length_string {value : String} {text : Text} (written : string value = .ok text) :
    text.length = stringWidth value := by
  obtain ⟨raw, escaped, rfl⟩ := Except.map_eq_ok.mp written
  rw [stringWidth, quoted, List.length_cons, List.length_append, List.length_singleton]
  refine congrArg (· + 2) ?_
  clear written
  generalize value.toList = letters at escaped
  induction letters generalizing raw with
  | nil =>
      cases escaped
      rfl
  | cons character letters ih =>
      obtain ⟨first, head, rest⟩ := Except.bind_eq_ok.mp escaped
      obtain ⟨others, tail, returned⟩ := Except.bind_eq_ok.mp rest
      cases returned
      rw [List.length_append, length_escapeCharacter head, ih others tail, List.map_cons,
        List.sum_cons]

theorem length_array (items : List Text) :
    (array items).length = arrayWidth (items.map List.length) := by
  have others : ∀ items : List Text, (items.flatMap fun item => ',' :: item).length =
      (items.map List.length).sum + items.length := by
    intro items
    induction items with
    | nil => rfl
    | cons item items ih =>
        rw [List.flatMap_cons, List.length_append, ih, List.map_cons, List.sum_cons,
          List.length_cons,
          List.length_cons]
        omega
  rw [array, arrayWidth, List.length_map]
  cases items with
  | nil => rfl
  | cons item items =>
      simp only [separated, List.length_cons, List.length_append, List.length_nil, others,
        List.map_cons, List.sum_cons]
      omega

/-- The length of an object, key by key. -/
theorem length_writePosition (position : Position) :
    (writePosition position).length = positionWidth position := by
  rw [writePosition, length_object (List.cons_ne_nil _ _)]
  simp only [List.map_cons, List.map_nil, List.sum_cons, List.sum_nil, String.reduceToList,
    List.length_cons, List.length_nil, length_number, positionWidth]
  omega

theorem length_writePiece {piece : PieceSnapshot} {text : Text}
    (written : writePiece piece = .ok text) : text.length = piece.width := by
  obtain ⟨token, tokenWritten, rest⟩ := Except.bind_eq_ok.mp written
  obtain ⟨state, stateWritten, returned⟩ := Except.bind_eq_ok.mp rest
  cases returned
  rw [length_object (List.cons_ne_nil _ _)]
  simp only [List.map_cons, List.map_nil, List.sum_cons, List.sum_nil, String.reduceToList,
    List.length_cons, List.length_nil, length_number, length_boolean,
    length_writePosition, length_string tokenWritten, length_string stateWritten,
    PieceSnapshot.width]
  omega

theorem length_writeMotion (motion : MotionSnapshot) :
    (writeMotion motion).length = motion.width := by
  rw [writeMotion, length_object (List.cons_ne_nil _ _)]
  simp only [List.map_cons, List.map_nil, List.sum_cons, List.sum_nil, String.reduceToList,
    List.length_cons, List.length_nil, length_number, length_boolean,
    length_writePosition, MotionSnapshot.width]
  omega

theorem length_writeJump (jump : JumpSnapshot) : (writeJump jump).length = jump.width := by
  rw [writeJump, length_object (List.cons_ne_nil _ _)]
  simp only [List.map_cons, List.map_nil, List.sum_cons, List.sum_nil, String.reduceToList,
    List.length_cons, List.length_nil, length_number, length_writePosition,
    JumpSnapshot.width]
  omega

theorem length_writeHistory {history : MoveHistorySnapshot} {text : Text}
    (written : writeHistory history = .ok text) : text.length = history.width := by
  obtain ⟨color, colorWritten, rest⟩ := Except.bind_eq_ok.mp written
  obtain ⟨pieceKind, kindWritten, rest⟩ := Except.bind_eq_ok.mp rest
  obtain ⟨notationText, textWritten, returned⟩ := Except.bind_eq_ok.mp rest
  cases returned
  rw [length_object (List.cons_ne_nil _ _)]
  simp only [List.map_cons, List.map_nil, List.sum_cons, List.sum_nil, String.reduceToList,
    List.length_cons, List.length_nil, length_number, length_boolean,
    length_writePosition, length_string colorWritten, length_string kindWritten,
    length_string textWritten, MoveHistorySnapshot.width]
  omega

/-- The items of an array that is written item by item. -/
theorem lengths_mapM {Item : Type} {write : Item → Except String Text} {width : Item → Nat}
    (each : ∀ item text, write item = .ok text → text.length = width item) {items : List Item}
    {texts : List Text} (written : items.mapM write = .ok texts) :
    texts.map List.length = items.map width := by
  induction Except.mapM_eq_ok.mp written with
  | nil => rfl
  | cons first _ ih =>
      rw [List.map_cons, List.map_cons, each _ _ first, ih (Except.mapM_eq_ok.mpr ‹_›)]

/-- **The length of a snapshot.** -/
theorem length_writeSnapshot {snapshot : GameStateSnapshot} {text : Text}
    (written : writeSnapshot snapshot = .ok text) : text.length = snapshot.width := by
  obtain ⟨white, whiteWritten, rest⟩ := Except.bind_eq_ok.mp written
  obtain ⟨black, blackWritten, rest⟩ := Except.bind_eq_ok.mp rest
  obtain ⟨pieces, piecesWritten, rest⟩ := Except.bind_eq_ok.mp rest
  obtain ⟨whiteHistory, whiteMoves, rest⟩ := Except.bind_eq_ok.mp rest
  obtain ⟨blackHistory, blackMoves, returned⟩ := Except.bind_eq_ok.mp rest
  cases returned
  have pieceLengths : pieces.map List.length = snapshot.pieces.map PieceSnapshot.width :=
    lengths_mapM (fun _ _ => length_writePiece) piecesWritten
  have motions : (snapshot.motions.map writeMotion).map List.length =
      snapshot.motions.map MotionSnapshot.width := by
    rw [List.map_map]
    exact List.map_congr_left fun motion _ => length_writeMotion motion
  have jumps : (snapshot.jumps.map writeJump).map List.length =
      snapshot.jumps.map JumpSnapshot.width := by
    rw [List.map_map]
    exact List.map_congr_left fun jump _ => length_writeJump jump
  have whiteLengths : whiteHistory.map List.length =
      snapshot.whiteMoveHistory.map MoveHistorySnapshot.width :=
    lengths_mapM (fun _ _ => length_writeHistory) whiteMoves
  have blackLengths : blackHistory.map List.length =
      snapshot.blackMoveHistory.map MoveHistorySnapshot.width :=
    lengths_mapM (fun _ _ => length_writeHistory) blackMoves
  rw [length_object (List.cons_ne_nil _ _)]
  simp only [List.map_cons, List.map_nil, List.sum_cons, List.sum_nil, String.reduceToList,
    List.length_cons, List.length_nil, length_number, length_boolean,
    length_string whiteWritten, length_string blackWritten, length_array, pieceLengths, motions,
    jumps, whiteLengths, blackLengths, GameStateSnapshot.width]
  omega

/-- **The length of a message with a snapshot.** -/
theorem length_serialize {message : Message} {json : Text} (sends : message.hasSnapshot = true)
    (written : serialize message = .ok json) : json.length = message.width := by
  obtain ⟨reason, reasonWritten, rest⟩ := Except.bind_eq_ok.mp written
  obtain ⟨playerColor, colorWritten, rest⟩ := Except.bind_eq_ok.mp rest
  obtain ⟨reconnectToken, tokenWritten, rest⟩ := Except.bind_eq_ok.mp rest
  obtain ⟨username, nameWritten, rest⟩ := Except.bind_eq_ok.mp rest
  obtain ⟨whiteUsername, whiteWritten, rest⟩ := Except.bind_eq_ok.mp rest
  obtain ⟨blackUsername, blackWritten, rest⟩ := Except.bind_eq_ok.mp rest
  obtain ⟨members, sent, returned⟩ := Except.bind_eq_ok.mp rest
  cases returned
  rw [writeSnapshotMember, if_pos sends] at sent
  obtain ⟨text, snapshotWritten, rfl⟩ := Except.map_eq_ok.mp sent
  rw [length_object (List.append_ne_nil_of_left_ne_nil (List.cons_ne_nil _ _) _), List.map_append,
    List.sum_append]
  simp only [List.map_cons, List.map_nil, List.sum_cons, List.sum_nil, String.reduceToList,
    List.length_cons, List.length_nil, length_number, length_boolean,
    length_writePosition, length_string reasonWritten, length_string colorWritten,
    length_string tokenWritten, length_string nameWritten, length_string whiteWritten,
    length_string blackWritten, length_writeSnapshot snapshotWritten, quoted, List.length_append,
    Message.width, version, sends]
  have five : numberWidth 5 = 1 := by decide
  have yes : booleanWidth true = 4 := rfl
  omega

end Protocol

/-! ## Bounds -/

theorem numberWidth_pos (value : Int) : 1 ≤ numberWidth value := by
  rw [numberWidth]
  omega

theorem numberWidth_le {value : Int} {digits : Nat} (notNegative : 0 ≤ value) (some : 0 < digits)
    (small : value < 10 ^ digits) : numberWidth value ≤ digits := by
  have bounded : value.natAbs < 10 ^ digits := by
    rw [← Int.natAbs_of_nonneg notNegative] at small
    exact_mod_cast small
  have log := Nat.log_lt_of_lt_pow' some.ne' bounded
  rw [numberWidth, if_neg (not_lt.mpr notNegative)]
  omega

theorem numberWidth_count {value : Int} (isCount : IsCount value) : numberWidth value ≤ 19 :=
  numberWidth_le isCount.1 (by decide) (isCount.2.trans (by decide))

theorem numberWidth_int {value : Int} (notNegative : 0 ≤ value) (small : value < 2 ^ 31) :
    numberWidth value ≤ 10 :=
  numberWidth_le notNegative (by decide) (small.trans (by decide))

theorem numberWidth_natural {value : Nat} (small : value < 2 ^ 31) : numberWidth value ≤ 10 :=
  numberWidth_int (Int.natCast_nonneg _) (by exact_mod_cast small)

theorem booleanWidth_bounds (value : Bool) : 4 ≤ booleanWidth value ∧ booleanWidth value ≤ 5 := by
  cases value <;> decide

theorem stringWidth_le (value : String) : stringWidth value ≤ 2 * value.toList.length + 2 := by
  have each : ∀ width ∈ value.toList.map characterWidth, width ≤ 2 := by
    intro width member
    obtain ⟨character, _, rfl⟩ := List.mem_map.mp member
    rw [characterWidth]
    split <;> omega
  have total : (value.toList.map characterWidth).sum ≤
      (value.toList.map characterWidth).length * 2 := List.sum_le_card_nsmul _ 2 each
  rw [List.length_map] at total
  rw [stringWidth]
  omega

/-- A cell of the board has one digit for its row and one for its column. -/
theorem positionWidth_board {position : Position} (onBoard : isBoardPosition position) :
    positionWidth position = 17 := by
  obtain ⟨low, high, left, right⟩ := onBoard
  have row : numberWidth position.row ≤ 1 := numberWidth_le low (by decide) (by omega)
  have col : numberWidth position.col ≤ 1 := numberWidth_le left (by decide) (by omega)
  have rowDigits := numberWidth_pos position.row
  have colDigits := numberWidth_pos position.col
  rw [positionWidth]
  omega

theorem PieceSnapshot.WellFormed.width_le {piece : PieceSnapshot} (wellFormed : piece.WellFormed) :
    piece.width ≤ 177 := by
  have id := numberWidth_natural wellFormed.id
  have position := positionWidth_board wellFormed.position
  have moved := booleanWidth_bounds piece.hasMoved
  have total := wellFormed.total
  have part := wellFormed.withinTotal
  have remaining := numberWidth_count ⟨wellFormed.remaining, part.trans_lt total⟩
  have whole := numberWidth_count ⟨wellFormed.remaining.trans part, total⟩
  have token : stringWidth piece.token ≤ 6 := by
    have two : piece.token.toList.length = 2 := by
      have valid := wellFormed.token
      rw [isValidToken] at valid
      split at valid
      · next letters => rw [letters]; rfl
      · cases valid
    have bound := stringWidth_le piece.token
    omega
  have state : stringWidth piece.state ≤ 10 := by
    have valid := wellFormed.state
    simp only [isValidState, Bool.or_eq_true, decide_eq_true_eq] at valid
    obtain ((same | same) | same) | same := valid <;> rw [same] <;> decide
  rw [PieceSnapshot.width]
  omega

theorem MotionSnapshot.WellFormed.width_le {motion : MotionSnapshot}
    (wellFormed : motion.WellFormed) : motion.width ≤ 251 := by
  have id := numberWidth_natural wellFormed.pieceId
  have source := positionWidth_board wellFormed.source
  have destination := positionWidth_board wellFormed.destination
  have currentCell := positionWidth_board wellFormed.currentCell
  have direct := booleanWidth_bounds motion.directMove
  have duration := numberWidth_count wellFormed.stepDuration
  have nextStep := numberWidth_count wellFormed.nextStepTime
  have order := numberWidth_natural wellFormed.order
  have unit : ∀ value : Int, -1 ≤ value → value ≤ 1 → numberWidth value ≤ 2 := by
    intro value low high
    interval_cases value <;> decide
  have row := unit motion.rowStep wellFormed.steps.1 wellFormed.steps.2.1
  have col := unit motion.colStep wellFormed.steps.2.2.1 wellFormed.steps.2.2.2
  rw [MotionSnapshot.width]
  omega

theorem JumpSnapshot.WellFormed.width_le {jump : JumpSnapshot} (wellFormed : jump.WellFormed) :
    jump.width ≤ 82 := by
  have id := numberWidth_natural wellFormed.pieceId
  have cell := positionWidth_board wellFormed.cell
  have finish := numberWidth_count wellFormed.finishTime
  rw [JumpSnapshot.width]
  omega

/-- **An entry of a history** takes between 171 and 208 bytes. -/
theorem MoveHistorySnapshot.WellFormed.width_bounds {history : MoveHistorySnapshot}
    (wellFormed : history.WellFormed) (short : history.notationText.toList.length ≤ 6) :
    171 ≤ history.width ∧ history.width ≤ 208 := by
  have completed := numberWidth_count wellFormed.completedAt
  have digits := numberWidth_pos history.completedAtMs
  have source := positionWidth_board wellFormed.source
  have destination := positionWidth_board wellFormed.destination
  have capture := booleanWidth_bounds history.wasCapture
  have promotion := booleanWidth_bounds history.wasPromotion
  have jump := booleanWidth_bounds history.wasJump
  have text := stringWidth_le history.notationText
  have quotes : 2 ≤ stringWidth history.notationText := Nat.le_add_left _ _
  have color : stringWidth history.color = 3 := by
    have valid := wellFormed.color
    simp only [isValidColor, Bool.or_eq_true, decide_eq_true_eq] at valid
    obtain same | same := valid <;> rw [same] <;> decide
  have kind : 2 ≤ stringWidth history.pieceKind ∧ stringWidth history.pieceKind ≤ 4 := by
    refine ⟨Nat.le_add_left _ _, ?_⟩
    have one : history.pieceKind.toList.length = 1 := by
      have valid := wellFormed.pieceKind
      rw [isValidKind] at valid
      split at valid
      · next letters => rw [letters]; rfl
      · cases valid
    have bound := stringWidth_le history.pieceKind
    omega
  rw [MoveHistorySnapshot.width]
  omega

end KungFuChess

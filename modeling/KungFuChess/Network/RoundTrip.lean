import KungFuChess.Network.Scanning

/-!
# Round trips of the codec

What a well-formed message is, and that it survives writing and reading.
-/

set_option autoImplicit false

namespace KungFuChess

open JsonText Protocol

/-! ## Well-formed records -/

/-- Counts and times the codec can carry: non-negative numbers of a `long long`. -/
def IsCount (value : Int) : Prop := 0 ≤ value ∧ value < 2 ^ 63

instance : DecidablePred IsCount := fun _ => inferInstanceAs (Decidable (_ ∧ _))

theorem IsCount.isLong {value : Int} (isCount : IsCount value) : IsLong value := by
  rw [IsCount] at isCount
  rw [IsLong]
  omega

def IsText (value : String) : Prop := ∀ character ∈ value.toList, Printable character

instance (value : String) : Decidable (IsText value) :=
  inferInstanceAs (Decidable (∀ character ∈ value.toList, Printable character))

structure PieceSnapshot.WellFormed (piece : PieceSnapshot) : Prop where
  id : piece.id < 2 ^ 31
  token : isValidToken piece.token = true
  position : isBoardPosition piece.position
  state : isValidState piece.state = true
  remaining : 0 ≤ piece.remainingCooldownMs
  withinTotal : piece.remainingCooldownMs ≤ piece.totalCooldownMs
  total : piece.totalCooldownMs < 2 ^ 63

structure MotionSnapshot.WellFormed (motion : MotionSnapshot) : Prop where
  pieceId : motion.pieceId < 2 ^ 31
  source : isBoardPosition motion.source
  destination : isBoardPosition motion.destination
  currentCell : isBoardPosition motion.currentCell
  steps : -1 ≤ motion.rowStep ∧ motion.rowStep ≤ 1 ∧ -1 ≤ motion.colStep ∧ motion.colStep ≤ 1
  stepDuration : IsCount motion.stepDurationMs
  nextStepTime : IsCount motion.nextStepTimeMs
  order : motion.order < 2 ^ 31

structure JumpSnapshot.WellFormed (jump : JumpSnapshot) : Prop where
  pieceId : jump.pieceId < 2 ^ 31
  cell : isBoardPosition jump.cell
  finishTime : IsCount jump.finishTimeMs

structure MoveHistorySnapshot.WellFormed (history : MoveHistorySnapshot) : Prop where
  completedAt : IsCount history.completedAtMs
  color : isValidColor history.color = true
  pieceKind : isValidKind history.pieceKind = true
  source : isBoardPosition history.source
  destination : isBoardPosition history.destination
  notationText : IsText history.notationText

structure GameStateSnapshot.WellFormed (snapshot : GameStateSnapshot) : Prop where
  serverTime : IsCount snapshot.serverTimeMs
  whiteScore : 0 ≤ snapshot.whiteScore ∧ snapshot.whiteScore < 2 ^ 31
  blackScore : 0 ≤ snapshot.blackScore ∧ snapshot.blackScore < 2 ^ 31
  whiteUsername : IsText snapshot.whiteUsername
  blackUsername : IsText snapshot.blackUsername
  gameplayStart : IsCount snapshot.gameplayStartsAtEpochMs
  pieces : ∀ piece ∈ snapshot.pieces, piece.WellFormed
  motions : ∀ motion ∈ snapshot.motions, motion.WellFormed
  jumps : ∀ jump ∈ snapshot.jumps, jump.WellFormed
  whiteHistory : ∀ history ∈ snapshot.whiteMoveHistory, history.WellFormed
  blackHistory : ∀ history ∈ snapshot.blackMoveHistory, history.WellFormed

/-- A position of a message: a cell of the board, or the unused position. -/
def IsMessagePosition (position : Position) : Prop :=
  position = ⟨-1, -1⟩ ∨ isBoardPosition position

theorem IsMessagePosition.allowed {position : Position} (valid : IsMessagePosition position) :
    true = true ∧ position.row = -1 ∧ position.col = -1 ∨ isBoardPosition position := by
  obtain rfl | onBoard := valid
  · exact .inl ⟨rfl, rfl, rfl⟩
  · exact .inr onBoard

/-- A message the codec is meant to carry. Its strings have no control characters without an
escape; what is not sent has its default value. -/
structure Message.WellFormed (message : Message) : Prop where
  sequence : message.sequence < 2 ^ 63
  source : IsMessagePosition message.source
  destination : IsMessagePosition message.destination
  reason : IsText message.reason
  playerColor : IsText message.playerColor
  reconnectToken : IsText message.reconnectToken
  username : IsText message.username
  whiteUsername : IsText message.whiteUsername
  blackUsername : IsText message.blackUsername
  secondsRemaining : 0 ≤ message.secondsRemaining ∧ message.secondsRemaining < 2 ^ 31
  createdAt : IsCount message.createdAtMs
  sent : message.hasSnapshot = true → message.snapshot.WellFormed
  notSent : message.hasSnapshot = false → message.snapshot = {}

namespace Protocol

/-! ## Round trips of the records -/

/-- The writer yields an object that the reader turns into the item again. -/
def Carries {Item : Type} (write : Item → Except String Text) (read : Text → Except String Item)
    (item : Item) : Prop :=
  ∃ members, write item = .ok (object members) ∧ CleanMembers members ∧
    read (object members) = .ok item

theorem isInt_of_natural {value : Nat} (small : value < 2 ^ 31) : IsInt value := by
  rw [IsInt]
  omega

/-- The letters of the kinds are printable. -/
theorem printable_kind {letter : Char} (kind : "KQRBNP".toList.contains letter = true) :
    Printable letter := by
  have letters : ∀ letter ∈ "KQRBNP".toList, Printable letter := by decide
  exact letters letter (List.contains_iff_mem.mp kind)

theorem isText_token {token : String} (valid : isValidToken token = true) : IsText token := by
  rw [isValidToken] at valid
  split at valid
  · next color kind letters =>
      obtain ⟨isColor, isKind⟩ := Bool.and_eq_true_iff.mp valid
      have printable : Printable color := by
        rcases Bool.or_eq_true_iff.mp isColor with white | black
        · exact of_decide_eq_true white ▸ by decide
        · exact of_decide_eq_true black ▸ by decide
      rw [IsText, letters]
      exact List.forall_mem_cons.mpr ⟨printable, List.forall_mem_singleton.mpr
        (printable_kind isKind)⟩
  · cases valid

theorem isText_kind {kind : String} (valid : isValidKind kind = true) : IsText kind := by
  rw [isValidKind] at valid
  split at valid
  · next letter letters =>
      rw [IsText, letters]
      exact List.forall_mem_singleton.mpr (printable_kind valid)
  · cases valid

theorem isText_state {state : String} (valid : isValidState state = true) : IsText state := by
  simp only [isValidState, Bool.or_eq_true, decide_eq_true_eq] at valid
  obtain ((rfl | rfl) | rfl) | rfl := valid <;> exact (by decide)

theorem isText_color {color : String} (valid : isValidColor color = true) : IsText color := by
  simp only [isValidColor, Bool.or_eq_true, decide_eq_true_eq] at valid
  obtain rfl | rfl := valid <;> exact (by decide)

theorem Carries.intro {Item : Type} {write : Item → Except String Text}
    {read : Text → Except String Item} {item : Item} {members : List Member}
    (written : write item = .ok (object members)) (clean : CleanMembers members)
    (reads : Proper members → read (object members) = .ok item) : Carries write read item :=
  ⟨members, written, clean, reads clean.proper⟩

theorem carries_piece {piece : PieceSnapshot} (wellFormed : piece.WellFormed) :
    Carries writePiece readPiece piece := by
  obtain ⟨_, tokenWritten, tokenClean, token⟩ := string_spells (isText_token wellFormed.token)
  obtain ⟨_, stateWritten, stateClean, state⟩ := string_spells (isText_state wellFormed.state)
  obtain ⟨id, validToken, position, validState, remaining, withinTotal, total⟩ := wellFormed
  have longTotal : IsLong piece.totalCooldownMs := by
    rw [IsLong]
    omega
  have longRemaining : IsLong piece.remainingCooldownMs := by
    rw [IsLong] at longTotal ⊢
    omega
  refine .intro (by rw [writePiece, tokenWritten, stateWritten]; rfl)
    (.cons (by decide) (clean_number _) <| .cons (by decide) tokenClean <|
      .cons (by decide) (clean_position _) <| .cons (by decide) stateClean <|
      .cons (by decide) (clean_boolean _) <| .cons (by decide) (clean_number _) <|
      .cons (by decide) (clean_number _) .nil) fun proper => ?_
  rw [readPiece, readInt_object proper (isInt_of_natural id) rfl,
    readString_object proper token rfl, readPosition_object proper (.inr position) rfl,
    readString_object proper state rfl, readBool_object proper rfl,
    readSigned_object proper longRemaining rfl, readSigned_object proper longTotal rfl]
  simp only [Except.ok_bind, requireNonNegative, require_ok, Int.natCast_nonneg, validToken,
    validState, remaining, Int.le_trans remaining withinTotal, withinTotal]
  rfl

theorem carries_motion {motion : MotionSnapshot} (wellFormed : motion.WellFormed) :
    Carries (fun motion => .ok (writeMotion motion)) readMotion motion := by
  obtain ⟨pieceId, source, destination, currentCell, steps, stepDuration, nextStepTime, order⟩ :=
    wellFormed
  have longSteps : IsInt motion.rowStep ∧ IsInt motion.colStep := by
    rw [IsInt, IsInt]
    omega
  refine .intro rfl
    (.cons (by decide) (clean_number _) <| .cons (by decide) (clean_position _) <|
      .cons (by decide) (clean_position _) <| .cons (by decide) (clean_position _) <|
      .cons (by decide) (clean_number _) <| .cons (by decide) (clean_number _) <|
      .cons (by decide) (clean_boolean _) <| .cons (by decide) (clean_number _) <|
      .cons (by decide) (clean_number _) <| .cons (by decide) (clean_number _) .nil)
    fun proper => ?_
  rw [readMotion, readInt_object proper (isInt_of_natural pieceId) rfl,
    readPosition_object proper (.inr source) rfl, readPosition_object proper (.inr destination) rfl,
    readPosition_object proper (.inr currentCell) rfl, readInt_object proper longSteps.1 rfl,
    readInt_object proper longSteps.2 rfl, readBool_object proper rfl,
    readSigned_object proper (stepDuration.isLong) rfl,
    readSigned_object proper (nextStepTime.isLong) rfl,
    readInt_object proper (isInt_of_natural order) rfl]
  simp only [Except.ok_bind, requireNonNegative, require_ok, Int.natCast_nonneg, steps,
    stepDuration.1, nextStepTime.1, and_self]
  rfl

theorem carries_jump {jump : JumpSnapshot} (wellFormed : jump.WellFormed) :
    Carries (fun jump => .ok (writeJump jump)) readJump jump := by
  obtain ⟨pieceId, cell, finishTime⟩ := wellFormed
  refine .intro rfl
    (.cons (by decide) (clean_number _) <| .cons (by decide) (clean_position _) <|
      .cons (by decide) (clean_number _) .nil) fun proper => ?_
  rw [readJump, readInt_object proper (isInt_of_natural pieceId) rfl,
    readPosition_object proper (.inr cell) rfl,
    readSigned_object proper (finishTime.isLong) rfl]
  simp only [Except.ok_bind, requireNonNegative, require_ok, Int.natCast_nonneg, finishTime.1]
  rfl

theorem carries_history {history : MoveHistorySnapshot} (wellFormed : history.WellFormed) :
    Carries writeHistory readHistory history := by
  obtain ⟨_, colorWritten, colorClean, color⟩ := string_spells (isText_color wellFormed.color)
  obtain ⟨_, kindWritten, kindClean, kind⟩ := string_spells (isText_kind wellFormed.pieceKind)
  obtain ⟨_, textWritten, textClean, text⟩ := string_spells wellFormed.notationText
  obtain ⟨completedAt, validColor, validKind, source, destination, -⟩ := wellFormed
  refine .intro (by rw [writeHistory, colorWritten, kindWritten, textWritten]; rfl)
    (.cons (by decide) (clean_number _) <| .cons (by decide) colorClean <|
      .cons (by decide) kindClean <| .cons (by decide) (clean_position _) <|
      .cons (by decide) (clean_position _) <| .cons (by decide) (clean_boolean _) <|
      .cons (by decide) (clean_boolean _) <| .cons (by decide) (clean_boolean _) <|
      .cons (by decide) textClean .nil) fun proper => ?_
  rw [readHistory, readSigned_object proper (completedAt.isLong) rfl,
    readString_object proper color rfl, readString_object proper kind rfl,
    readPosition_object proper (.inr source) rfl, readPosition_object proper (.inr destination) rfl,
    readBool_object proper rfl, readBool_object proper rfl, readBool_object proper rfl,
    readString_object proper text rfl]
  simp only [Except.ok_bind, requireNonNegative, require_ok, completedAt.1, validColor, validKind]
  rfl

/-- An array of items is carried item by item. -/
theorem Carries.array {Item : Type} {write : Item → Except String Text}
    {read : Text → Except String Item} {items : List Item}
    (carries : ∀ item ∈ items, Carries write read item) :
    ∃ rows : List (List Member), items.mapM write = .ok (rows.map object) ∧
      (∀ row ∈ rows, CleanMembers row) ∧ (rows.map object).mapM read = .ok items := by
  induction items with
  | nil => exact ⟨[], rfl, fun _ member => absurd member List.not_mem_nil, rfl⟩
  | cons item items ih =>
      obtain ⟨row, written, clean, reads⟩ := carries item (List.mem_cons_self ..)
      obtain ⟨rows, othersWritten, othersClean, othersRead⟩ :=
        ih fun other member => carries other (List.mem_cons_of_mem _ member)
      refine ⟨row :: rows, ?_, List.forall_mem_cons.mpr ⟨clean, othersClean⟩, ?_⟩
      · rw [List.mapM_cons, written, othersWritten]
        rfl
      · rw [List.map_cons, List.mapM_cons, reads, othersRead]
        rfl

theorem clean_array {rows : List (List Member)} (clean : ∀ row ∈ rows, CleanMembers row) :
    Clean (array (rows.map object)) := by
  refine .array fun item isItem => ?_
  obtain ⟨row, isRow, rfl⟩ := List.mem_map.mp isItem
  exact (clean row isRow).object

theorem readAll_object {Item : Type} {read : Text → Except String Item} {members : List Member}
    {key : String} (proper : Proper members) {rows : List (List Member)} {items : List Item}
    (clean : ∀ row ∈ rows, CleanMembers row) (reads : (rows.map object).mapM read = .ok items)
    (found : members.lookup key = some (array (rows.map object))) :
    readAll read (object members) key = .ok items := by
  rw [readAll, readObjectArray_object proper (fun row isRow => (clean row isRow).proper) found]
  exact reads

/-- Items whose writer cannot fail are written one by one. -/
theorem map_of_mapM {Item : Type} {write : Item → Text} {items : List Item} {texts : List Text}
    (written : items.mapM (fun item => (.ok (write item) : Except String Text)) = .ok texts) :
    items.map write = texts := by
  rw [Except.mapM_eq_ok] at written
  induction written with
  | nil => rfl
  | cons same _ ih => rw [List.map_cons, ih, Except.ok.inj same]

theorem isInt_of_score {score : Int} (range : 0 ≤ score ∧ score < 2 ^ 31) : IsInt score := by
  rw [IsInt]
  omega

theorem carries_snapshot {snapshot : GameStateSnapshot} (wellFormed : snapshot.WellFormed) :
    Carries writeSnapshot readSnapshot snapshot := by
  obtain ⟨_, whiteWritten, whiteClean, white⟩ := string_spells wellFormed.whiteUsername
  obtain ⟨_, blackWritten, blackClean, black⟩ := string_spells wellFormed.blackUsername
  obtain ⟨pieces, piecesWritten, piecesClean, piecesRead⟩ :=
    Carries.array fun piece member => carries_piece (wellFormed.pieces piece member)
  obtain ⟨motions, motionsWritten, motionsClean, motionsRead⟩ :=
    Carries.array fun motion member => carries_motion (wellFormed.motions motion member)
  obtain ⟨jumps, jumpsWritten, jumpsClean, jumpsRead⟩ :=
    Carries.array fun jump member => carries_jump (wellFormed.jumps jump member)
  obtain ⟨whiteMoves, whiteMovesWritten, whiteMovesClean, whiteMovesRead⟩ :=
    Carries.array fun entry member => carries_history (wellFormed.whiteHistory entry member)
  obtain ⟨blackMoves, blackMovesWritten, blackMovesClean, blackMovesRead⟩ :=
    Carries.array fun entry member => carries_history (wellFormed.blackHistory entry member)
  obtain ⟨serverTime, whiteScore, blackScore, -, -, start, -, -, -, -, -⟩ := wellFormed
  refine .intro (by
      rw [writeSnapshot, whiteWritten, blackWritten, piecesWritten, map_of_mapM motionsWritten,
        map_of_mapM jumpsWritten, whiteMovesWritten, blackMovesWritten]
      rfl)
    (.cons (by decide) (clean_number _) <| .cons (by decide) (clean_boolean _) <|
      .cons (by decide) (clean_number _) <| .cons (by decide) (clean_number _) <|
      .cons (by decide) whiteClean <| .cons (by decide) blackClean <|
      .cons (by decide) (clean_boolean _) <| .cons (by decide) (clean_number _) <|
      .cons (by decide) (clean_array piecesClean) <|
      .cons (by decide) (clean_array motionsClean) <|
      .cons (by decide) (clean_array jumpsClean) <|
      .cons (by decide) (clean_array whiteMovesClean) <|
      .cons (by decide) (clean_array blackMovesClean) .nil) fun proper => ?_
  rw [readSnapshot, readSigned_object proper (serverTime.isLong) rfl,
    readBool_object proper rfl, readInt_object proper (isInt_of_score whiteScore) rfl,
    readInt_object proper (isInt_of_score blackScore) rfl, readString_object proper white rfl,
    readString_object proper black rfl, readBool_object proper rfl,
    readSigned_object proper (start.isLong) rfl,
    readAll_object proper piecesClean piecesRead rfl,
    readAll_object proper motionsClean motionsRead rfl,
    readAll_object proper jumpsClean jumpsRead rfl,
    readAll_object proper whiteMovesClean whiteMovesRead rfl,
    readAll_object proper blackMovesClean blackMovesRead rfl]
  simp only [Except.ok_bind, requireNonNegative, require_ok, serverTime.1, start.1, whiteScore.1,
    blackScore.1, and_self]
  rfl

/-! ## The round trip of a message -/

theorem messageTypeFromString_toString (type : MessageType) :
    messageTypeFromString (messageTypeToString type) = .ok type := by
  cases type <;> rfl

theorem spells_type (type : MessageType) :
    Clean (quoted (messageTypeToString type).toList) ∧
      Spells (messageTypeToString type) (quoted (messageTypeToString type).toList) := by
  have plain : (∀ character ∈ (messageTypeToString type).toList,
      character ≠ '"' ∧ character ≠ '\\') ∧ Visible (messageTypeToString type).toList := by
    cases type <;> decide
  exact ⟨⟨.string (.of_plain plain.1), plain.2.quoted⟩, spells_plain plain.1⟩

theorem carries_snapshotMember {message : Message} (wellFormed : message.WellFormed) :
    ∃ sent, writeSnapshotMember message = .ok sent ∧ CleanMembers sent ∧
      ∀ members : List Member, members.lookup "snapshot" = none → Proper (members ++ sent) →
        readSnapshotMember message.hasSnapshot (object (members ++ sent)) =
          .ok message.snapshot := by
  cases shown : message.hasSnapshot with
  | false =>
      refine ⟨[], by rw [writeSnapshotMember, shown]; rfl, .nil, fun members _ _ => ?_⟩
      rw [wellFormed.notSent shown]
      rfl
  | true =>
      obtain ⟨inner, written, clean, reads⟩ := carries_snapshot (wellFormed.sent shown)
      refine ⟨[("snapshot", object inner)], by rw [writeSnapshotMember, shown, written]; rfl,
        .cons (by decide) clean.object .nil, fun members absent proper => ?_⟩
      have found : (members ++ [("snapshot", object inner)]).lookup "snapshot" =
          some (object inner) := by
        rw [List.lookup_append, absent]
        rfl
      rw [readSnapshotMember, if_pos rfl, readObject_object proper clean.proper found,
        Except.ok_bind, reads]

/-- **A well-formed message survives the codec.** -/
theorem carries_message {message : Message} (wellFormed : message.WellFormed) :
    Carries serialize deserialize message := by
  obtain ⟨typeClean, type⟩ := spells_type message.type
  obtain ⟨_, reasonWritten, reasonClean, reason⟩ := string_spells wellFormed.reason
  obtain ⟨_, colorWritten, colorClean, color⟩ := string_spells wellFormed.playerColor
  obtain ⟨_, tokenWritten, tokenClean, token⟩ := string_spells wellFormed.reconnectToken
  obtain ⟨_, nameWritten, nameClean, name⟩ := string_spells wellFormed.username
  obtain ⟨_, whiteWritten, whiteClean, white⟩ := string_spells wellFormed.whiteUsername
  obtain ⟨_, blackWritten, blackClean, black⟩ := string_spells wellFormed.blackUsername
  obtain ⟨sent, sentWritten, sentClean, snapshot⟩ := carries_snapshotMember wellFormed
  obtain ⟨sequence, source, destination, -, -, -, -, -, -, seconds, createdAt, -, -⟩ := wellFormed
  have longSequence : IsLong (message.sequence : Int) := by
    rw [IsLong]
    omega
  refine .intro (by
      rw [serialize, reasonWritten, colorWritten, tokenWritten, nameWritten, whiteWritten,
        blackWritten, sentWritten]
      rfl)
    (.append (.cons (by decide) (clean_number _) <| .cons (by decide) typeClean <|
      .cons (by decide) (clean_number _) <| .cons (by decide) (clean_position _) <|
      .cons (by decide) (clean_position _) <| .cons (by decide) (clean_boolean _) <|
      .cons (by decide) reasonClean <| .cons (by decide) colorClean <|
      .cons (by decide) tokenClean <| .cons (by decide) nameClean <|
      .cons (by decide) whiteClean <| .cons (by decide) blackClean <|
      .cons (by decide) (clean_number _) <| .cons (by decide) (clean_number _) <|
      .cons (by decide) (clean_boolean _) .nil) sentClean) fun proper => ?_
  rw [deserialize, require_ok (object_delimited _), readSigned_object proper (by decide) rfl,
    readString_object proper type rfl,
    readUnsigned_object proper longSequence rfl, readPosition_object proper source.allowed rfl,
    readPosition_object proper destination.allowed rfl, readBool_object proper rfl,
    readString_object proper reason rfl, readString_object proper color rfl,
    readString_object proper token rfl, readString_object proper name rfl,
    readString_object proper white rfl, readString_object proper black rfl,
    readInt_object proper (isInt_of_score seconds) rfl,
    readSigned_object proper (createdAt.isLong) rfl, readBool_object proper rfl]
  simp only [Except.ok_bind, messageTypeFromString_toString, requireNonNegative, require_ok,
    createdAt.1, seconds.1, snapshot _ rfl proper]
  rfl

end Protocol

end KungFuChess

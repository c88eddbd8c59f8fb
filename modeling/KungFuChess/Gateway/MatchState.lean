import KungFuChess.Library.JsonValue
import KungFuChess.Network.Updates

/-!
# The state of a match

The gateway takes apart what a game server sends with `json.loads`, keeps the snapshot in
it as the state of the match, and passes it on. `StateValue.members` is this object, member
by member in the order of the game server's writer. Written again it is the very text that
the game server wrote (`serialize_members`).
-/

set_option autoImplicit false

namespace KungFuChess

open JsonText

/-! ## Snapshots as values -/

namespace StateValue

def position (position : Position) : JsonValue :=
  .object [("row", .int position.row), ("col", .int position.col)]

def piece (piece : PieceSnapshot) : JsonValue :=
  .object [("id", .int piece.id), ("token", .string piece.token),
    ("position", position piece.position), ("state", .string piece.state),
    ("hasMoved", .bool piece.hasMoved), ("remainingCooldownMs", .int piece.remainingCooldownMs),
    ("totalCooldownMs", .int piece.totalCooldownMs)]

def motion (motion : MotionSnapshot) : JsonValue :=
  .object [("pieceId", .int motion.pieceId), ("source", position motion.source),
    ("destination", position motion.destination), ("currentCell", position motion.currentCell),
    ("rowStep", .int motion.rowStep), ("colStep", .int motion.colStep),
    ("directMove", .bool motion.directMove), ("stepDurationMs", .int motion.stepDurationMs),
    ("nextStepTimeMs", .int motion.nextStepTimeMs), ("order", .int motion.order)]

def jump (jump : JumpSnapshot) : JsonValue :=
  .object [("pieceId", .int jump.pieceId), ("cell", position jump.cell),
    ("finishTimeMs", .int jump.finishTimeMs)]

def history (history : MoveHistorySnapshot) : JsonValue :=
  .object [("completedAtMs", .int history.completedAtMs), ("color", .string history.color),
    ("pieceKind", .string history.pieceKind), ("source", position history.source),
    ("destination", position history.destination), ("wasCapture", .bool history.wasCapture),
    ("wasPromotion", .bool history.wasPromotion), ("wasJump", .bool history.wasJump),
    ("notation", .string history.notationText)]

/-- The members of a snapshot. -/
def members (snapshot : GameStateSnapshot) : List (String × JsonValue) :=
  [("serverTimeMs", .int snapshot.serverTimeMs), ("gameOver", .bool snapshot.gameOver),
    ("whiteScore", .int snapshot.whiteScore), ("blackScore", .int snapshot.blackScore),
    ("whiteUsername", .string snapshot.whiteUsername),
    ("blackUsername", .string snapshot.blackUsername),
    ("playersReady", .bool snapshot.playersReady),
    ("gameplayStartsAtEpochMs", .int snapshot.gameplayStartsAtEpochMs),
    ("pieces", .array (snapshot.pieces.map piece)),
    ("motions", .array (snapshot.motions.map motion)),
    ("jumps", .array (snapshot.jumps.map jump)),
    ("whiteMoveHistory", .array (snapshot.whiteMoveHistory.map history)),
    ("blackMoveHistory", .array (snapshot.blackMoveHistory.map history))]

/-! ## Writing the values again -/

theorem escape_eq {character : Char} {piece : Text}
    (written : Protocol.escapeCharacter character = .ok piece) :
    JsonValue.escape character = piece := by
  unfold Protocol.escapeCharacter at written
  split at written
  case h_6 notEscape notQuote notNewline notReturn notTab =>
    split at written
    · cases written
    · next visible =>
        cases written
        unfold JsonValue.escape
        split
        · exact absurd rfl notQuote
        · exact absurd rfl notEscape
        · exact absurd rfl notNewline
        · exact absurd rfl notReturn
        · exact absurd rfl notTab
        · exact absurd (by decide) visible
        · exact absurd (by decide) visible
        · exact if_neg visible
  all_goals
    cases written
    rfl

/-- Both sides escape a text in the same way, as far as the game server writes it at all. -/
theorem escaped_eq {value raw : Text} (written : Protocol.escapeJson value = .ok raw) :
    value.flatMap JsonValue.escape = raw := by
  induction value generalizing raw with
  | nil =>
      cases written
      rfl
  | cons character value ih =>
      obtain ⟨piece, first, later⟩ := Except.bind_eq_ok.mp written
      obtain ⟨others, rest, returned⟩ := Except.bind_eq_ok.mp later
      cases returned
      rw [List.flatMap_cons, escape_eq first, ih rest]

theorem serialize_string {value : String} {text : Text}
    (written : Protocol.string value = .ok text) : (JsonValue.string value).serialize = text := by
  obtain ⟨raw, escaped, rfl⟩ := Except.map_eq_ok.mp written
  exact congrArg quoted (escaped_eq escaped)

theorem serialize_piece {item : PieceSnapshot} {text : Text}
    (written : Protocol.writePiece item = .ok text) : (piece item).serialize = text := by
  obtain ⟨token, tokenWritten, written⟩ := Except.bind_eq_ok.mp written
  obtain ⟨state, stateWritten, written⟩ := Except.bind_eq_ok.mp written
  cases written
  rw [← serialize_string tokenWritten, ← serialize_string stateWritten]
  rfl

theorem serialize_motion (item : MotionSnapshot) :
    (motion item).serialize = Protocol.writeMotion item := rfl

theorem serialize_jump (item : JumpSnapshot) :
    (jump item).serialize = Protocol.writeJump item := rfl

theorem serialize_history {item : MoveHistorySnapshot} {text : Text}
    (written : Protocol.writeHistory item = .ok text) : (history item).serialize = text := by
  obtain ⟨color, colorWritten, written⟩ := Except.bind_eq_ok.mp written
  obtain ⟨kind, kindWritten, written⟩ := Except.bind_eq_ok.mp written
  obtain ⟨entry, entryWritten, written⟩ := Except.bind_eq_ok.mp written
  cases written
  rw [← serialize_string colorWritten, ← serialize_string kindWritten,
    ← serialize_string entryWritten]
  rfl

/-- Items whose values are written alike are written alike together. -/
theorem serializeItems_map {Item : Type} {value : Item → JsonValue} {write : Item → Text}
    (same : ∀ item, (value item).serialize = write item) (items : List Item) :
    JsonValue.serializeItems (items.map value) = items.map write := by
  induction items with
  | nil => rfl
  | cons item items ih => rw [List.map_cons, JsonValue.serializeItems, same, ih, List.map_cons]

theorem serializeItems_mapM {Item : Type} {value : Item → JsonValue}
    {write : Item → Except String Text}
    (same : ∀ {item text}, write item = .ok text → (value item).serialize = text)
    {items : List Item} {texts : List Text} (written : items.mapM write = .ok texts) :
    JsonValue.serializeItems (items.map value) = texts := by
  rw [Except.mapM_eq_ok] at written
  induction written with
  | nil => rfl
  | cons first _ ih => rw [List.map_cons, JsonValue.serializeItems, same first, ih]

/-- **The values are what the game server wrote.** -/
theorem serialize_members {snapshot : GameStateSnapshot} {text : Text}
    (written : Protocol.writeSnapshot snapshot = .ok text) :
    (JsonValue.object (members snapshot)).serialize = text := by
  obtain ⟨white, whiteWritten, written⟩ := Except.bind_eq_ok.mp written
  obtain ⟨black, blackWritten, written⟩ := Except.bind_eq_ok.mp written
  obtain ⟨pieces, piecesWritten, written⟩ := Except.bind_eq_ok.mp written
  obtain ⟨whiteMoves, whiteMovesWritten, written⟩ := Except.bind_eq_ok.mp written
  obtain ⟨blackMoves, blackMovesWritten, written⟩ := Except.bind_eq_ok.mp written
  cases written
  rw [← serialize_string whiteWritten, ← serialize_string blackWritten,
    ← serializeItems_mapM serialize_piece piecesWritten,
    ← serializeItems_map serialize_motion, ← serializeItems_map serialize_jump,
    ← serializeItems_mapM serialize_history whiteMovesWritten,
    ← serializeItems_mapM serialize_history blackMovesWritten]
  rfl

end StateValue

/-! ## States of matches -/

/-- The state of a match, with the snapshot that the game server wrote. -/
structure MatchState where
  snapshot : GameStateSnapshot
  wellFormed : snapshot.WellFormed

namespace MatchState

/-- What the gateway keeps of it. -/
def members (state : MatchState) : List (String × JsonValue) := StateValue.members state.snapshot

/-- The game server did write the state, and the gateway's value is this text. -/
theorem written (state : MatchState) :
    Protocol.writeSnapshot state.snapshot = .ok (JsonValue.object state.members).serialize := by
  obtain ⟨rows, written, -⟩ := Protocol.carries_snapshot state.wellFormed
  rw [written, members, StateValue.serialize_members written]

/-- **Every game has its state**, whatever calls led to it from the initial board. -/
def ofGame (load : PieceConfigReader) (eventBus : Option EventBus) (calls : List Call)
    (range : ((GameEngine.new createInitialBoard eventBus).run load calls).InRange)
    {whiteUsername blackUsername : String} (white : IsText whiteUsername)
    (black : IsText blackUsername) (playersReady : Bool) {gameplayStartsAtEpochMs : Int}
    (start : IsCount gameplayStartsAtEpochMs) : MatchState where
  snapshot := GameStateSnapshotBuilder.addPlayers
    (GameStateSnapshotBuilder.build ((GameEngine.new createInitialBoard eventBus).run load calls))
    whiteUsername blackUsername playersReady gameplayStartsAtEpochMs
  wellFormed := GameEngine.run_initial_wellFormed load eventBus calls range white black
    playersReady start

end MatchState

end KungFuChess

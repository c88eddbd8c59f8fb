import KungFuChess.Engine.Ending
import KungFuChess.Messaging.Snapshot

/-!
# The winner, seen from the gateway

No winner crosses the bridge, so the gateway reads it off the last snapshot: the
colour whose king is still listed. The engine names the winner when the first
king is captured, and goes on applying events afterwards.
-/

set_option autoImplicit false

namespace KungFuChess

/-! ## The gateway's reading -/

/-- `MatchManager._winner_color`: the colour whose king is in the snapshot. -/
def MatchManager.winnerColor (snapshot : GameStateSnapshot) : Option String :=
  let tokens := snapshot.pieces.map PieceSnapshot.token
  let whiteKingAlive := "wK" ∈ tokens
  let blackKingAlive := "bK" ∈ tokens
  if whiteKingAlive ∧ ¬ blackKingAlive then some "white"
  else if blackKingAlive ∧ ¬ whiteKingAlive then some "black"
  else none

/-- The name the gateway has for a colour. -/
def PieceColor.gatewayName : PieceColor → String
  | .white => "white"
  | .black => "black"

/-- The token of a king. -/
def PieceColor.kingToken : PieceColor → String
  | .white => "wK"
  | .black => "bK"

/-- The gateway names a colour when its king is the only one listed. -/
theorem MatchManager.winnerColor_eq (snapshot : GameStateSnapshot) (color : PieceColor)
    (alive : color.kingToken ∈ snapshot.pieces.map PieceSnapshot.token)
    (lost : color.opposite.kingToken ∉ snapshot.pieces.map PieceSnapshot.token) :
    winnerColor snapshot = some color.gatewayName := by
  cases color with
  | white => exact if_pos ⟨alive, lost⟩
  | black => exact (if_neg fun both => lost both.1).trans (if_pos ⟨alive, lost⟩)

theorem Piece.token_eq_kingToken (piece : Piece) (color : PieceColor) :
    piece.token = color.kingToken ↔ piece.color = color ∧ piece.kind = .king := by
  have letters : ∀ own kind, String.ofList [colorToChar own, kindToChar kind] = color.kingToken ↔
      own = color ∧ kind = .king := by
    intro own kind
    cases own <;> cases kind <;> cases color <;> decide
  exact letters piece.color piece.kind

/-! ## Both programs -/

/-- The kings of the standard board. -/
def initialKings : createInitialBoard.Kings where
  king := fun
    | .white => 29
    | .black => 5
  kind := by decide +kernel
  color := by decide +kernel
  only := by
    have listed : ∀ cell ∈ createInitialBoard.board.positions,
        ∀ piece ∈ createInitialBoard.board.getPieceAt cell,
          (createInitialBoard.pieces.get piece).kind = .king →
            piece = match (createInitialBoard.pieces.get piece).color with
              | .white => 29
              | .black => 5 := by
      decide +kernel
    rintro piece ⟨cell, here⟩ king
    exact listed cell (Board.mem_positions.mpr (Board.isInside_of_getPieceAt here)) piece here king

namespace GameEngine

/-- **Both programs name the same winner** after a run that is safe for the kings. -/
theorem run_winnerColor (load : PieceConfigReader) (calls : List Call)
    (safe : ∀ moment ∈ (new createInitialBoard (some {})).runMoments load calls,
      moment.KingsSafe initialKings.king)
    (isOver : ((new createInitialBoard (some {})).run load calls).gameOver = true) :
    ∃ finish, ((new createInitialBoard (some {})).run load calls).endings = [finish] ∧
      finish.hasWinner = true ∧
      MatchManager.winnerColor (GameStateSnapshotBuilder.build
        ((new createInitialBoard (some {})).run load calls)) =
          some finish.winner.gatewayName := by
  have ids : ∀ piece,
      (((new createInitialBoard (some {})).run load calls).pieces.get piece).id = piece :=
        fun piece =>
    (run_lasting (new_coherent _ _) Piece.lasting_id piece).trans (createInitialBoard.ids piece)
  obtain ⟨cast, reign⟩ := run_reign load initialKings calls safe
  generalize (new createInitialBoard (some {})).run load calls = engine at *
  obtain ⟨finish, once, decided, alive, onGrid, lost⟩ := reign.finished isOver
  refine ⟨finish, once, decided, MatchManager.winnerColor_eq _ _ ?_ ?_⟩
  · refine (GameStateSnapshotBuilder.mem_build_tokens ids _).mpr ⟨_, onGrid, alive, ?_⟩
    rw [Piece.token_eq_kingToken]
    refine ⟨(cast.colors _).trans (initialKings.color _), ?_⟩
    exact (cast.kings _).mpr (initialKings.kind _)
  · intro listed
    obtain ⟨piece, ⟨cell, here⟩, live, king⟩ :=
      (GameStateSnapshotBuilder.mem_build_tokens ids _).mp listed
    obtain ⟨color, kind⟩ := (Piece.token_eq_kingToken _ _).mp king
    have crown : piece = initialKings.king (engine.colorOf piece) :=
      Moment.crowned initialKings cast kind (.inr ⟨cell, here⟩)
    rw [show engine.colorOf piece = finish.winner.opposite from color] at crown
    exact live (crown ▸ lost)

/-- The white queen takes the black king. -/
def queenTakesKing : List Call :=
  [.requestMove ⟨6, 4⟩ ⟨4, 4⟩, .requestMove ⟨1, 5⟩ ⟨3, 5⟩, .wait 2000,
    .requestMove ⟨7, 3⟩ ⟨3, 7⟩, .wait 8000, .requestMove ⟨3, 7⟩ ⟨0, 4⟩, .wait 3000]

theorem run_winnerColor_queen :
    ∃ finish, ((new createInitialBoard (some {})).run PieceConfigReader.fallback
        queenTakesKing).endings = [finish] ∧ finish.hasWinner = true ∧
      MatchManager.winnerColor (GameStateSnapshotBuilder.build
        ((new createInitialBoard (some {})).run PieceConfigReader.fallback queenTakesKing)) =
          some finish.winner.gatewayName :=
  run_winnerColor PieceConfigReader.fallback queenTakesKing (by decide +kernel) (by decide +kernel)

/-- Both queens take the other king in the same wait. -/
def bothKingsFall : List Call :=
  [.requestMove ⟨6, 4⟩ ⟨4, 4⟩, .requestMove ⟨1, 4⟩ ⟨3, 4⟩, .wait 2000,
    .requestMove ⟨7, 3⟩ ⟨3, 7⟩, .requestMove ⟨0, 3⟩ ⟨4, 7⟩, .wait 8000,
    .requestMove ⟨3, 7⟩ ⟨1, 5⟩, .requestMove ⟨4, 7⟩ ⟨6, 5⟩, .wait 4000,
    .requestMove ⟨1, 5⟩ ⟨0, 4⟩, .requestMove ⟨6, 5⟩ ⟨7, 4⟩, .wait 1000]

/-- The engine publishes that white has won; the gateway finds no winner. -/
theorem bothKingsFall_no_winner :
    ((new createInitialBoard (some {})).run PieceConfigReader.fallback bothKingsFall).gameOver =
        true ∧
      ((new createInitialBoard (some {})).run PieceConfigReader.fallback
        bothKingsFall).endings.map (fun finish => (finish.hasWinner, finish.winner)) =
          [(true, .white)] ∧
      MatchManager.winnerColor (GameStateSnapshotBuilder.build
        ((new createInitialBoard (some {})).run PieceConfigReader.fallback bothKingsFall)) =
          none := by
  decide +kernel

end GameEngine

end KungFuChess

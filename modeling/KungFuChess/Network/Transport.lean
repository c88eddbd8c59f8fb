import KungFuChess.Network.TcpConnection
import KungFuChess.Network.UpdateSize

/-!
# State updates on the wire

A state update carries both histories, and every jump and every move adds an entry to
one of them. The server and its clients refuse messages of more than a mebibyte; the
gateway reads the same lines with the default limit of its stream reader.
`run_update_fits` says which games stay below both limits.
-/

set_option autoImplicit false

namespace KungFuChess

open JsonText Protocol

/-! ## The stream reader -/

namespace StreamReader

/-- The limit of a reader that is opened without one. -/
def defaultLimit : Nat := 65536

/-- `readline`: the buffer grows piece by piece until it has a newline. At the end of the
stream the rest of the buffer is returned. -/
def readline (limit : Nat) (buffer : Text) (pieces : List Text) :
    Except String (Text × List Text) :=
  if '\n' ∈ buffer then
    let line := buffer.takeWhile (· ≠ '\n')
    if limit < line.length then .error "Separator is found, but chunk is longer than limit"
    else .ok (line ++ ['\n'], buffer.drop (line.length + 1) :: pieces)
  else if limit < buffer.length then
    .error "Separator is not found, and chunk exceed the limit"
  else
    match pieces with
    | [] => .ok (buffer, [])
    | piece :: rest => readline limit (buffer ++ piece) rest

/-- A buffer that reaches behind the first newline has the whole line. -/
theorem line_of_newline {line stream buffer behind : Text} (oneLine : '\n' ∉ line)
    (arrives : buffer ++ behind = line ++ '\n' :: stream) (ended : '\n' ∈ buffer) :
    ∃ tail, buffer = line ++ '\n' :: tail ∧ tail ++ behind = stream := by
  rcases List.append_eq_append_iff.mp arrives with ⟨rest, shorter, _⟩ | ⟨rest, longer, others⟩
  · exact absurd (shorter ▸ List.mem_append_left rest ended) oneLine
  · cases rest with
    | nil =>
        rw [List.append_nil] at longer
        exact absurd (longer ▸ ended) oneLine
    | cons character tail =>
        obtain ⟨rfl, same⟩ := List.cons.inj others
        exact ⟨tail, longer, same.symm⟩

/-- A buffer without a newline is a part of the line. -/
theorem buffer_of_noNewline {line stream buffer behind : Text}
    (arrives : buffer ++ behind = line ++ '\n' :: stream) (open_ : '\n' ∉ buffer) :
    buffer.length ≤ line.length := by
  rcases List.append_eq_append_iff.mp arrives with ⟨rest, shorter, _⟩ | ⟨rest, longer, others⟩
  · rw [shorter, List.length_append]
    exact Nat.le_add_right _ _
  · cases rest with
    | nil => rw [longer, List.append_nil]
    | cons character tail =>
        obtain ⟨rfl, _⟩ := List.cons.inj others
        exact absurd (longer ▸ List.mem_append_right line (List.mem_cons_self ..)) open_

theorem takeWhile_line {line : Text} (oneLine : '\n' ∉ line) (tail : Text) :
    (line ++ '\n' :: tail).takeWhile (· ≠ '\n') = line := by
  have inside : ∀ character ∈ line, decide (character ≠ '\n') = true := fun character member =>
    decide_eq_true fun same : character = '\n' => oneLine (same ▸ member)
  rw [List.takeWhile_append_of_pos inside, List.takeWhile_cons_of_neg (by decide), List.append_nil]

/-- A line within the limit is read, and a longer one is not. -/
def Reads (limit : Nat) (line stream : Text) (result : Except String (Text × List Text)) : Prop :=
  (line.length ≤ limit → ∃ rest, result = .ok (line ++ ['\n'], rest) ∧ rest.flatten = stream) ∧
    (limit < line.length → ∃ reason, result = .error reason)

/-- A buffer with a newline is decided at once. -/
theorem readline_ended {limit : Nat} {line stream buffer : Text} {pieces : List Text}
    (oneLine : '\n' ∉ line) (arrives : buffer ++ pieces.flatten = line ++ '\n' :: stream)
    (ended : '\n' ∈ buffer) : Reads limit line stream (readline limit buffer pieces) := by
  obtain ⟨tail, rfl, same⟩ := line_of_newline oneLine arrives ended
  unfold readline
  rw [if_pos ended, takeWhile_line oneLine]
  refine ⟨fun fits => ⟨_, if_neg (not_lt.mpr fits), ?_⟩, fun tooLong => ⟨_, if_pos tooLong⟩⟩
  rw [List.drop_length_add_append, List.drop_succ_cons, List.drop_zero, List.flatten_cons, same]

/-- **A line is read exactly when it is within the limit**, however it arrives. -/
theorem readline_line {limit : Nat} {line stream : Text} (oneLine : '\n' ∉ line)
    {pieces : List Text} {buffer : Text}
    (arrives : buffer ++ pieces.flatten = line ++ '\n' :: stream) :
    Reads limit line stream (readline limit buffer pieces) := by
  induction pieces generalizing buffer with
  | nil =>
      refine readline_ended oneLine arrives ?_
      rw [List.flatten_nil, List.append_nil] at arrives
      exact arrives ▸ List.mem_append_right line (List.mem_cons_self ..)
  | cons piece pieces ih =>
      by_cases ended : '\n' ∈ buffer
      · exact readline_ended oneLine arrives ended
      · have part := buffer_of_noNewline arrives ended
        rw [List.flatten_cons, ← List.append_assoc] at arrives
        rw [readline, if_neg ended]
        split
        · next full =>
            exact ⟨fun fits => absurd (part.trans fits) (not_le.mpr full), fun _ => ⟨_, rfl⟩⟩
        · exact ih arrives

end StreamReader

/-! ## Both limits -/

/-- A text passes the connection between the server and its clients, and the reader of the
gateway, in whatever pieces its line is sent and arrives. -/
structure FitsTransport (json : Text) : Prop where
  sent : ∀ taken : Nat → Nat, (∀ remaining, 0 < remaining → 0 < taken remaining) →
    TcpConnection.sendMessage true taken json = .ok (json ++ ['\n'])
  received : ∀ pieces : List Text, pieces.flatten = json ++ ['\n'] →
    ∃ rest, TcpConnection.receiveMessage true pieces = .ok (json, rest)
  read : ∀ pieces : List Text, pieces.flatten = json ++ ['\n'] →
    ∃ rest, StreamReader.readline StreamReader.defaultLimit [] pieces = .ok (json ++ ['\n'], rest)

/-- The limit of the reader is the smaller one. -/
theorem fitsTransport_iff {json : Text} (oneLine : '\n' ∉ json) :
    FitsTransport json ↔ json.length ≤ StreamReader.defaultLimit := by
  have smaller : StreamReader.defaultLimit ≤ TcpConnection.maxMessageBytes := by decide
  constructor
  · intro fits
    have whole : [json ++ ['\n']].flatten = json ++ ['\n'] := List.flatten_singleton ..
    obtain ⟨rest, read⟩ := fits.read [json ++ ['\n']] whole
    by_contra long
    obtain ⟨reason, refused⟩ := (StreamReader.readline_line oneLine (by
      rw [List.nil_append, whole])).2 (not_le.mp long)
    rw [read] at refused
    cases refused
  · intro small
    refine ⟨fun taken takes => ?_, fun pieces arrives => ?_, fun pieces arrives => ?_⟩
    · rw [TcpConnection.sendMessage, require_ok rfl, Except.ok_bind,
        require_ok (small.trans smaller),
        Except.ok_bind, TcpConnection.sendAll_eq takes]
    · have fits : ([] : Text).length + json.length ≤ TcpConnection.maxMessageBytes := by
        rw [List.length_nil, Nat.zero_add]
        exact small.trans smaller
      obtain ⟨rest, received, _⟩ := TcpConnection.receiveFrom_line oneLine fits arrives
      refine ⟨rest, ?_⟩
      rw [TcpConnection.receiveMessage, require_ok rfl, Except.ok_bind, received]
      rfl
    · obtain ⟨rest, read, _⟩ := (StreamReader.readline_line oneLine (by
        rw [List.nil_append, arrives])).1 small
      exact ⟨rest, read⟩

/-! ## How much a game holds -/

/-- Keys below a bound that are all different are few. -/
theorem length_le_of_nodup_keys {Item : Type} {items : List Item} {key : Item → Nat} {bound : Nat}
    (distinct : (items.map key).Nodup) (small : ∀ item ∈ items, key item < bound) :
    items.length ≤ bound := by
  have inside : items.map key ⊆ List.range bound := by
    intro value member
    obtain ⟨item, isItem, rfl⟩ := List.mem_map.mp member
    exact List.mem_range.mpr (small item isItem)
  have fewer := (List.subperm_of_subset distinct inside).length_le
  rwa [List.length_map, List.length_range] at fewer

theorem arrayWidth_ge {Item : Type} {items : List Item} {width : Item → Nat} {least : Nat}
    (each : ∀ item ∈ items, least ≤ width item) :
    items.length * least ≤ arrayWidth (items.map width) := by
  have total := List.card_nsmul_le_sum (items.map width) least fun value member => by
    obtain ⟨item, isItem, rfl⟩ := List.mem_map.mp member
    exact each item isItem
  rw [List.length_map] at total
  exact total.trans (by rw [arrayWidth]; omega)

theorem arrayWidth_le {Item : Type} {items : List Item} {width : Item → Nat} {most : Nat}
    (each : ∀ item ∈ items, width item ≤ most) :
    arrayWidth (items.map width) ≤ items.length * (most + 1) + 2 := by
  have total : (items.map width).sum ≤ (items.map width).length * most :=
    List.sum_le_card_nsmul (items.map width) most fun value member => by
      obtain ⟨item, isItem, rfl⟩ := List.mem_map.mp member
      exact each item isItem
  rw [List.length_map] at total
  rw [arrayWidth, List.length_map, Nat.mul_succ]
  omega

namespace GameEngine

section InitialBoard

variable (load : PieceConfigReader) (eventBus : Option EventBus) (calls : List Call)

/-- A snapshot has few pieces, motions and jumps. -/
theorem run_initial_few :
    (GameStateSnapshotBuilder.build
      ((new createInitialBoard eventBus).run load calls)).pieces.length ≤ 33 ∧
    (GameStateSnapshotBuilder.build
      ((new createInitialBoard eventBus).run load calls)).motions.length ≤ 33 ∧
    (GameStateSnapshotBuilder.build
      ((new createInitialBoard eventBus).run load calls)).jumps.length ≤ 33 := by
  have coherent := run_coherent load createInitialBoard eventBus calls
  have made := @run_initial_made load eventBus calls
  obtain ⟨distinct, entries⟩ :=
    GameStateSnapshotBuilder.build_entries (run_initial_ids load eventBus calls)
  refine ⟨length_le_of_nodup_keys distinct fun entry member => made fun foreign => ?_, ?_, ?_⟩
  · obtain ⟨⟨cell, here⟩, _⟩ := (entries entry.id).mp (List.mem_map_of_mem member)
    exact foreign.2 cell here
  · rw [GameStateSnapshotBuilder.build, List.length_map]
    refine length_le_of_nodup_keys coherent.distinct fun motion member => made fun foreign => ?_
    have moving := coherent.stateOf_motion member
    exact PieceState.noConfusion (moving.symm.trans foreign.1)
  · rw [GameStateSnapshotBuilder.build, List.length_map]
    have airborne := coherent.airborne
    simp only [view, List.map_nil, List.append_nil, List.map_map] at airborne
    refine length_le_of_nodup_keys airborne fun jump member => made fun foreign => ?_
    have flying := coherent.flying jump.flight
      (List.mem_append_left _ (List.mem_map_of_mem member))
    exact PieceState.noConfusion (flying.symm.trans foreign.1)

/-- The number of entries in the two histories. -/
def entryCount (engine : GameEngine) : Nat :=
  engine.whiteMoveHistory.length + engine.blackMoveHistory.length

theorem width_stateUpdate (engine : GameEngine) (whiteUsername blackUsername : String)
    (playersReady : Bool) (gameplayStartsAtEpochMs : Int) :
    (engine.stateUpdate whiteUsername blackUsername playersReady gameplayStartsAtEpochMs).width =
      313 + numberWidth engine.getCurrentTimeMs +
        (GameStateSnapshotBuilder.addPlayers (GameStateSnapshotBuilder.build engine) whiteUsername
          blackUsername playersReady gameplayStartsAtEpochMs).width := by
  have type : (messageTypeToString .gameStateUpdated).toList.length = 18 := by decide
  have reason : stringWidth "state_update" = 14 := by decide
  have empty : stringWidth "" = 2 := by decide
  have unused : positionWidth {} = 19 := by decide
  have zero : numberWidth 0 = 1 := by decide
  have yes : booleanWidth true = 4 := rfl
  simp only [stateUpdate, Message.withSnapshot, Message.width, type, reason, empty, unused, yes,
    Int.natCast_zero, zero]
  omega

/-- **The entries make the size**: every entry takes at least 171 bytes and at most 209, and
everything else at most 17,803. -/
theorem run_update_width (range : ((new createInitialBoard eventBus).run load calls).InRange)
    {whiteUsername blackUsername : String} (white : IsText whiteUsername)
    (black : IsText blackUsername) (playersReady : Bool) {gameplayStartsAtEpochMs : Int}
    (start : IsCount gameplayStartsAtEpochMs) :
    171 * ((new createInitialBoard eventBus).run load calls).entryCount ≤
      (((new createInitialBoard eventBus).run load calls).stateUpdate whiteUsername blackUsername
        playersReady gameplayStartsAtEpochMs).width ∧
    (whiteUsername.toList.length ≤ Username.maxLength →
      blackUsername.toList.length ≤ Username.maxLength →
      (((new createInitialBoard eventBus).run load calls).stateUpdate whiteUsername blackUsername
        playersReady gameplayStartsAtEpochMs).width ≤
        17803 + 209 * ((new createInitialBoard eventBus).run load calls).entryCount) := by
  obtain ⟨fewPieces, fewMotions, fewJumps⟩ := run_initial_few load eventBus calls
  have shown := run_initial_wellFormed load eventBus calls range white black playersReady start
  have presentable := run_initial_presentable load eventBus calls
  rw [width_stateUpdate]
  generalize (new createInitialBoard eventBus).run load calls = engine at *
  have clock := numberWidth_count ⟨presentable.clock, range.clock⟩
  have isOver := booleanWidth_bounds engine.gameOver
  have whiteScore := numberWidth_int presentable.scores.1 range.whiteScore
  have blackScore := numberWidth_int presentable.scores.2 range.blackScore
  have ready := booleanWidth_bounds playersReady
  have starts := numberWidth_count start
  have whiteName := stringWidth_le whiteUsername
  have blackName := stringWidth_le blackUsername
  have pieces := arrayWidth_le fun piece member => (shown.pieces piece member).width_le
  have motions := arrayWidth_le fun motion member => (shown.motions motion member).width_le
  have jumps := arrayWidth_le fun jump member => (shown.jumps jump member).width_le
  have whiteEntries : ∀ history ∈ engine.whiteMoveHistory.map
      GameStateSnapshotBuilder.makeHistorySnapshot, 171 ≤ history.width ∧ history.width ≤ 208 := by
    intro history member
    obtain ⟨entry, recorded, rfl⟩ := List.mem_map.mp member
    exact (shown.whiteHistory _ member).width_bounds
      (presentable.whiteHistory entry recorded).text.2
  have blackEntries : ∀ history ∈ engine.blackMoveHistory.map
      GameStateSnapshotBuilder.makeHistorySnapshot, 171 ≤ history.width ∧ history.width ≤ 208 := by
    intro history member
    obtain ⟨entry, recorded, rfl⟩ := List.mem_map.mp member
    exact (shown.blackHistory _ member).width_bounds
      (presentable.blackHistory entry recorded).text.2
  have whiteLeast := arrayWidth_ge fun history member => (whiteEntries history member).1
  have blackLeast := arrayWidth_ge fun history member => (blackEntries history member).1
  have whiteMost := arrayWidth_le fun history member => (whiteEntries history member).2
  have blackMost := arrayWidth_le fun history member => (blackEntries history member).2
  rw [List.length_map] at whiteLeast blackLeast whiteMost blackMost
  simp only [GameStateSnapshotBuilder.build] at fewPieces fewMotions fewJumps
  simp only [GameStateSnapshotBuilder.addPlayers, GameStateSnapshotBuilder.build]
    at pieces motions jumps
  simp only [GameStateSnapshot.width, GameStateSnapshotBuilder.addPlayers,
    GameStateSnapshotBuilder.build, entryCount, Username.maxLength]
  omega

/-- The update of a reachable game is written as one line of its width. -/
theorem run_update_written (range : ((new createInitialBoard eventBus).run load calls).InRange)
    {whiteUsername blackUsername : String} (white : IsText whiteUsername)
    (black : IsText blackUsername) (playersReady : Bool) {gameplayStartsAtEpochMs : Int}
    (start : IsCount gameplayStartsAtEpochMs) :
    ∃ json,
      serialize (((new createInitialBoard eventBus).run load calls).stateUpdate whiteUsername
        blackUsername playersReady gameplayStartsAtEpochMs) = .ok json ∧
      json.length = (((new createInitialBoard eventBus).run load calls).stateUpdate whiteUsername
        blackUsername playersReady gameplayStartsAtEpochMs).width ∧ '\n' ∉ json := by
  have shown := run_initial_wellFormed load eventBus calls range white black playersReady start
  have presentable := run_initial_presentable load eventBus calls
  have header : Message.WellFormed
      { type := .gameStateUpdated
        accepted := true
        reason := "state_update"
        createdAtMs := ((new createInitialBoard eventBus).run load calls).getCurrentTimeMs } :=
    have empty : IsText "" := by decide
    have reason : IsText "state_update" := by decide
    have sequence : 0 < 2 ^ 63 := by decide
    have seconds : (0 : Int) ≤ 0 ∧ (0 : Int) < 2 ^ 31 := by decide
    ⟨sequence, .inl rfl, .inl rfl, reason, empty, empty, empty, empty, empty, seconds,
      ⟨presentable.clock, range.clock⟩, nofun, fun _ => rfl⟩
  obtain ⟨members, written, clean, _⟩ := carries_message (header.withSnapshot shown)
  exact ⟨object members, written, length_serialize rfl written,
    clean.object.visible.not_newline⟩

end InitialBoard

/-! ## Which updates fit -/

/-- **Which state updates fit the transport.** The update of a reachable game is written, and
its text is within both limits exactly when its width is within the smaller one. A game with
at most 228 entries in its histories has such an update, one with 384 entries has none. -/
theorem run_update_fits (load : PieceConfigReader) (eventBus : Option EventBus)
    (calls : List Call) (range : ((new createInitialBoard eventBus).run load calls).InRange)
    {whiteUsername blackUsername : String} (white : IsText whiteUsername)
    (black : IsText blackUsername) (playersReady : Bool) {gameplayStartsAtEpochMs : Int}
    (start : IsCount gameplayStartsAtEpochMs) :
    ∃ json,
      serialize (((new createInitialBoard eventBus).run load calls).stateUpdate whiteUsername
        blackUsername playersReady gameplayStartsAtEpochMs) = .ok json ∧
      (FitsTransport json ↔
        (((new createInitialBoard eventBus).run load calls).stateUpdate whiteUsername
          blackUsername playersReady gameplayStartsAtEpochMs).width ≤ StreamReader.defaultLimit) ∧
      (whiteUsername.toList.length ≤ Username.maxLength →
        blackUsername.toList.length ≤ Username.maxLength →
        ((new createInitialBoard eventBus).run load calls).entryCount ≤ 228 →
          FitsTransport json) ∧
      (384 ≤ ((new createInitialBoard eventBus).run load calls).entryCount →
        ¬ FitsTransport json) := by
  obtain ⟨least, most⟩ :=
    run_update_width load eventBus calls range white black playersReady start
  obtain ⟨json, written, length, oneLine⟩ :=
    run_update_written load eventBus calls range white black playersReady start
  have fits := fitsTransport_iff oneLine
  rw [length] at fits
  refine ⟨json, written, fits, fun whiteShort blackShort few => ?_, fun many fit => ?_⟩
  · have bound := most whiteShort blackShort
    refine fits.mpr (le_trans bound ?_)
    rw [StreamReader.defaultLimit]
    omega
  · have small := least.trans (fits.mp fit)
    rw [StreamReader.defaultLimit] at small
    omega

/-- The update of a game with a capture, a motion and a jump fits. -/
theorem run_update_fits_busy :
    ∃ json,
      serialize (((new createInitialBoard none).run .fallback busyCalls).stateUpdate "ann" "bob"
        true 9) = .ok json ∧
      (FitsTransport json ↔
        (((new createInitialBoard none).run .fallback busyCalls).stateUpdate "ann" "bob" true
          9).width ≤ StreamReader.defaultLimit) ∧
      ("ann".toList.length ≤ Username.maxLength → "bob".toList.length ≤ Username.maxLength →
        ((new createInitialBoard none).run .fallback busyCalls).entryCount ≤ 228 →
          FitsTransport json) ∧
      (384 ≤ ((new createInitialBoard none).run .fallback busyCalls).entryCount →
        ¬ FitsTransport json) :=
  run_update_fits .fallback none busyCalls busyCalls_inRange (by decide) (by decide) true
    (by decide)

/-! ## Hopping on the spot -/

/-- A pawn jumps, lands and cools down. -/
def hop : List Call := [.requestJump ⟨6, 0⟩, .wait 4000]

/-- An engine in which nothing happens and the pawn may jump. -/
structure Rested (engine : GameEngine) : Prop where
  ongoing : engine.gameOver = false
  scores : engine.whiteScore = 0 ∧ engine.blackScore = 0
  here : engine.board.getPieceAt ⟨6, 0⟩ = some 17
  idle : engine.stateOf 17 = .idle
  ready : (engine.pieces.get 17).cooldownUntilMs ≤ engine.getCurrentTimeMs
  cooldowns : ∀ cell ∈ engine.board.positions, ∀ piece ∈ engine.board.getPieceAt cell,
    (engine.pieces.get piece).totalCooldownMs < 2 ^ 63
  motions : engine.realTime.activeMotions = []
  jumps : engine.realTime.activeJumps = []

/-- Announcing an entry adds it to a history. -/
theorem Rested.announce {engine : GameEngine} (rested : engine.Rested) (entry : MoveHistoryEntry) :
    (engine.announce entry).Rested ∧
      (engine.announce entry).getCurrentTimeMs = engine.getCurrentTimeMs ∧
      (engine.announce entry).entryCount = engine.entryCount + 1 := by
  simp only [GameEngine.announce, publishMoveCompleted, publish, pushHistory]
  split
  · refine ⟨⟨rested.ongoing, rested.scores, rested.here, rested.idle, rested.ready,
      rested.cooldowns, rested.motions, rested.jumps⟩, rfl, ?_⟩
    simp only [entryCount, List.length_append, List.length_singleton]
    omega
  · refine ⟨⟨rested.ongoing, rested.scores, rested.here, rested.idle, rested.ready,
      rested.cooldowns, rested.motions, rested.jumps⟩, rfl, ?_⟩
    simp only [entryCount, List.length_append, List.length_singleton]
    omega

namespace Rested

variable {engine : GameEngine}

/-- The engine while the pawn is in the air. -/
theorem requestJump (rested : engine.Rested) :
    (engine.requestJump .fallback ⟨6, 0⟩).2 = engine.startJump .fallback 17 ⟨6, 0⟩ := by
  have inside := Board.isInside_of_getPieceAt rested.here
  have warm : (engine.pieces.get 17).isOnCooldown engine.getCurrentTimeMs = false := by
    rw [Piece.isOnCooldown, decide_eq_false (not_lt.mpr rested.ready), Bool.and_false]
  rw [GameEngine.requestJump, rested.ongoing, if_neg Bool.false_ne_true,
    if_neg (not_not.mpr inside),
    rested.here]
  dsimp only
  rw [if_neg]
  rintro (busy | cools)
  · exact busy rested.idle
  · rw [warm] at cools
    cases cools

/-- The landing of the jump. -/
def landing (engine : GameEngine) : JumpLandingEvent where
  piece := 17
  cell := ⟨6, 0⟩
  eventTimeMs := engine.getCurrentTimeMs + 1000

/-- The engine when the landing is due. -/
def aloft (engine : GameEngine) : GameEngine :=
  { engine.setState 17 .airborne with
    realTime := { engine.realTime with
      currentTimeMs := engine.getCurrentTimeMs + 4000
      activeMotions := []
      activeJumps := [] } }

theorem advanceTime (rested : engine.Rested) :
    (engine.startJump .fallback 17 ⟨6, 0⟩).advanceTime 4000 =
      ({ steps := [], jumpLandings := [landing engine] }, aloft engine) := by
  have due : engine.realTime.currentTimeMs + 1000 ≤ engine.realTime.currentTimeMs + 4000 := by omega
  have duration :
      (if (PieceConfigReader.fallback (engine.pieces.get 17).token "jump").jumpDurationMs
      ≤ 0 then 1 else
        (PieceConfigReader.fallback (engine.pieces.get 17).token "jump").jumpDurationMs) = 1000 :=
          rfl
  simp only [GameEngine.startJump, GameEngine.advanceTime, RealTimeArbiter.startJump,
    RealTimeArbiter.advanceTime, RealTimeArbiter.dueEvents, RealTimeArbiter.afterEvents, setState,
    modifyPiece, rested.motions, rested.jumps, duration]
  simp [due, landing, aloft, Jump.landingEvent, getCurrentTimeMs, setState, modifyPiece]

/-- The engine when the pawn has landed and its cooldown has passed. -/
def cooled (engine : GameEngine) : GameEngine :=
  ((aloft engine).setState 17 .idle).modifyPiece 17
    (·.startCooldown (engine.getCurrentTimeMs + 1000) 3000)

theorem cooled_rested (rested : engine.Rested) : (cooled engine).Rested where
  ongoing := rested.ongoing
  scores := rested.scores
  here := rested.here
  idle := by
    simp only [stateOf, cooled, modifyPiece, Heap.get_modify_self, Piece.startCooldown_state,
      setState, Piece.setState_state]
  ready := by
    have until_ : ((cooled engine).pieces.get 17).cooldownUntilMs =
        engine.getCurrentTimeMs + 1000 + 3000 := by
      simp only [cooled, modifyPiece, Heap.get_modify_self]
      rfl
    have clock : (cooled engine).getCurrentTimeMs = engine.getCurrentTimeMs + 4000 := rfl
    omega
  cooldowns := by
    intro cell member piece here
    by_cases pawn : piece = 17
    · simp only [pawn, cooled, modifyPiece, Heap.get_modify_self]
      exact (by decide : (3000 : Int) < 2 ^ 63)
    · simp only [cooled, aloft, setState, modifyPiece, Heap.get_modify_of_ne _ _ pawn]
      exact rested.cooldowns cell member piece here
  motions := rfl
  jumps := rfl

/-- The landing makes the entry of the jump. -/
theorem land (rested : engine.Rested) : ∃ entry,
    (aloft engine).processJumpLanding .fallback (landing engine) =
      (cooled engine).announce entry := by
  have airborne : (aloft engine).stateOf 17 = .airborne := by
    simp only [stateOf, aloft, setState, modifyPiece, Heap.get_modify_self, Piece.setState_state]
  have here : (aloft engine).board.getPieceAt ⟨6, 0⟩ = some 17 := rested.here
  rw [processJumpLanding, landing]
  dsimp only
  rw [if_neg (not_not.mpr airborne), if_neg (not_not.mpr here)]
  exact ⟨_, rfl⟩

/-- Without motions and jumps, advancing by nothing changes nothing. -/
theorem advanceTime_zero (rested : engine.Rested) : engine.advanceTime 0 = ({}, engine) := by
  have motions := rested.motions
  have jumps := rested.jumps
  obtain ⟨board, pieces, ⟨clock, active, flying, order⟩⟩ := engine
  cases motions
  cases jumps
  simp [GameEngine.advanceTime, RealTimeArbiter.advanceTime, RealTimeArbiter.dueEvents,
    RealTimeArbiter.afterEvents]

/-- **A hop** adds an entry and takes four seconds. -/
theorem run_hop (rested : engine.Rested) :
    (engine.run .fallback hop).Rested ∧
      (engine.run .fallback hop).getCurrentTimeMs = engine.getCurrentTimeMs + 4000 ∧
      (engine.run .fallback hop).entryCount = engine.entryCount + 1 := by
  obtain ⟨entry, landed⟩ := rested.land
  obtain ⟨restedAgain, clock, entries⟩ := rested.cooled_rested.announce entry
  have budget : (engine.startJump .fallback 17 ⟨6, 0⟩).dueBudget
      ((engine.startJump .fallback 17 ⟨6, 0⟩).getCurrentTimeMs + 4000) = 1 := by
    simp only [dueBudget, GameEngine.startJump, RealTimeArbiter.startJump, setState, modifyPiece,
      rested.motions, rested.jumps]
    rfl
  have pending : ({ jumpLandings := [landing engine] } : TimeEvents).isEmpty = false := rfl
  have waited : (engine.startJump .fallback 17 ⟨6, 0⟩).wait .fallback 4000 =
      (cooled engine).announce entry := by
    rw [wait, if_neg (by decide), rested.advanceTime]
    dsimp only
    rw [budget, drainEvents, pending, if_neg Bool.false_ne_true, applyTimeEvents, List.foldl_nil,
      List.foldl_cons, List.foldl_nil, landed, restedAgain.advanceTime_zero]
    rfl
  have after : engine.run .fallback hop = (cooled engine).announce entry := by
    rw [← waited, ← rested.requestJump]
    rfl
  rw [after]
  exact ⟨restedAgain, clock, entries⟩

end Rested

def hops (count : Nat) : List Call := (List.replicate count hop).flatten

theorem Rested.run_hops {engine : GameEngine} (rested : engine.Rested) (count : Nat) :
    (engine.run .fallback (hops count)).Rested ∧
      (engine.run .fallback (hops count)).getCurrentTimeMs =
        engine.getCurrentTimeMs + 4000 * count ∧
      (engine.run .fallback (hops count)).entryCount = engine.entryCount + count := by
  induction count generalizing engine with
  | zero => exact ⟨rested, by rw [Int.natCast_zero, Int.mul_zero, Int.add_zero]; rfl, rfl⟩
  | succ count ih =>
      obtain ⟨once, clock, entries⟩ := rested.run_hop
      obtain ⟨more, later, added⟩ := ih once
      have split : engine.run .fallback (hops (count + 1)) =
          (engine.run .fallback hop).run .fallback (hops count) := by
        rw [hops, List.replicate_succ, List.flatten_cons]
        exact Trace.run_append _ _ _ _
      rw [split]
      refine ⟨more, ?_, ?_⟩
      · rw [later, clock]
        omega
      · rw [added, entries]
        omega

theorem Rested.inRange {engine : GameEngine} (rested : engine.Rested)
    (clock : engine.getCurrentTimeMs < 2 ^ 63) : engine.InRange where
  clock := clock
  whiteScore := rested.scores.1 ▸ by decide
  blackScore := rested.scores.2 ▸ by decide
  cooldowns := rested.cooldowns
  stepDurations := fun motion member => absurd (rested.motions ▸ member) List.not_mem_nil
  nextSteps := fun motion member => absurd (rested.motions ▸ member) List.not_mem_nil
  orders := fun motion member => absurd (rested.motions ▸ member) List.not_mem_nil
  finishTimes := fun jump member => absurd (rested.jumps ▸ member) List.not_mem_nil

/-- A pawn that jumps again and again makes an update that nobody can send. -/
theorem hopping_update_tooLarge :
    ∃ json,
      serialize (((new createInitialBoard none).run .fallback (hops 6500)).stateUpdate "ann" "bob"
        true 1) = .ok json ∧ ¬ FitsTransport json ∧
      ∀ taken, TcpConnection.sendMessage true taken json =
        .error "TcpConnection: message is too large" := by
  have start : (new createInitialBoard none).Rested :=
    ⟨rfl, ⟨rfl, rfl⟩, by decide +kernel, by decide +kernel, by decide +kernel, by decide +kernel,
      rfl, rfl⟩
  obtain ⟨rested, clock, entries⟩ := start.run_hops 6500
  have range := rested.inRange (clock ▸ by decide)
  obtain ⟨json, written, length, oneLine⟩ := run_update_written .fallback none (hops 6500) range
    (by decide : IsText "ann") (by decide : IsText "bob") true (by decide : IsCount 1)
  have least := (run_update_width .fallback none (hops 6500) range (by decide : IsText "ann")
    (by decide : IsText "bob") true (by decide : IsCount 1)).1
  have count : (new createInitialBoard none).entryCount = 0 := rfl
  rw [entries, count, ← length] at least
  have large : ¬ json.length ≤ TcpConnection.maxMessageBytes := by
    rw [TcpConnection.maxMessageBytes]
    omega
  refine ⟨json, written, fun fits => ?_, fun taken => ?_⟩
  · have small := (fitsTransport_iff oneLine).mp fits
    rw [StreamReader.defaultLimit] at small
    omega
  · rw [TcpConnection.sendMessage, require_ok rfl, Except.ok_bind, require, if_neg large]
    rfl

end GameEngine

end KungFuChess

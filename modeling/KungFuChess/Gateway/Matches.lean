import KungFuChess.Gateway.Allocator
import KungFuChess.Gateway.RoomManager
import KungFuChess.Gateway.Winner

/-!
# The table of matches

What `MatchManager` does under its lock: the matches that are being played are
stored under their rooms, moves and jumps claim sequence numbers, the messages of
the game server are routed to the clients, and whoever ends a match takes it out
of the table. What has to be sent is an output of the section and is sent after it.

A message of the game server is the `Message` that its JSON text stands for.
-/

set_option autoImplicit false

namespace KungFuChess

structure MatchOperationError where
  code : String
  message : String
  deriving DecidableEq, Repr

/-- A call of `start_match`. -/
abbrev StartId := Nat

/-- A match that is being played. The owner of a sequence number is the connection that used
it; `start`, the call that made the object, stands for the identity of the object. -/
structure ActiveMatch where
  room : GameRoom
  start : StartId := 0
  revision : Nat := 1
  snapshot : GameStateSnapshot := {}
  gameStartsAt : Int
  shard : GameServerShard
  sequenceOwners : AList fun _ : String × Int => ConnectionId := ∅

/-- The matches that are being played. -/
structure MatchManager where
  matches_ : AList fun _ : RoomId => ActiveMatch := ∅

/-- What a web client is told of its match. -/
inductive ClientMessage where
  | moveResult (roomId : RoomId) (sequence : Int) (accepted : Bool) (reason : String)
  | matchState (roomId : RoomId) (revision : Nat) (state : GameStateSnapshot)
  deriving DecidableEq, Repr

/-- A message and the web socket it goes to. -/
structure Delivery where
  websocket : ConnectionId
  message : ClientMessage
  deriving DecidableEq, Repr

/-- The players and the spectators of a room, in the order in which they are told. -/
def GameRoom.participants (room : GameRoom) : List ConnectedUser :=
  -- The newest spectator of the table comes first, the oldest of the source's.
  room.white.toList ++ room.black.toList ++ room.spectators.entries.reverse.map Sigma.snd

/-- The colour that a user plays. -/
def GameRoom.colorOf (room : GameRoom) (userId : UserId) : Option String :=
  if GameRoom.isUser userId room.white then some "white"
  else if GameRoom.isUser userId room.black then some "black"
  else none

namespace ActiveMatch

/-- The result of an action goes to the owner of its sequence number, which is free again. -/
def resolveSequence (found : ActiveMatch) (roomId : RoomId) (color : String)
    (message : Message) : List Delivery × ActiveMatch :=
  if message.type = .moveAccepted ∨ message.type = .moveRejected then
    match found.sequenceOwners.lookup (color, (message.sequence : Int)) with
    | none => ([], found)
    | some owner =>
        ([⟨owner, .moveResult roomId message.sequence message.accepted message.reason⟩],
          { found with
            sequenceOwners := found.sequenceOwners.erase (color, (message.sequence : Int)) })
  else ([], found)

/-- A snapshot that differs from the stored one replaces it and goes to all participants. -/
def storeSnapshot (found : ActiveMatch) (roomId : RoomId) (message : Message) :
    List Delivery × ActiveMatch :=
  if message.hasSnapshot ∧ message.snapshot ≠ found.snapshot then
    (found.room.participants.map fun participant =>
        ⟨participant.websocket, .matchState roomId (found.revision + 1) message.snapshot⟩,
      { found with snapshot := message.snapshot, revision := found.revision + 1 })
  else ([], found)

end ActiveMatch

/-- What `_handle_bridge_event` is left with when it gives up the lock. -/
structure BridgeOutcome where
  deliveries : List Delivery := []
  finishes : Bool := false

namespace MatchManager

/-- The section in which `start_match` stores the match. -/
def register (manager : MatchManager) (roomId : RoomId) (started : ActiveMatch) :
    MatchManager :=
  { manager with matches_ := manager.matches_.insert roomId started }

/-- The first section of `_finish_match` and of `cleanup_room`. -/
def pop (manager : MatchManager) (roomId : RoomId) : Option ActiveMatch × MatchManager :=
  (manager.matches_.lookup roomId, { manager with matches_ := manager.matches_.erase roomId })

/-- The part of `move` and `_validate_and_send_jump` that runs under the lock: the
colour of the player, whose sequence number is now taken. -/
def claimSequence (manager : MatchManager) (now : Int) (roomId : RoomId) (userId : UserId)
    (websocket : ConnectionId) (sequence : Int) (notAPlayer duplicate : String) :
    Except MatchOperationError (String × MatchManager) :=
  match manager.matches_.lookup roomId with
  | none => .error ⟨"match_not_found", "The match is not active."⟩
  | some found =>
      if now < found.gameStartsAt then
        .error ⟨"match_not_started", "The match countdown is still active."⟩
      else
        let claim (color : String) : Except MatchOperationError (String × MatchManager) :=
          if (color, sequence) ∈ found.sequenceOwners then .error ⟨"duplicate_sequence", duplicate⟩
          else
            .ok (color, { manager with
              matches_ := manager.matches_.insert roomId { found with
                sequenceOwners := found.sequenceOwners.insert (color, sequence) websocket } })
        if GameRoom.isUser userId found.room.white then claim "white"
        else if GameRoom.isUser userId found.room.black then claim "black"
        else .error ⟨"not_a_player", notAPlayer⟩

/-- `_handle_bridge_event`, of a message that came on the connection of a colour: its
section, what it sends, and whether it starts a task that finishes the match. -/
def handleBridgeEvent (manager : MatchManager) (roomId : RoomId) (color : String)
    (message : Message) : BridgeOutcome × MatchManager :=
  match manager.matches_.lookup roomId with
  | none => ({}, manager)
  | some found =>
      let (results, resolved) := found.resolveSequence roomId color message
      let (updates, stored) := resolved.storeSnapshot roomId message
      ({ deliveries := results ++ updates
         finishes := message.hasSnapshot && message.snapshot.gameOver },
        { manager with matches_ := manager.matches_.insert roomId stored })

/-- The checks that are made under the lock. -/
def Claimable (manager : MatchManager) (now : Int) (roomId : RoomId) (userId : UserId)
    (sequence : Int) (color : String) : Prop :=
  ∃ found, manager.matches_.lookup roomId = some found ∧ found.gameStartsAt ≤ now ∧
    found.room.colorOf userId = some color ∧ (color, sequence) ∉ found.sequenceOwners

/-! ## The sections as equations -/

section Sections

variable {manager : MatchManager} {roomId : RoomId}

theorem handleBridgeEvent_absent (absent : manager.matches_.lookup roomId = none)
    (color : String) (message : Message) :
    manager.handleBridgeEvent roomId color message = ({}, manager) := by
  rw [handleBridgeEvent, absent]

/-- An accepted action takes a sequence number that was free, and changes nothing else. -/
theorem claimSequence_ok {now : Int} {userId : UserId} {websocket : ConnectionId}
    {sequence : Int} {notAPlayer duplicate color : String} {claimed : MatchManager}
    (accepted : manager.claimSequence now roomId userId websocket sequence notAPlayer duplicate =
      .ok (color, claimed)) :
    ∃ found, manager.matches_.lookup roomId = some found ∧
      (color, sequence) ∉ found.sequenceOwners ∧
      claimed = manager.register roomId { found with
        sequenceOwners := found.sequenceOwners.insert (color, sequence) websocket } := by
  rw [claimSequence] at accepted
  cases stored : manager.matches_.lookup roomId with
  | none =>
      rw [stored] at accepted
      cases accepted
  | some found =>
      simp only [stored] at accepted
      split at accepted
      · cases accepted
      · split at accepted
        · split at accepted
          · cases accepted
          · next free =>
              cases accepted
              exact ⟨found, rfl, free, rfl⟩
        · split at accepted
          · split at accepted
            · cases accepted
            · next free =>
                cases accepted
                exact ⟨found, rfl, free, rfl⟩
          · cases accepted

variable {now : Int} {userId : UserId} {websocket : ConnectionId}

/-- The section once the match is found and has begun. -/
theorem claimSequence_eq {found : ActiveMatch}
    (stored : manager.matches_.lookup roomId = some found) (begun : found.gameStartsAt ≤ now)
    (sequence : Int) (notAPlayer duplicate : String) :
    manager.claimSequence now roomId userId websocket sequence notAPlayer duplicate =
      match found.room.colorOf userId with
      | none => .error ⟨"not_a_player", notAPlayer⟩
      | some color =>
          if (color, sequence) ∈ found.sequenceOwners then .error ⟨"duplicate_sequence", duplicate⟩
          else
            .ok (color, manager.register roomId { found with
              sequenceOwners := found.sequenceOwners.insert (color, sequence) websocket }) := by
  rw [claimSequence, stored]
  simp only [if_neg (not_lt.mpr begun), GameRoom.colorOf]
  by_cases white : GameRoom.isUser userId found.room.white = true
  · simp only [if_pos white]
    rfl
  · by_cases black : GameRoom.isUser userId found.room.black = true
    · simp only [if_neg white, if_pos black]
      rfl
    · simp only [if_neg white, if_neg black]

/-- A user plays one colour. -/
theorem Claimable.unique {first second : Int} {own color : String}
    (left : manager.Claimable now roomId userId first own)
    (right : manager.Claimable now roomId userId second color) : own = color := by
  obtain ⟨found, stored, -, plays, -⟩ := left
  obtain ⟨same, again, -, also, -⟩ := right
  rw [stored] at again
  cases again
  rw [plays] at also
  exact Option.some.inj also

theorem claimSequence_ok_iff {sequence : Int} {notAPlayer duplicate color : String} :
    (∃ claimed, manager.claimSequence now roomId userId websocket sequence notAPlayer duplicate =
        .ok (color, claimed)) ↔
      manager.Claimable now roomId userId sequence color := by
  rw [Claimable]
  cases stored : manager.matches_.lookup roomId with
  | none => simp [claimSequence, stored]
  | some found =>
      by_cases begun : found.gameStartsAt ≤ now
      · simp only [claimSequence_eq stored begun, Option.some.injEq, exists_eq_left', begun,
          true_and]
        cases plays : found.room.colorOf userId with
        | none => simp
        | some own =>
            by_cases taken : (own, sequence) ∈ found.sequenceOwners
            · simp only [if_pos taken, Option.some.injEq]
              refine iff_of_false (fun ok => ?_) fun free => free.2 (free.1 ▸ taken)
              obtain ⟨claimed, refused⟩ := ok
              cases refused
            · simp only [if_neg taken, Option.some.injEq]
              constructor
              · rintro ⟨claimed, accepted⟩
                cases accepted
                exact ⟨rfl, taken⟩
              · rintro ⟨rfl, free⟩
                exact ⟨_, rfl⟩
      · simp [claimSequence, stored, begun, not_le.mp begun]

end Sections

end MatchManager

end KungFuChess

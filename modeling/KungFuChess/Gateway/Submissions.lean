import KungFuChess.Gateway.Moves

/-!
# What a failed action leaves behind

`move` and `jump` claim a sequence number under the lock and then write to the game
server. The check for the number and the write are one section, the drain of the stream is
awaited after it. An exception of the bridge is caught by nobody, and nothing gives the
number back.

The bridge of a match is known by the colours in its `_players`, which is emptied when the
bridge is closed. Whether a drain raises is up to the network.
-/

set_option autoImplicit false

namespace KungFuChess

/-- A call of `move` or of `jump`. -/
inductive PlayerAction where
  | move (sequence source destination : PythonValue)
  | jump (sequence cell : PythonValue)

namespace PlayerAction

open MatchManager (isCell positiveSequence sendAction)

/-- The number of an action that is well formed. -/
def number? : PlayerAction → Option Int
  | .move sequence source destination =>
      (positiveSequence sequence).filter fun _ => isCell source && isCell destination
  | .jump sequence cell => (positiveSequence sequence).filter fun _ => isCell cell

/-- What the game server is sent on the connection of a colour. -/
def sent (color : String) : PlayerAction → SentLine
  | .move sequence source destination =>
      sendAction color "move_request" sequence source destination
  | .jump sequence cell => sendAction color "jump_request" sequence cell cell

def notAPlayer : PlayerAction → String
  | .move .. => "Only room players may submit moves."
  | .jump .. => "Only room players may submit jumps."

def duplicate : PlayerAction → String
  | .move .. => "Move sequence was already submitted."
  | .jump .. => "Action sequence was already submitted."

end PlayerAction

/-- An exception that leaves a call. -/
inductive ActionError where
  | operation (error : MatchOperationError)
  /-- `_players` has no connection of the colour. -/
  | keyError (color : String)
  /-- The drain of the stream raises. -/
  | connectionError
  deriving DecidableEq, Repr

/-- How a call ends: what it raises, what it has written and the table that its section leaves. -/
structure ActionOutcome where
  raised : Option ActionError := none
  written : List SentLine := []
  manager : MatchManager

namespace MatchManager

/-- The section of a call. -/
def perform (manager : MatchManager) (now : Int) (roomId : RoomId) (userId : UserId)
    (websocket : ConnectionId) :
    PlayerAction → Except MatchOperationError (SentLine × MatchManager)
  | .move sequence source destination =>
      manager.move now roomId userId websocket sequence source destination
  | .jump sequence cell => manager.jump now roomId userId websocket sequence cell

/-- A whole call, by the colours that the bridge has connections of and whether the drain
returns. -/
def submit (manager : MatchManager) (players : List String) (drains : Bool) (now : Int)
    (roomId : RoomId) (userId : UserId) (websocket : ConnectionId) (action : PlayerAction) :
    ActionOutcome :=
  match manager.perform now roomId userId websocket action with
  | .error error => { raised := some (.operation error), manager := manager }
  | .ok (line, claimed) =>
      if line.color ∉ players then
        { raised := some (.keyError line.color), manager := claimed }
      else if drains then { written := [line], manager := claimed }
      else { raised := some .connectionError, written := [line], manager := claimed }

/-- What `_handle_room_message` makes of a call: the error it answers with, if any. Only an
operation error is caught. -/
def answerAction (outcome : ActionOutcome) : Except ActionError (Option MatchOperationError) :=
  match outcome.raised with
  | none => .ok none
  | some (.operation error) => .ok (some error)
  | some other => .error other

end MatchManager

/-- A call has forwarded its action, or it raises an operation error and leaves the table as it
was. -/
def ActionOutcome.IsClean (outcome : ActionOutcome) (before : MatchManager)
    (action : PlayerAction) : Prop :=
  (outcome.raised = none ∧ ∃ color, outcome.written = [action.sent color]) ∨
    ∃ error, outcome.raised = some (.operation error) ∧ outcome.written = [] ∧
      outcome.manager = before

namespace MatchManager

/-! ## Which calls pass the checks -/

section Checks

variable {manager : MatchManager} {now : Int} {roomId : RoomId} {userId : UserId}
  {websocket : ConnectionId}

theorem perform_some {action : PlayerAction} {number : Int}
    (formed : action.number? = some number) :
    manager.perform now roomId userId websocket action = do
      let (color, claimed) ← manager.claimSequence now roomId userId websocket number
        action.notAPlayer action.duplicate
      return (action.sent color, claimed) := by
  cases action with
  | move sequence source destination =>
      obtain ⟨positive, cells⟩ := Option.filter_eq_some_iff.mp formed
      simp only [perform, move, positive]
      exact if_neg (not_not.mpr cells)
  | jump sequence cell =>
      obtain ⟨positive, isCell⟩ := Option.filter_eq_some_iff.mp formed
      simp only [perform, jump, positive]
      exact if_neg (not_not.mpr isCell)

theorem perform_none {action : PlayerAction} (malformed : action.number? = none) :
    ∃ error, manager.perform now roomId userId websocket action = .error error := by
  cases action with
  | move sequence source destination =>
      simp only [perform, move]
      cases positive : positiveSequence sequence with
      | none => exact ⟨_, rfl⟩
      | some number =>
          rw [PlayerAction.number?, positive] at malformed
          have cells := Option.filter_eq_none_iff.mp malformed number rfl
          exact ⟨_, if_pos cells⟩
  | jump sequence cell =>
      simp only [perform, jump]
      cases positive : positiveSequence sequence with
      | none => exact ⟨_, rfl⟩
      | some number =>
          rw [PlayerAction.number?, positive] at malformed
          have isCell := Option.filter_eq_none_iff.mp malformed number rfl
          exact ⟨_, if_pos isCell⟩

/-- A call that passes is registered and sends its action. -/
theorem perform_ok_iff {action : PlayerAction} {line : SentLine} :
    (∃ claimed, manager.perform now roomId userId websocket action = .ok (line, claimed)) ↔
      ∃ number color, action.number? = some number ∧
        manager.Claimable now roomId userId number color ∧ line = action.sent color := by
  cases formed : action.number? with
  | none =>
      obtain ⟨error, refused⟩ : ∃ error,
        manager.perform now roomId userId websocket action = .error error := perform_none formed
      simp [refused]
  | some number =>
      rw [perform_some formed]
      constructor
      · rintro ⟨claimed, accepted⟩
        obtain ⟨⟨color, _⟩, claim, returned⟩ := Except.bind_eq_ok.mp accepted
        cases returned
        exact ⟨number, color, rfl, claimSequence_ok_iff.mp ⟨_, claim⟩, rfl⟩
      · rintro ⟨_, color, ⟨⟩, claimable, rfl⟩
        obtain ⟨claimed, claim⟩ := claimSequence_ok_iff.mpr claimable
        exact ⟨claimed, Except.bind_eq_ok.mpr ⟨_, claim, rfl⟩⟩

end Checks

/-! ## How a call ends -/

section Calls

variable {manager : MatchManager} {players : List String} {drains : Bool} {now : Int}
  {roomId : RoomId} {userId : UserId} {websocket : ConnectionId} {action : PlayerAction}
  {color : String} {claimed : MatchManager}

theorem submit_error {error : MatchOperationError}
    (refused : manager.perform now roomId userId websocket action = .error error) :
    manager.submit players drains now roomId userId websocket action =
      { raised := some (.operation error), manager := manager } := by
  rw [submit, refused]

theorem submit_ok
    (accepted : manager.perform now roomId userId websocket action =
      .ok (action.sent color, claimed)) :
    manager.submit players drains now roomId userId websocket action =
      if color ∉ players then { raised := some (.keyError color), manager := claimed }
      else if drains then { written := [action.sent color], manager := claimed }
      else
        { raised := some .connectionError, written := [action.sent color],
          manager := claimed } := by
  have own : (action.sent color).color = color := by cases action <;> rfl
  simp only [submit, accepted, own]

/-- An exception of the bridge leaves the number claimed. -/
theorem submit_fails
    (accepted : manager.perform now roomId userId websocket action =
      .ok (action.sent color, claimed)) (fails : ¬ (color ∈ players ∧ drains = true)) :
    ∃ raised written, (∀ error, raised ≠ .operation error) ∧
      manager.submit players drains now roomId userId websocket action =
        { raised := some raised, written := written, manager := claimed } := by
  rw [submit_ok accepted]
  by_cases connected : color ∈ players
  · refine ⟨.connectionError, [action.sent color], fun _ => ActionError.noConfusion, ?_⟩
    rw [if_neg (not_not.mpr connected), if_neg fun returns => fails ⟨connected, returns⟩]
  · exact ⟨.keyError color, [], fun _ => ActionError.noConfusion, if_pos connected⟩

end Calls

/-- **When a failed action leaves no trace**: a call is clean, and leaves the handler without an
exception, just if it fails a check, or the bridge has the connection of its colour and the drain
returns. -/
theorem submit_clean_iff (manager : MatchManager) (players : List String) (drains : Bool)
    (now : Int) (roomId : RoomId) (userId : UserId) (websocket : ConnectionId)
    (action : PlayerAction) :
    ((manager.submit players drains now roomId userId websocket action).IsClean manager action ↔
        ∀ number color, action.number? = some number →
          manager.Claimable now roomId userId number color → color ∈ players ∧ drains = true) ∧
      ((∃ answer, answerAction (manager.submit players drains now roomId userId websocket action) =
          .ok answer) ↔
        (manager.submit players drains now roomId userId websocket action).IsClean manager
          action) := by
  cases performed : manager.perform now roomId userId websocket action with
  | error error =>
      have clean : ActionOutcome.IsClean { raised := some (.operation error), manager := manager }
          manager action := .inr ⟨error, rfl, rfl, rfl⟩
      rw [submit_error performed]
      refine ⟨iff_of_true clean fun number color formed claimable => ?_,
        iff_of_true ⟨some error, rfl⟩ clean⟩
      obtain ⟨claimed, accepted⟩ := perform_ok_iff.mpr ⟨number, color, formed, claimable, rfl⟩
      rw [performed] at accepted
      cases accepted
  | ok result =>
      obtain ⟨line, claimed⟩ := result
      obtain ⟨number, color, formed, claimable, rfl⟩ := perform_ok_iff.mp ⟨claimed, performed⟩
      by_cases reaches : color ∈ players ∧ drains = true
      · rw [submit_ok performed, if_neg (not_not.mpr reaches.1), if_pos reaches.2]
        have clean : ActionOutcome.IsClean { written := [action.sent color], manager := claimed }
            manager action := .inl ⟨rfl, color, rfl⟩
        refine ⟨iff_of_true clean fun other own _ also => ?_, iff_of_true ⟨none, rfl⟩ clean⟩
        rwa [also.unique claimable]
      · obtain ⟨raised, written, notOperation, failed⟩ := submit_fails performed reaches
        rw [failed]
        have unclean : ¬ ActionOutcome.IsClean
            { raised := some raised, written := written, manager := claimed } manager action := by
          rintro (⟨returned, -⟩ | ⟨error, operation, -⟩)
          · cases returned
          · exact notOperation error (Option.some.inj operation)
        refine ⟨iff_of_false unclean fun all => reaches (all number color formed claimable),
          iff_of_false (fun answered => ?_) unclean⟩
        obtain ⟨answer, answered⟩ := answered
        cases raised with
        | operation error => exact notOperation error rfl
        | keyError _ | connectionError => cases answered

/-- After an exception of the bridge the number is used up: no later action of the player with
it passes, whatever becomes of the connection. -/
theorem submit_fails_taken {manager : MatchManager} {players : List String} {drains : Bool}
    {now : Int} {roomId : RoomId} {userId : UserId} {websocket : ConnectionId}
    {action : PlayerAction}
    (fails : ¬ (manager.submit players drains now roomId userId websocket action).IsClean manager
      action) {other : PlayerAction} (again : other.number? = action.number?) {later : Int}
    (after : now ≤ later) (players' : List String) (drains' : Bool) (websocket' : ConnectionId) :
    ((manager.submit players drains now roomId userId websocket action).manager.submit players'
      drains' later roomId userId websocket' other).raised =
        some (.operation ⟨"duplicate_sequence", other.duplicate⟩) := by
  have broken : ∃ number color, action.number? = some number ∧
      manager.Claimable now roomId userId number color ∧ ¬ (color ∈ players ∧ drains = true) := by
    by_contra none
    refine fails ((submit_clean_iff ..).1.mpr fun number color formed claimable => ?_)
    exact by_contra fun broken => none ⟨number, color, formed, claimable, broken⟩
  obtain ⟨number, color, formed, ⟨found, stored, begun, plays, free⟩, broken⟩ := broken
  have accepted : manager.perform now roomId userId websocket action =
      .ok (action.sent color, manager.register roomId { found with
        sequenceOwners := found.sequenceOwners.insert (color, number) websocket }) := by
    rw [perform_some formed, claimSequence_eq stored begun, plays]
    exact Except.bind_eq_ok.mpr ⟨_, if_neg free, rfl⟩
  obtain ⟨raised, written, -, failed⟩ := submit_fails accepted broken
  have refused : (manager.register roomId { found with
      sequenceOwners := found.sequenceOwners.insert (color, number) websocket }).perform later
        roomId userId websocket' other = .error ⟨"duplicate_sequence", other.duplicate⟩ := by
    have registered : (manager.register roomId { found with
        sequenceOwners := found.sequenceOwners.insert (color, number) websocket }).matches_.lookup
          roomId = some _ := AList.lookup_insert manager.matches_
    rw [perform_some (again.trans formed), claimSequence_eq registered (begun.trans after)]
    simp only [plays, AList.mem_insert, true_or, if_true]
    rfl
  rw [failed, submit_error refused]

/-- White moves a pawn by two squares. -/
def pawnMove : PlayerAction :=
  .move (.int 1) (GameServerBridge.position 6 4) (GameServerBridge.position 4 4)

/-- The connection of White is lost, and the drain raises. -/
def lostConnection : ActionOutcome :=
  oneMatch.submit ["white", "black"] false 1 7 1 11 pawnMove

/-- A `ConnectionError` leaves the handler, the number stays in the table, and the same action is
refused although the connection stands again. -/
theorem lostConnection_unclean :
    ¬ lostConnection.IsClean oneMatch pawnMove ∧
      answerAction lostConnection = .error .connectionError ∧
      (lostConnection.manager.submit ["white", "black"] true 2 7 1 11 pawnMove).raised =
        some (.operation ⟨"duplicate_sequence", "Move sequence was already submitted."⟩) := by
  refine ⟨?_, rfl, rfl⟩
  rintro (⟨returned, -⟩ | ⟨error, operation, -⟩)
  · cases returned
  · cases operation

end MatchManager

end KungFuChess

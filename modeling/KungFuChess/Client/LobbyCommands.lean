import KungFuChess.Client.LobbyRequests
import KungFuChess.Gateway.Submissions

/-!
# How the lobby client numbers its commands

A match that opens starts with the number one; each command of the player, sent or not,
takes the next number, and nothing else touches it. So the commands since a match opened
are numbered one by one, all of that match, and each passes the checks that the gateway
makes of its form.
-/

set_option autoImplicit false

namespace KungFuChess

namespace Lobby

/-! ## Commands on the wire -/

/-- The cell of a command, as the gateway's parser leaves it. -/
def cellValue (cell : Position) : PythonValue :=
  .record [("row", .int cell.row), ("col", .int cell.col)]

namespace TransportCall

/-- `LobbyProtocol::moveRequest` and `jumpRequest`: the room of a command, and what the
gateway makes of the rest. -/
def command? : TransportCall → Option (String × PlayerAction)
  | .sendMove roomId sequence source destination =>
      some (roomId, .move (.int sequence) (cellValue source) (cellValue destination))
  | .sendJump roomId sequence cell => some (roomId, .jump (.int sequence) (cellValue cell))
  | _ => none

end TransportCall

theorem isCell_cellValue {cell : Position} (board : Protocol.isBoardPosition cell) :
    MatchManager.isCell (cellValue cell) = true := by
  have row : (cellValue cell).get "row" = .int cell.row := by
    simp only [cellValue, PythonValue.record, PythonValue.get, List.map_cons, List.map_nil,
      Prod.map, id, List.lookup_cons_self, Option.getD_some]
  have distinct : (codePoints "col" == codePoints "row") = false := by decide
  have col : (cellValue cell).get "col" = .int cell.col := by
    simp only [cellValue, PythonValue.record, PythonValue.get, List.map_cons, List.map_nil,
      Prod.map, id, List.lookup_cons, distinct, beq_self_eq_true, Option.getD_some]
  simp only [MatchManager.isCell, row, col, PythonValue.asInt, Option.any_some, Bool.and_eq_true,
    decide_eq_true_eq]
  exact ⟨⟨rfl, board.1, board.2.1⟩, board.2.2.1, board.2.2.2⟩

/-- What the gateway checks of a command: its room, and its number where it is well formed. -/
def numbered (command : String × PlayerAction) : String × Option Int :=
  (command.1, command.2.number?)

theorem numbered_sendMove {roomId : String} {sequence : Nat} {source destination : Position}
    (positive : 1 ≤ sequence) (isSource : Protocol.isBoardPosition source)
    (isDestination : Protocol.isBoardPosition destination) :
    (TransportCall.sendMove roomId sequence source destination).command?.map numbered =
      some (roomId, some (sequence : Int)) := by
  have counted : (1 : Int) ≤ sequence := by omega
  simp only [TransportCall.command?, Option.map_some, numbered, PlayerAction.number?,
    MatchManager.positiveSequence, if_pos counted, isCell_cellValue isSource,
    isCell_cellValue isDestination, Option.filter_some, Bool.and_true, if_true]

theorem numbered_sendJump {roomId : String} {sequence : Nat} {cell : Position}
    (positive : 1 ≤ sequence) (isCell : Protocol.isBoardPosition cell) :
    (TransportCall.sendJump roomId sequence cell).command?.map numbered =
      some (roomId, some (sequence : Int)) := by
  have counted : (1 : Int) ≤ sequence := by omega
  simp only [TransportCall.command?, Option.map_some, numbered, PlayerAction.number?,
    MatchManager.positiveSequence, if_pos counted, isCell_cellValue isCell, Option.filter_some,
    if_true]

namespace LobbyController

/-- The commands among calls. -/
def commandsOf (calls : List TransportCall) : List (String × PlayerAction) :=
  calls.filterMap TransportCall.command?

theorem numbered_commandsOf {call : TransportCall} {number : String × Option Int}
    (same : call.command?.map numbered = some number) :
    (commandsOf [call]).map numbered = [number] := by
  obtain ⟨command, isCommand, rfl⟩ := Option.map_eq_some_iff.mp same
  rw [commandsOf, List.filterMap_cons_some isCommand]
  rfl

/-! ## What one input does to the match -/

/-- The player selects an own piece of the match shown. -/
def Selects (controller : LobbyController) (input : LobbyInput) (cell : Position) : Prop :=
  input = .boardClick cell.row cell.col ∧
    ∃ shown ∈ controller.playable cell, holdsOwnPiece shown cell = true

/-- Where a match that is shown after an input comes from. -/
inductive Origin (controller : LobbyController) (input : LobbyInput)
    (commands : List (String × PlayerAction)) (shown : AuthoritativeMatchView) : Prop where
  /-- It goes on, with a selection that it had or that is made now. -/
  | goesOn (old : AuthoritativeMatchView) (was : old ∈ controller.state.view.shownMatch)
      (room : old.roomId = shown.roomId) (next : old.nextSequence = shown.nextSequence)
      (silent : commands = [])
      (selected : ∀ cell ∈ shown.selectedSource, cell ∈ old.selectedSource ∨
        controller.Selects input cell)
  /-- A command took its next number. -/
  | commanded (old : AuthoritativeMatchView) (was : old ∈ controller.state.view.shownMatch)
      (room : old.roomId = shown.roomId) (next : old.nextSequence + 1 = shown.nextSequence)
      (command : 1 ≤ old.nextSequence →
        commands.map numbered = [(shown.roomId, some (old.nextSequence : Int))])
      (unselected : shown.selectedSource = none)
  /-- An event of a tick opened it. -/
  | opened (readings : TickReadings) (isTick : input = .tick readings) (event : LobbyEvent)
      (member : .protocol event ∈ readings.events) (opens : event.Opens shown.roomId)
      (first : shown.nextSequence = 1) (silent : commands = [])
      (unselected : shown.selectedSource = none)

/-- A handler that leaves the match, or takes it away, and makes no command. -/
def Leaves (controller : LobbyController) (handled : Handled) : Prop :=
  commandsOf handled.1 = [] ∧
    ∀ shown ∈ handled.2.state.view.shownMatch, shown ∈ controller.state.view.shownMatch

variable {controller : LobbyController}

theorem Leaves.origin {handled : Handled} (leaves : Leaves controller handled)
    (input : LobbyInput) : ∀ shown ∈ handled.2.state.view.shownMatch,
      Origin controller input (commandsOf handled.1) shown :=
  fun shown isShown =>
    .goesOn shown (leaves.2 shown isShown) rfl rfl leaves.1 fun _ isSource => .inl isSource

theorem Leaves.silent {after : LobbyController}
    (same : after.state.view.shownMatch = controller.state.view.shownMatch) :
    Leaves controller ([], after) :=
  ⟨rfl, fun _ isShown => same ▸ isShown⟩

theorem firstCall_command? (task : AuthenticationTask) : task.firstCall.command? = none := by
  unfold AuthenticationTask.firstCall
  split
  · rfl
  · rfl

theorem beginAuthentication_leaves (registration : Bool) :
    Leaves controller (controller.beginAuthentication registration) := by
  unfold beginAuthentication
  split
  · exact .silent rfl
  · split
    · exact .silent rfl
    · exact ⟨List.filterMap_cons_none (firstCall_command? _), fun _ isShown => isShown⟩

theorem roomAction_leaves (replies : TransportReplies) (pending : PendingLobbyAction)
    (roomId : String) {call : TransportCall} (message : String) (other : call.command? = none) :
    Leaves controller (controller.roomAction replies pending roomId call message) := by
  unfold roomAction
  split
  · refine ⟨List.filterMap_cons_none other, fun shown isShown => ?_⟩
    dsimp only at isShown
    split at isShown
    · exact isShown
    · exact isShown
  · exact .silent rfl

theorem handle_leaves (replies : TransportReplies) (action : LobbyAction) :
    Leaves controller (controller.handle replies action) := by
  cases action with
  | focusConfirmPassword =>
      rw [handle]
      refine .silent ?_
      split
      · rfl
      · rfl
  | toggleAuthMode =>
      refine .silent ?_
      unfold toggleAuthMode
      split
      · rfl
      · rfl
  | login => exact beginAuthentication_leaves false
  | register =>
      rw [handle, register]
      split
      · split
        · exact .silent rfl
        · split
          · exact .silent rfl
          · split
            · exact .silent rfl
            · exact beginAuthentication_leaves true
      · exact beginAuthentication_leaves true
  | openCreateRoom =>
      rw [handle]
      refine .silent ?_
      split
      · rfl
      · rfl
  | openJoinHidden =>
      rw [handle]
      refine .silent ?_
      split
      · rfl
      · rfl
  | openMatchHistory =>
      rw [handle]
      split
      · exact ⟨rfl, fun _ isShown => isShown⟩
      · exact .silent rfl
  | submitCreateRoom =>
      rw [handle, submitCreateRoom]
      dsimp only
      split
      · exact .silent rfl
      · split
        · exact .silent rfl
        · exact roomAction_leaves replies _ _ _ rfl
  | submitHiddenCode =>
      rw [handle, submitHiddenCode]
      split
      · exact .silent rfl
      · exact roomAction_leaves replies _ _ _ rfl
  | cancelModal =>
      rw [handle]
      refine .silent ?_
      split
      · rfl
      · rfl
  | joinPublicRoom roomId => exact roomAction_leaves replies _ _ _ rfl
  | watchRoom roomId => exact roomAction_leaves replies _ _ _ rfl
  | findMatch => exact roomAction_leaves replies _ _ _ rfl
  | cancelFindMatch =>
      rw [handle]
      split
      · exact ⟨rfl, fun _ isShown => isShown⟩
      · exact .silent rfl
  | backToLobby =>
      refine ⟨?_, fun _ isShown => by cases isShown⟩
      refine List.filterMap_eq_nil_iff.mpr fun call member => ?_
      rcases List.mem_append.mp member with leaving | requesting
      · obtain ⟨shown, _, rfl⟩ := List.mem_map.mp leaving
        rfl
      · rw [List.mem_singleton.mp requesting]
        rfl
  | logout => exact ⟨rfl, fun _ isShown => by cases isShown⟩
  | _ => exact .silent rfl

theorem shownMatch_inputCharacter (value : Char) :
    (controller.inputCharacter value).state.view.shownMatch =
      controller.state.view.shownMatch := by
  unfold inputCharacter
  dsimp only
  split
  · split
    · split
      · rfl
      · rfl
    · split
      · rfl
      · rfl
    · split
      · split
        · rfl
        · rfl
      · rfl
  · split
    · split
      · split
        · rfl
        · rfl
      · rfl
    · split
      · rfl
      · rfl
    · rfl

theorem shownMatch_backspace :
    controller.backspace.state.view.shownMatch = controller.state.view.shownMatch := by
  unfold backspace
  dsimp only
  split
  · split
    · rfl
    · split
      · rfl
      · rfl
    · split
      · split
        · rfl
        · rfl
      · rfl
  · split
    · split
      · rfl
      · rfl
    · rfl
    · rfl

theorem gameBoardClick_origin (typed : Typed controller) (replies : TransportReplies)
    (row col : Int) :
    ∀ shown ∈ (controller.gameBoardClick replies row col).2.state.view.shownMatch,
      Origin controller (.boardClick row col)
        (commandsOf (controller.gameBoardClick replies row col).1) shown := by
  unfold gameBoardClick
  dsimp only
  split
  · exact (Leaves.silent rfl).origin _
  · next old isPlayable =>
      obtain ⟨_, board, was⟩ := playable_eq_some isPlayable
      split
      · next unselected =>
          intro shown isShown
          cases isShown
          by_cases own : holdsOwnPiece old ⟨row, col⟩ = true
          · simp only [if_pos own]
            refine .goesOn old was rfl rfl rfl fun cell isSource => ?_
            cases isSource
            exact .inr ⟨rfl, old, isPlayable, own⟩
          · simp only [if_neg own]
            exact .goesOn old was rfl rfl rfl fun cell isSource => .inl isSource
      · next source selected =>
          have inside := typed.selected old was source selected
          split
          · intro shown isShown
            cases isShown
            have numbers := fun positive => numbered_commandsOf
              (numbered_sendJump positive board : _ = some (old.roomId, some (old.nextSequence : Int)))
            by_cases sent : replies.sent (.sendJump old.roomId old.nextSequence ⟨row, col⟩) = true
            · simp only [if_pos sent]
              exact .commanded old was rfl rfl numbers rfl
            · simp only [if_neg sent]
              exact .commanded old was rfl rfl numbers rfl
          · intro shown isShown
            cases isShown
            exact .commanded old was rfl rfl
              (fun positive => numbered_commandsOf (numbered_sendMove positive inside board)) rfl

theorem gameBoardJump_origin (replies : TransportReplies) (row col : Int) :
    ∀ shown ∈ (controller.gameBoardJump replies row col).2.state.view.shownMatch,
      Origin controller (.boardJump row col)
        (commandsOf (controller.gameBoardJump replies row col).1) shown := by
  unfold gameBoardJump
  dsimp only
  split
  · exact (Leaves.silent rfl).origin _
  · next old isPlayable =>
      obtain ⟨_, board, was⟩ := playable_eq_some isPlayable
      split
      · intro shown isShown
        cases isShown
        exact .goesOn old was rfl rfl rfl fun cell isSource => .inl isSource
      · intro shown isShown
        cases isShown
        have numbers := fun positive => numbered_commandsOf
          (numbered_sendJump positive board : _ = some (old.roomId, some (old.nextSequence : Int)))
        by_cases sent : replies.sent (.sendJump old.roomId old.nextSequence ⟨row, col⟩) = true
        · simp only [if_pos sent]
          exact .commanded old was rfl rfl numbers rfl
        · simp only [if_neg sent]
          exact .commanded old was rfl rfl numbers rfl

/-! ### Ticks -/

/-- After events, a match was there before or one of them has opened it. -/
def OpenedBy (before : Option AuthoritativeMatchView) (events : List LobbyClientEvent)
    (shown : AuthoritativeMatchView) : Prop :=
  Continues before shown ∨ ∃ event, LobbyClientEvent.protocol event ∈ events ∧
    event.Opens shown.roomId ∧ shown.nextSequence = 1 ∧ shown.selectedSource = none

theorem consume_shownMatch (replies : TransportReplies) (event : LobbyClientEvent) :
    ∀ shown ∈ (controller.consume replies event).2.state.view.shownMatch,
      OpenedBy controller.state.view.shownMatch [event] shown := by
  intro shown isShown
  cases event with
  | authenticationFailed => cases isShown
  | closed => exact .inl (.same isShown)
  | transportError => exact .inl (.same isShown)
  | parseError => exact .inl (.same isShown)
  | protocol event =>
      have applied : shown ∈ (controller.state.view.applyEvent event).shownMatch := by
        cases event with
        | connected user =>
            rw [consume] at isShown
            dsimp only at isShown
            split at isShown
            · exact isShown
            · exact isShown
        | _ => exact isShown
      rcases shownMatch_applyEvent _ _ shown applied with opened | continues
      · exact .inr ⟨event, List.mem_cons_self, opened⟩
      · exact .inl continues

theorem consumeNetworkEvents_shownMatch (replies : TransportReplies) :
    ∀ (events : List LobbyClientEvent) (controller : LobbyController),
      ∀ shown ∈ (consumeNetworkEvents replies events controller).2.state.view.shownMatch,
        OpenedBy controller.state.view.shownMatch events shown := by
  intro events
  induction events with
  | nil => exact fun controller shown isShown => .inl (.same isShown)
  | cons event waiting ih =>
      intro controller shown isShown
      rcases ih (controller.consume replies event).2 shown isShown with
        ⟨old, wasShown, room, next, source⟩ | ⟨opening, member, opens⟩
      · rcases consume_shownMatch replies event old wasShown with
          ⟨older, was, room', next', source'⟩ | ⟨opening, member, opens, first, unselected⟩
        · exact .inl ⟨older, was, room'.trans room, next'.trans next, source'.trans source⟩
        · refine .inr ⟨opening, List.mem_cons.mpr (.inl (List.mem_singleton.mp member)), ?_, ?_, ?_⟩
          · exact room ▸ opens
          · exact next.symm.trans first
          · exact source.symm.trans unselected
      · exact .inr ⟨opening, List.mem_cons_of_mem _ member, opens⟩

theorem pickUp_shownMatch (replies : TransportReplies) (readings : TickReadings) :
    (controller.pickUp replies readings).2.state.view.shownMatch =
      controller.state.view.shownMatch := by
  unfold pickUp
  split
  · unfold finishAuthentication
    dsimp only
    split
    · split
      · rfl
      · rfl
    · rfl
  · rfl

theorem tick_origin (typed : Typed controller) (replies : TransportReplies)
    (readings : TickReadings) :
    ∀ shown ∈ (controller.tick replies readings).2.state.view.shownMatch,
      Origin controller (.tick readings) (commandsOf (controller.tick replies readings).1)
        shown := by
  have picked := pickUp_typed typed replies readings
  have consumed := consumeNetworkEvents_typed replies readings.events
    (picked.1.setConnectionState readings.connectionState)
  have silent : commandsOf (controller.tick replies readings).1 = [] := by
    refine List.filterMap_eq_nil_iff.mpr fun call member => ?_
    have connecting : IsConnecting call := by
      rcases List.mem_append.mp member with first | later
      · exact picked.2 call first
      · exact consumed.2 call later
    rcases connecting with rfl | rfl
    · rfl
    · rfl
  intro shown isShown
  have before : ∀ connection, (((controller.pickUp replies readings).2.state.setConnectionState
      connection).view.shownMatch) = controller.state.view.shownMatch := by
    intro connection
    rw [← pickUp_shownMatch replies readings, LobbyApplicationState.setConnectionState]
    dsimp only
    split
    · rfl
    · rfl
  rcases consumeNetworkEvents_shownMatch replies readings.events _ shown isShown with
    ⟨old, wasShown, room, next, source⟩ | ⟨opening, member, opens, first, unselected⟩
  · rw [before] at wasShown
    exact .goesOn old wasShown room next silent fun cell isSource => .inl (source ▸ isSource)
  · exact .opened readings rfl opening member opens first silent unselected

/-- **Where the match that is shown comes from.** -/
theorem receive_origin (typed : Typed controller) (replies : TransportReplies)
    (input : LobbyInput) :
    ∀ shown ∈ (controller.receive replies input).2.state.view.shownMatch,
      Origin controller input (commandsOf (controller.receive replies input).1) shown := by
  cases input with
  | action action => exact (handle_leaves replies action).origin _
  | character value => exact (Leaves.silent (shownMatch_inputCharacter value)).origin _
  | backspace => exact (Leaves.silent shownMatch_backspace).origin _
  | tab =>
      refine Leaves.origin ?_ _
      rw [receive, handleTab]
      split
      · exact .silent rfl
      · exact handle_leaves replies _
  | enter =>
      refine Leaves.origin ?_ _
      rw [receive, handleEnter]
      split
      · exact handle_leaves replies _
      · exact handle_leaves replies _
      · split
        · exact handle_leaves replies _
        · exact .silent rfl
  | boardClick row col => exact gameBoardClick_origin typed replies row col
  | boardJump row col => exact gameBoardJump_origin replies row col
  | tick readings => exact tick_origin typed replies readings

/-! ## Runs -/

/-- The commands of a run. -/
def commandsDuring (controller : LobbyController) (inputs : List (TransportReplies × LobbyInput)) :
    List (String × PlayerAction) :=
  (Trace.visits step controller inputs).flatMap fun visit =>
    commandsOf (visit.1.receive visit.2.1 visit.2.2).1

/-- An input that opens a match of the room. -/
def Opening (room : String) (input : LobbyInput) : Prop :=
  ∃ readings event, input = .tick readings ∧ .protocol event ∈ readings.events ∧
    LobbyEvent.Opens room event

/-- What happened to a match since the input that opened it. -/
structure Since (controller : LobbyController) (inputs : List (TransportReplies × LobbyInput))
    (shown : AuthoritativeMatchView) : Prop where
  positive : 1 ≤ shown.nextSequence
  numbers : (controller.commandsDuring inputs).map numbered =
    (List.range' 1 (shown.nextSequence - 1)).map fun number : Nat =>
      (shown.roomId, some (number : Int))
  selected : ∀ cell ∈ shown.selectedSource, ∃ visit ∈ Trace.visits step controller inputs,
    visit.1.Selects visit.2.2 cell

theorem commandsDuring_append (controller : LobbyController)
    (inputs : List (TransportReplies × LobbyInput)) (input : TransportReplies × LobbyInput) :
    controller.commandsDuring (inputs ++ [input]) =
      controller.commandsDuring inputs ++
        commandsOf ((Trace.run step controller inputs).receive input.1 input.2).1 := by
  unfold commandsDuring
  rw [Trace.visits_append, List.flatMap_append]
  exact congrArg (_ ++ ·) (List.flatMap_singleton ..)

/-- **The commands of a match are numbered one by one.** Whatever the player does and
whatever arrives: the commands since the shown match was opened, sent or not, are all
commands of its room that pass the gateway's checks of their form, with the numbers one, two
and so on up to the next number; and a selected cell was selected since then, when it held
a piece of the player. -/
theorem run_numbers (inputs : List (TransportReplies × LobbyInput)) :
    ∀ shown ∈ (Trace.run step {} inputs).state.view.shownMatch,
      ∃ before opening after, inputs = before ++ opening :: after ∧
        Opening shown.roomId opening.2 ∧
        Since (Trace.run step {} (before ++ [opening])) after shown := by
  induction inputs using List.reverseRecOn with
  | nil => exact fun _ isShown => by cases isShown
  | append_singleton inputs input ih =>
      intro shown isShown
      have typed : Typed (Trace.run step {} inputs) := (run_typed inputs)
      rw [Trace.run_append] at isShown
      rcases receive_origin typed input.1 input.2 shown isShown with
        ⟨old, was, room, next, silent, selected⟩ | ⟨old, was, room, next, command, unselected⟩ |
        ⟨readings, isTick, event, member, opens, first, silent, unselected⟩
      · obtain ⟨before, opening, after, rfl, opens, since⟩ := ih old was
        refine ⟨before, opening, after ++ [input], by simp, room ▸ opens, ?_⟩
        rw [List.append_cons, Trace.run_append] at silent selected
        refine ⟨next ▸ since.positive, ?_, fun cell isSource => ?_⟩
        · rw [commandsDuring_append, silent, List.append_nil, since.numbers, room, next]
        · rw [Trace.visits_append]
          rcases selected cell isSource with had | now
          · obtain ⟨visit, member, selects⟩ := since.selected cell had
            exact ⟨visit, List.mem_append_left _ member, selects⟩
          · exact ⟨_, List.mem_append_right _ List.mem_cons_self, now⟩
      · obtain ⟨before, opening, after, rfl, opens, since⟩ := ih old was
        refine ⟨before, opening, after ++ [input], by simp, room ▸ opens, ?_⟩
        rw [List.append_cons, Trace.run_append] at command
        refine ⟨by omega, ?_, fun cell isSource => ?_⟩
        · have count : shown.nextSequence - 1 = old.nextSequence - 1 + 1 := by
            have := since.positive
            omega
          have last : 1 + (old.nextSequence - 1) = old.nextSequence := by
            have := since.positive
            omega
          rw [commandsDuring_append, List.map_append, command since.positive, since.numbers,
            count, List.range'_concat, List.map_append, room, Nat.one_mul, last]
          rfl
        · rw [unselected] at isSource
          cases isSource
      · refine ⟨inputs, input, [], rfl, ⟨readings, event, isTick, member, opens⟩, ?_⟩
        refine ⟨first.ge, ?_, fun cell isSource => ?_⟩
        · rw [first]
          rfl
        · rw [unselected] at isSource
          cases isSource

/-- A board with one pawn of white. -/
def onePawn : GameStateSnapshot := { pieces := [{ id := 1, token := "wP", position := ⟨6, 4⟩ }] }

/-- A match begins, and white moves the pawn. -/
def firstMove : List (TransportReplies × LobbyInput) :=
  [({}, .tick
      { connectionState := .connected
        events := [.protocol (.matchReady "r1" "white" "bob" 1 onePawn "" 1200 1200),
          .protocol (.matchStarted "r1" 2 onePawn "")] }),
    ({}, .boardClick 6 4), ({}, .boardClick 4 4)]

/-- The match after the move. -/
def afterFirstMove : AuthoritativeMatchView :=
  { roomId := "r1", assignedColor := "white", opponentUsername := "bob", revision := 2,
    nextSequence := 2, snapshot := onePawn, phase := .playing,
    moveStatus := "Waiting for authoritative result..." }

theorem run_numbers_firstMove :
    ∃ before opening after, firstMove = before ++ opening :: after ∧
      Opening afterFirstMove.roomId opening.2 ∧
      Since (Trace.run step {} (before ++ [opening])) after afterFirstMove :=
  run_numbers firstMove afterFirstMove (by decide)

end LobbyController

end Lobby

end KungFuChess

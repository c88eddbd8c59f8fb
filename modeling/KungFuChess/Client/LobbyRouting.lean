import KungFuChess.Client.LobbyCommands
import KungFuChess.Client.LobbyForms
import KungFuChess.Client.LobbyProtocol
import KungFuChess.Gateway.Requests

/-!
# The requests of the lobby client at the gateway

`LobbyClient` turns the calls on the transport into requests, and the router of the gateway
turns what it receives into calls of its managers. A request that the lobby controller makes
reaches the handler that it is for, with the arguments that it is for: no check of the form of
a message turns it down, and the game server reads a move or a jump as the cells that the
player chose.
-/

set_option autoImplicit false

namespace KungFuChess

open JsonText

namespace Lobby

open LobbyProtocol (Members)

namespace TransportCall

/-- The request of a call of `LobbyClient`; the other calls are not made over the web socket. -/
def request? : TransportCall → Option Members
  | .subscribeLobby => some LobbyProtocol.subscribeLobby
  | .requestLobby => some LobbyProtocol.getLobby
  | .createRoom name hidden => some (LobbyProtocol.createRoom name hidden)
  | .joinPublicRoom roomId => some (LobbyProtocol.joinRoom roomId)
  | .joinHiddenRoom roomCode => some (LobbyProtocol.joinHiddenRoom roomCode)
  | .watchRoom roomId => some (LobbyProtocol.watchGame roomId)
  | .leaveSpectator roomId => some (LobbyProtocol.leaveSpectator roomId)
  | .findMatch => some LobbyProtocol.findMatch
  | .cancelFindMatch => some LobbyProtocol.cancelFindMatch
  | .sendMove roomId sequence source destination =>
      some (LobbyProtocol.moveRequest roomId sequence source.row source.col destination.row
        destination.col)
  | .sendJump roomId sequence cell =>
      some (LobbyProtocol.jumpRequest roomId sequence cell.row cell.col)
  | .registerUser .. | .login .. | .logout | .getMatchHistory | .connectRealtime => none

/-- The text of the room that a call names. -/
def roomText : TransportCall → Option String
  | .joinPublicRoom roomId | .watchRoom roomId | .leaveSpectator roomId | .sendMove roomId _ _ _
  | .sendJump roomId _ _ => some roomId
  | _ => none

/-- The number of an action. -/
def sequence? : TransportCall → Option Nat
  | .sendMove _ sequence _ _ | .sendJump _ sequence _ => some sequence
  | _ => none

end TransportCall

/-! ## What the gateway and the game server make of an action -/

/-- The manager forwards an action just in case the player may claim its number, and the game
server reads what it is then sent as a message with this number and these cells. -/
def Delivers (action : PlayerAction) (type : MessageType) (sequence : Nat)
    (source destination : Position) : Prop :=
  (∀ (manager : MatchManager) (now : Int) (roomId : RoomId) (userId : UserId)
      (websocket : ConnectionId) (line : SentLine),
    (∃ claimed, manager.perform now roomId userId websocket action = .ok (line, claimed)) ↔
      ∃ color, manager.Claimable now roomId userId sequence color ∧ line = action.sent color) ∧
  ∀ color, ∃ message, gameServerReads (action.sent color).line = .ok message ∧
    message.type = type ∧ message.sequence = sequence ∧ message.source = source ∧
    message.destination = destination

theorem length_dumps_count {count : Nat} (long : count < 2 ^ 63) :
    (dumps (.int count)).length ≤ 19 := by
  have natural : dumps (.int count) = Nat.toDigits 10 count := by
    rw [dumps, Protocol.number, if_neg (by omega), Int.natAbs_natCast]
  rw [natural, Nat.length_toDigits_le_iff (by decide) (by decide)]
  exact long.trans (by decide)

theorem length_dumps_cell {cell : Position} (board : Protocol.isBoardPosition cell) :
    (dumps (cellValue cell)).length ≤ 53 := by
  have short : ∀ coordinate : Int, 0 ≤ coordinate → coordinate ≤ 7 →
      (dumps (.int coordinate)).length ≤ 19 := by
    intro coordinate low high
    obtain ⟨count, rfl⟩ := Int.eq_ofNat_of_zero_le low
    exact length_dumps_count (by omega)
  have row := short cell.row board.1 board.2.1
  have col := short cell.col board.2.2.1 board.2.2.2
  have plain : ∀ member ∈ [("row", PythonValue.int cell.row), ("col", PythonValue.int cell.col)],
      ∀ character ∈ member.1.toList, PlainAscii character := by
    simp only [List.forall_mem_cons]
    decide
  have keys : "row".toList.length = 3 ∧ "col".toList.length = 3 := by decide
  rw [cellValue, (dumps_record plain).1, length_object (by simp)]
  simp only [List.map_cons, List.map_nil, List.sum_cons, List.sum_nil, Prod.map, id, keys]
  omega

/-- A cell of a request has its row and its column, and nothing else. -/
theorem get_cellValue (cell : Position) :
    (cellValue cell).get "row" = .int cell.row ∧ (cellValue cell).get "col" = .int cell.col := by
  have distinct : (codePoints "col" == codePoints "row") = false := by decide
  simp only [cellValue, PythonValue.record, PythonValue.get, List.map_cons, List.map_nil,
    Prod.map, id, List.lookup_cons, distinct, beq_self_eq_true, Option.getD_some, and_self]

theorem namesCell_cellValue {cell position : Position}
    (names : NamesCell (cellValue cell) position) : position = cell := by
  obtain ⟨row, col⟩ := get_cellValue cell
  rw [NamesCell, row, col, PythonValue.asInt, PythonValue.asInt, Option.some.injEq,
    Option.some.injEq] at names
  obtain ⟨row, col⟩ := position
  obtain ⟨rfl, rfl⟩ := names
  rfl

theorem reads_action {type : MessageType} {sequence : Nat} {source destination : Position}
    (short : (Protocol.messageTypeToString type).toList.length = 12) (positive : 1 ≤ sequence)
    (long : sequence < 2 ^ 63) (isSource : Protocol.isBoardPosition source)
    (isDestination : Protocol.isBoardPosition destination) (color : String) :
    ∃ message, gameServerReads (MatchManager.sendAction color (Protocol.messageTypeToString type)
        (.int sequence) (cellValue source) (cellValue destination)).line = .ok message ∧
      message.type = type ∧ message.sequence = sequence ∧ message.source = source ∧
      message.destination = destination := by
  have plain : ∀ cell, PlainCell (cellValue cell) := by
    intro cell
    obtain ⟨row, col⟩ := get_cellValue cell
    rw [PlainCell, row, col]
    exact ⟨rfl, rfl⟩
  have fits : FitsProtocol (.int sequence) (cellValue source) (cellValue destination) := by
    refine ⟨fun number same => ?_, plain source, plain destination, ?_⟩
    · cases same
      omega
    · have count := length_dumps_count long
      have origin := length_dumps_cell isSource
      have target := length_dumps_cell isDestination
      have limit : TcpConnection.maxMessageBytes = 1048576 := rfl
      omega
  obtain ⟨message, read, isType, number, namesSource, namesDestination⟩ :=
    (understood_iff (isCell_cellValue isSource) (isCell_cellValue isDestination) short
      (by omega) color).mpr fits
  have sequences : (sequence : Int) = message.sequence := PythonValue.int.inj number
  exact ⟨message, read, isType, by omega, namesCell_cellValue namesSource,
    namesCell_cellValue namesDestination⟩

theorem delivers_of {action : PlayerAction} {type : MessageType} {sequence : Nat}
    {source destination : Position} (formed : action.number? = some (sequence : Int))
    (sent : ∀ color, action.sent color = MatchManager.sendAction color
      (Protocol.messageTypeToString type) (.int sequence) (cellValue source)
      (cellValue destination))
    (short : (Protocol.messageTypeToString type).toList.length = 12) (positive : 1 ≤ sequence)
    (long : sequence < 2 ^ 63) (isSource : Protocol.isBoardPosition source)
    (isDestination : Protocol.isBoardPosition destination) :
    Delivers action type sequence source destination := by
  refine ⟨fun manager now roomId userId websocket line => ?_, fun color => ?_⟩
  · rw [MatchManager.perform_ok_iff, formed]
    constructor
    · rintro ⟨number, color, ⟨⟩, claimable, isLine⟩
      exact ⟨color, claimable, isLine⟩
    · rintro ⟨color, claimable, isLine⟩
      exact ⟨sequence, color, rfl, claimable, isLine⟩
  · rw [sent color]
    exact reads_action short positive long isSource isDestination color

theorem number?_of_numbered {roomId : String} {action : PlayerAction} {number : Option Int}
    (formed : (some (roomId, action)).map numbered = some (roomId, number)) :
    action.number? = number :=
  congrArg Prod.snd (Option.some.inj formed)

/-! ## Routing -/

variable {libraries : RouterLibraries} {float : Text → PythonFloat} {roomId : RoomId}

/-- What a call of the client is for. -/
def Asks (roomId : RoomId) (call : TransportCall) (request : RoomRequest) : Prop :=
  match call with
  | .subscribeLobby => request = .subscribeLobby
  | .requestLobby => request = .getLobby
  | .createRoom name hidden =>
      request = .createRoom (.str (codePoints name))
        (codePoints (if hidden then "hidden" else "public"))
  | .joinPublicRoom _ => request = .joinRoom roomId
  | .joinHiddenRoom roomCode => request = .joinHiddenRoom (codePoints roomCode)
  | .watchRoom _ => request = .watchGame roomId
  | .leaveSpectator _ => request = .leaveSpectator roomId
  | .findMatch => request = .findMatch
  | .cancelFindMatch => request = .cancelFindMatch
  | .sendMove _ sequence source destination =>
      ∃ action, request = .act roomId action ∧
        Delivers action .moveRequest sequence source destination
  | .sendJump _ sequence cell =>
      ∃ action, request = .act roomId action ∧ Delivers action .jumpRequest sequence cell cell
  | .registerUser .. | .login .. | .logout | .getMatchHistory | .connectRealtime => False

/-- A request of a type that the router knows. -/
theorem route_request {request : Members} {type : String}
    {handle : PythonValue → Except RoomOperationError RoomRequest} {handled : RoomRequest}
    (loaded : libraries.loads (LobbyProtocol.write request) =
      some (.ofJson float (.object request)))
    (typed : (PythonValue.ofJson float (.object request)).get "type" = .str (codePoints type))
    (noPing : type ≠ "ping") (known : libraries.handlers.lookup type = some handle)
    (accepted : handle (.ofJson float (.object request)) = .ok handled) :
    libraries.routeText (LobbyProtocol.write request) = .request handled := by
  rw [RouterLibraries.routeText, loaded]
  exact RouterLibraries.route_typed rfl typed noPing known accepted

theorem routed {call : TransportCall} {request : Members}
    (written : call.request? = some request)
    (loaded : libraries.loads (LobbyProtocol.write request) =
      some (.ofJson float (.object request)))
    (spaces : ∀ character, libraries.isSpace (codePoint character) = RoomName.isSpace character)
    (isRoom : ∀ text ∈ call.roomText, libraries.uuid (codePoints text) = some roomId)
    {controller : LobbyController} (proper : controller.Proper call)
    (counted : ∀ number ∈ call.sequence?, 1 ≤ number ∧ number < 2 ^ 63) :
    ∃ handled, libraries.routeText (LobbyProtocol.write request) = .request handled ∧
      Asks roomId call handled := by
  cases call with
  | registerUser | login | logout | getMatchHistory | connectRealtime => cases written
  | subscribeLobby | requestLobby | findMatch | cancelFindMatch =>
      cases written
      exact ⟨_, route_request loaded rfl (by decide) rfl rfl, rfl⟩
  | createRoom name hidden =>
      cases written
      exact ⟨_, route_request loaded rfl (by decide) rfl rfl, rfl⟩
  | joinPublicRoom text | watchRoom text | leaveSpectator text =>
      cases written
      exact ⟨_, route_request loaded rfl (by decide) rfl
        (congrArg _ (RouterLibraries.roomUuid_text rfl (isRoom text rfl))), rfl⟩
  | joinHiddenRoom roomCode =>
      cases written
      obtain ⟨-, six, inside⟩ := proper
      have written : codePoints roomCode ≠ [] := by
        rw [codePoints, ne_eq, List.map_eq_nil_iff, ← List.length_eq_zero_iff,
          String.length_toList, six]
        decide
      have noSpace : ∀ point ∈ codePoints roomCode, libraries.isSpace point = false := by
        refine List.forall_mem_map.mpr fun character member => ?_
        obtain ⟨printed, noBlank, -⟩ := of_mem_codeAlphabet (inside character member)
        rw [spaces, isSpace_of_isPrint printed, noBlank]
      exact ⟨_, route_request loaded rfl (by decide) rfl
        (congrArg _ (RouterLibraries.hiddenCode_text rfl written noSpace)), rfl⟩
  | sendMove text sequence source destination =>
      cases written
      obtain ⟨positive, long⟩ := counted sequence rfl
      obtain ⟨-, isSource, isDestination, -⟩ := proper
      refine ⟨_, route_request loaded rfl (by decide) rfl (by
        rw [RouterLibraries.roomUuid_text rfl (isRoom text rfl)]
        rfl), _, rfl, ?_⟩
      have formed : (TransportCall.sendMove text sequence source destination).command?.map
          numbered = _ := numbered_sendMove positive isSource isDestination
      exact delivers_of (number?_of_numbered formed) (fun _ => rfl) (by decide) positive long
        isSource isDestination
  | sendJump text sequence cell =>
      cases written
      obtain ⟨positive, long⟩ := counted sequence rfl
      obtain ⟨-, isCell⟩ := proper
      refine ⟨_, route_request loaded rfl (by decide) rfl (by
        rw [RouterLibraries.roomUuid_text rfl (isRoom text rfl)]
        rfl), _, rfl, ?_⟩
      have formed : (TransportCall.sendJump text sequence cell).command?.map numbered = _ :=
        numbered_sendJump positive isCell
      exact delivers_of (number?_of_numbered formed) (fun _ => rfl) (by decide) positive long
        isCell isCell

namespace LobbyController

/-- The number of the next command grows with the inputs at most. -/
theorem run_nextSequence (inputs : List (TransportReplies × LobbyInput)) :
    ∀ shown ∈ (Trace.run step {} inputs).state.view.shownMatch,
      1 ≤ shown.nextSequence ∧ shown.nextSequence ≤ inputs.length + 1 := by
  induction inputs using List.reverseRecOn with
  | nil => exact fun _ isShown => by cases isShown
  | append_singleton inputs input ih =>
      intro shown isShown
      rw [List.length_append, List.length_singleton]
      rw [Trace.run_append] at isShown
      cases receive_origin (run_typed inputs) input.1 input.2 shown isShown with
      | goesOn old was room next =>
          have before := ih old was
          omega
      | commanded old was room next =>
          have before := ih old was
          omega
      | opened readings isTick event member opens first => omega

theorem visits_counted {inputs : List (TransportReplies × LobbyInput)}
    {visit : LobbyController × (TransportReplies × LobbyInput)}
    (member : visit ∈ Trace.visits step {} inputs) {call : TransportCall}
    (proper : visit.1.Proper call) :
    ∀ number ∈ call.sequence?, 1 ≤ number ∧ number ≤ inputs.length := by
  obtain ⟨before, after, rfl, reached⟩ := Trace.visits_split member
  have next := run_nextSequence before
  rw [← reached] at next
  have commands : ∀ {roomId sequence}, visit.1.Commands roomId sequence →
      1 ≤ sequence ∧ sequence ≤ (before ++ visit.2 :: after).length := by
    rintro roomId sequence ⟨shown, isShown, -, -, -, -, rfl⟩
    have bounds := next shown isShown
    rw [List.length_append, List.length_cons]
    omega
  cases call with
  | sendMove roomId sequence source destination =>
      rintro _ ⟨⟩
      exact commands proper.1
  | sendJump roomId sequence cell =>
      rintro _ ⟨⟩
      exact commands proper.1
  | _ => exact fun _ none => by cases none

/-- **Whatever the lobby client sends, the gateway takes for what it is.** In every run, each
request reaches the handler that it is for, with its room, its name or its code: none is turned
down as malformed. A move or a jump is forwarded just in case the player may claim its number,
and the game server reads it with this number and the cells that the player chose. -/
theorem run_routed (inputs : List (TransportReplies × LobbyInput)) (libraries : RouterLibraries)
    (float : Text → PythonFloat) (short : inputs.length < 2 ^ 63)
    (spaces : ∀ character, libraries.isSpace (codePoint character) = RoomName.isSpace character) :
    ∀ visit ∈ Trace.visits step {} inputs, ∀ call ∈ (visit.1.receive visit.2.1 visit.2.2).1,
      ∀ request roomId, call.request? = some request →
        libraries.loads (LobbyProtocol.write request) =
          some (.ofJson float (.object request)) →
        (∀ text ∈ call.roomText, libraries.uuid (codePoints text) = some roomId) →
        ∃ handled, libraries.routeText (LobbyProtocol.write request) = .request handled ∧
          Asks roomId call handled := by
  intro visit member call isCall request roomId written loaded isRoom
  have proper := (visits_fine member).2 call isCall
  refine routed written loaded spaces isRoom proper fun number isNumber => ?_
  have bounds := visits_counted member proper number isNumber
  omega

/-- The room that the player joins. -/
def seventhRoom : String := "00000000-0000-0000-0000-000000000007"

def zeroFloat : PythonFloat := ⟨"0.0".toList, by decide, by decide⟩

/-- A reader of the request to join the room alone. -/
def joiningLoads (text : String) : Option PythonValue :=
  if text = LobbyProtocol.write (LobbyProtocol.joinRoom seventhRoom) then
    some (.record [("type", .str (codePoints "join_room")),
      ("room_id", .str (codePoints seventhRoom))])
  else none

def joiningUuid (text : PythonString) : Option RoomId :=
  if text = codePoints seventhRoom then some 7 else none

/-- As much of the language as this request needs. -/
def joiningLibraries : RouterLibraries where
  isSpace point := RoomName.isSpace (Char.ofNat point.val)
  normalizeNFKC value := value
  category _ := "Ll"
  isAlnum point := (Char.ofNat point.val).isAlphanum
  loads := joiningLoads
  str _ := []
  uuid := joiningUuid

/-- The player clicks on the room. -/
def joining : TransportReplies × LobbyInput := ({}, .action (.joinPublicRoom seventhRoom))

theorem run_routed_joining :
    ∃ handled, joiningLibraries.routeText
        (LobbyProtocol.write (LobbyProtocol.joinRoom seventhRoom)) = .request handled ∧
      Asks 7 (.joinPublicRoom seventhRoom) handled := by
  have spaces : ∀ character, joiningLibraries.isSpace (codePoint character) =
      RoomName.isSpace character :=
    fun character => congrArg RoomName.isSpace (Char.ofNat_toNat character)
  have visited : (Trace.run step {} inLobby, joining) ∈
      Trace.visits step {} (inLobby ++ [joining]) := by
    rw [Trace.visits_append]
    exact List.mem_append_right _ List.mem_cons_self
  have isCall : TransportCall.joinPublicRoom seventhRoom ∈
      ((Trace.run step {} inLobby).receive joining.1 joining.2).1 := by decide
  have loaded : joiningLoads (LobbyProtocol.write (LobbyProtocol.joinRoom seventhRoom)) =
      some (.ofJson (fun _ => zeroFloat) (.object (LobbyProtocol.joinRoom seventhRoom))) :=
    if_pos rfl
  have isRoom : joiningUuid (codePoints seventhRoom) = some 7 := if_pos rfl
  refine run_routed (inLobby ++ [joining]) joiningLibraries (fun _ => zeroFloat) (by decide) spaces
    _ visited _ isCall _ 7 rfl loaded ?_
  rintro _ ⟨⟩
  exact isRoom

end LobbyController

end Lobby

end KungFuChess

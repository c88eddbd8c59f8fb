import KungFuChess.Gateway.RoomManager
import KungFuChess.Gateway.Submissions
import KungFuChess.Gateway.Usernames
import KungFuChess.Library.JsonValue

/-!
# What the router makes of a message

The loop of a web socket reads a text with `json.loads` and hands the dictionary to
`_handle_room_message`. The type of the message picks a handler, which takes its arguments
from the dictionary: `RoomRequest` is a handler with its arguments, before it touches any of
the stores.

`json.loads`, `str` of a value that is no string and `UUID` are parameters.
-/

set_option autoImplicit false

namespace KungFuChess

open JsonText

/-! ## What json.loads returns -/

namespace PythonValue

mutual

/-- The value of a tree; `float` reads a number that is no `int`. -/
def ofJson (float : Text → PythonFloat) : JsonValue → PythonValue
  | .null => .none
  | .bool value => .bool value
  | .int value => .int value
  | .double text => .float (float text)
  | .string value => .str (codePoints value)
  | .array items => .list (ofItems float items)
  | .object members => .dict (ofMembers float members)

def ofItems (float : Text → PythonFloat) : List JsonValue → List PythonValue
  | [] => []
  | item :: items => ofJson float item :: ofItems float items

def ofMembers (float : Text → PythonFloat) :
    List (String × JsonValue) → List (PythonString × PythonValue)
  | [] => []
  | (key, value) :: members => (codePoints key, ofJson float value) :: ofMembers float members

end

/-- `dict.get` with a default. -/
def getD (value : PythonValue) (key : String) (default : PythonValue) : PythonValue :=
  match value with
  | .dict entries => (entries.lookup (codePoints key)).getD default
  | _ => default

/-- The value is this string. -/
def isText (value : PythonValue) (text : String) : Bool :=
  match value with
  | .str points => points = codePoints text
  | _ => false

theorem isText_codePoints (first second : String) :
    (PythonValue.str (codePoints first)).isText second = (first == second) := by
  rw [isText, Bool.eq_iff_iff, decide_eq_true_iff, beq_iff_eq, codePoints_injective.eq_iff]

end PythonValue

/-! ## Requests -/

/-- A handler of `_handle_room_message` with its arguments. -/
inductive RoomRequest where
  | createRoom (name : PythonValue) (visibility : PythonString)
  | getLobby
  | subscribeLobby
  | joinRoom (roomId : RoomId)
  | joinHiddenRoom (roomCode : PythonString)
  | watchGame (roomId : RoomId)
  | findMatch
  | cancelFindMatch
  | leaveSpectator (roomId : RoomId)
  /-- A call of `move` or of `jump`. -/
  | act (roomId : RoomId) (action : PlayerAction)

/-- What becomes of a text. -/
inductive Routed where
  | pong
  | request (request : RoomRequest)
  /-- A `RoomOperationError`, which is answered. -/
  | refused (error : RoomOperationError)
  /-- An `error_message` of the loop itself. -/
  | error (code message : String)

/-- What the router takes from the language. -/
structure RouterLibraries extends UnicodeData where
  /-- `json.loads`; nothing when it raises a `JSONDecodeError`. -/
  loads : String → Option PythonValue
  /-- `str` of a value that is no string. -/
  str : PythonValue → PythonString
  /-- `UUID`; nothing when it raises a `ValueError`. -/
  uuid : PythonString → Option RoomId

namespace RouterLibraries

variable (libraries : RouterLibraries)

/-- `str`. -/
def text : PythonValue → PythonString
  | .str value => value
  | value => libraries.str value

/-- `_room_uuid`. -/
def roomUuid (message : PythonValue) : Except RoomOperationError RoomId :=
  match libraries.uuid (libraries.text (message.getD "room_id" (.str []))) with
  | some roomId => .ok roomId
  | none => .error ⟨"invalid_room_id", "Room ID must be a valid UUID."⟩

/-- The check of `join_hidden_room`. -/
def hiddenCode (message : PythonValue) : Except RoomOperationError PythonString :=
  match message.get "room_code" with
  | .str roomCode =>
      if libraries.strip roomCode ≠ [] then .ok roomCode
      else .error ⟨"invalid_room_code", "Room code is invalid or no longer available."⟩
  | _ => .error ⟨"invalid_room_code", "Room code is invalid or no longer available."⟩

/-- The handlers, each with the type of its messages, in their order. -/
def handlers : List (String × (PythonValue → Except RoomOperationError RoomRequest)) :=
  [("create_room", fun message =>
      .ok (.createRoom (message.get "name")
        (libraries.text (message.getD "visibility" (.str []))))),
    ("get_lobby", fun _ => .ok .getLobby),
    ("subscribe_lobby", fun _ => .ok .subscribeLobby),
    ("join_room", fun message => .joinRoom <$> libraries.roomUuid message),
    ("join_hidden_room", fun message => .joinHiddenRoom <$> libraries.hiddenCode message),
    ("watch_game", fun message => .watchGame <$> libraries.roomUuid message),
    ("find_match", fun _ => .ok .findMatch),
    ("cancel_find_match", fun _ => .ok .cancelFindMatch),
    ("leave_spectator", fun message => .leaveSpectator <$> libraries.roomUuid message),
    ("move_request", fun message => do
      let roomId ← libraries.roomUuid message
      return .act roomId
        (.move (message.get "sequence") (message.get "from") (message.get "to"))),
    ("jump_request", fun message => do
      let roomId ← libraries.roomUuid message
      return .act roomId (.jump (message.get "sequence") (message.get "cell")))]

/-- `_handle_room_message` up to its first await; nothing for a type that no handler has. -/
def roomRequest? (message : PythonValue) : Option (Except RoomOperationError RoomRequest) :=
  (libraries.handlers.find? fun handler => (message.get "type").isText handler.1).map fun handler =>
    handler.2 message

/-- What the loop makes of a message. -/
def route (message : PythonValue) : Routed :=
  if message.isDict = false then .error "invalid_message" "Message must be a JSON object"
  else if (message.get "type").isText "ping" then .pong
  else
    match libraries.roomRequest? message with
    | some (.ok request) => .request request
    | some (.error error) => .refused error
    | none => .error "unsupported_message_type" "Message type is not supported"

/-- What the loop makes of a text. -/
def routeText (text : String) : Routed :=
  match libraries.loads text with
  | some message => libraries.route message
  | none => .error "invalid_json" "Message must be valid JSON"

/-! ## Messages of a type that is known -/

variable {libraries}

theorem roomRequest?_typed {message : PythonValue} {type : String}
    (typed : message.get "type" = .str (codePoints type)) :
    libraries.roomRequest? message =
      (libraries.handlers.lookup type).map fun handle => handle message := by
  rw [roomRequest?, typed]
  simp only [PythonValue.isText_codePoints]
  generalize libraries.handlers = handlers
  induction handlers with
  | nil => rfl
  | cons handler handlers ih =>
      rw [List.find?_cons, List.lookup_cons]
      cases type == handler.1 with
      | false => exact ih
      | true => rfl

/-- **A dictionary reaches the handler of its type.** -/
theorem route_typed {message : PythonValue} {type : String}
    {handle : PythonValue → Except RoomOperationError RoomRequest} {request : RoomRequest}
    (isDict : message.isDict = true) (typed : message.get "type" = .str (codePoints type))
    (noPing : type ≠ "ping") (known : libraries.handlers.lookup type = some handle)
    (handled : handle message = .ok request) :
    libraries.route message = .request request := by
  have notPing : (message.get "type").isText "ping" = false := by
    rw [typed, PythonValue.isText_codePoints]
    exact beq_false_of_ne noPing
  rw [route, isDict, notPing, roomRequest?_typed typed, known]
  simp only [Option.map_some, handled, Bool.true_eq_false, if_false, Bool.false_eq_true]

theorem roomUuid_text {message : PythonValue} {text : PythonString} {roomId : RoomId}
    (named : message.getD "room_id" (.str []) = .str text)
    (isRoom : libraries.uuid text = some roomId) : libraries.roomUuid message = .ok roomId := by
  rw [roomUuid, named, RouterLibraries.text, isRoom]

theorem hiddenCode_text {message : PythonValue} {roomCode : PythonString}
    (coded : message.get "room_code" = .str roomCode) (written : roomCode ≠ [])
    (noSpace : ∀ point ∈ roomCode, libraries.isSpace point = false) :
    libraries.hiddenCode message = .ok roomCode := by
  have kept : libraries.strip roomCode = roomCode := by
    rw [UnicodeData.strip, List.dropWhile_eq_self_iff.mpr fun long => by simp [noSpace],
      List.rdropWhile_eq_self_iff.mpr fun some => by simp [noSpace]]
  rw [hiddenCode, coded]
  exact if_pos (kept.symm ▸ written)

end RouterLibraries

end KungFuChess

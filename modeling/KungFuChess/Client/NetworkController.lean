import KungFuChess.Client.GameState
import KungFuChess.Control.Controller

/-!
# The controller of a network player

`NetworkController` turns the clicks of a player into a selection and into requests to
the server. It decides by the snapshot that the client keeps, which the updates of the
server replace between two clicks, so a selection may go stale: the piece may be
captured, or start to cool down, while its cell is selected. The controller looks at the
selected cell again whenever the snapshot has changed.

What the calls on the network client return while one input is handled is an argument:
the updates that wait, the flags and the colour at each place where they are read, the
sequence number, and the response to a request or the exception instead of it.
-/

set_option autoImplicit false

namespace KungFuChess

/-! ## What the client keeps -/

namespace ClientGameState

def findPieceAt (state : ClientGameState) (position : Position) : Option PieceSnapshot :=
  if state.initialized then
    state.currentSnapshot.pieces.find? fun piece => piece.position = position
  else none

def isGameOver (state : ClientGameState) : Bool :=
  state.initialized && state.currentSnapshot.gameOver

end ClientGameState

/-- What the calls on the network client return while one input is handled. -/
structure ClientReadings where
  updates : List Message := []
  startedAfterUpdates : Bool := true
  started : Bool := true
  startedToSend : Bool := true
  connected : Bool := true
  colorAfterUpdates : Option PieceColor
  colorOfSelected : Option PieceColor
  colorOfClicked : Option PieceColor
  sequence : Nat
  response : Except String Message

structure NetworkController where
  gameState : ClientGameState := {}
  selectedCell : Option Position := none
  geometry : BoardGeometry
  boardRows : Int := 8
  boardCols : Int := 8

namespace NetworkController

/-! ## The source -/

/-- What the constructor asks for. -/
def Valid (controller : NetworkController) : Prop :=
  0 < controller.geometry.cellSizeX ∧ 0 < controller.geometry.cellSizeY ∧
    0 < controller.boardRows ∧ 0 < controller.boardCols

instance (controller : NetworkController) : Decidable controller.Valid :=
  inferInstanceAs (Decidable (_ ∧ _ ∧ _ ∧ _))

/-- What a handler returns: the result, the request it hands to the client, if any, and
the controller. -/
abbrev Handled := ControllerResult × Option Message × NetworkController

def haveSameColor (first second : PieceSnapshot) : Bool :=
  first.token ≠ "" && second.token ≠ "" && first.token.toList.head? = second.token.toList.head?

def mapClickToCell (controller : NetworkController) (x y : Int) : Option Position :=
  let relativeX := x - controller.geometry.boardStartX
  let relativeY := y - controller.geometry.boardStartY
  if relativeX < 0 ∨ relativeY < 0 then none
  else
    let col := relativeX.tdiv controller.geometry.cellSizeX
    let row := relativeY.tdiv controller.geometry.cellSizeY
    if row < 0 ∨ controller.boardRows ≤ row ∨ col < 0 ∨ controller.boardCols ≤ col then none
    else some ⟨row, col⟩

def isPieceAvailable : Option PieceSnapshot → Bool
  | none => false
  | some piece => piece.state = "idle" && decide (piece.remainingCooldownMs ≤ 0)

/-- `isOwnedPiece`, for the colour assigned to the client, if any. -/
def isOwnedPiece (assigned : Option PieceColor) : Option PieceSnapshot → Bool
  | none => false
  | some piece =>
      match assigned with
      | none => false
      | some color => piece.token.toList.head? = some (if color = .white then 'w' else 'b')

def select (controller : NetworkController) (selectedCell : Option Position) :
    NetworkController :=
  { controller with selectedCell := selectedCell }

/-- The loop over the updates: whether one of them was stored. -/
def applyUpdates (gameState : ClientGameState) (updates : List Message) :
    Bool × ClientGameState :=
  updates.foldl (fun (applied : Bool × ClientGameState) (update : Message) =>
    let stored := applied.2.applyMessage update
    (applied.1 || stored.1, stored.2)) (false, gameState)

def applyPendingUpdates (controller : NetworkController) (seen : ClientReadings) :
    Bool × NetworkController :=
  let applied := applyUpdates controller.gameState seen.updates
  let controller := { controller with gameState := applied.2 }
  let controller := if seen.startedAfterUpdates then controller else controller.select none
  match applied.1, controller.selectedCell with
  | true, some cell =>
      let piece := controller.gameState.findPieceAt cell
      (true,
        if !isPieceAvailable piece || !isOwnedPiece seen.colorAfterUpdates piece then
          controller.select none
        else controller)
  | stateWasUpdated, _ => (stateWasUpdated, controller)

def selectFirstPiece (controller : NetworkController) (seen : ClientReadings)
    (clickedPosition : Position) : Handled :=
  let piece := controller.gameState.findPieceAt clickedPosition
  if piece = none then (⟨false, Reasons.emptyClick⟩, none, controller)
  else if !isPieceAvailable piece then (⟨false, Reasons.motionInProgress⟩, none, controller)
  else if !isOwnedPiece seen.colorOfClicked piece then
    (⟨false, "not_your_piece"⟩, none, controller)
  else (⟨true, Reasons.selected⟩, none, controller.select (some clickedPosition))

def selectFriendlyPiece (controller : NetworkController) (seen : ClientReadings)
    (clickedPosition : Position) : Handled :=
  let piece := controller.gameState.findPieceAt clickedPosition
  let owned := isOwnedPiece seen.colorOfClicked piece
  if !isPieceAvailable piece || !owned then
    (⟨false, if !owned then "not_your_piece" else Reasons.motionInProgress⟩, none,
      controller.select none)
  else (⟨true, Reasons.selected⟩, none, controller.select (some clickedPosition))

/-- The request that `sendRequest` makes. -/
def requestFor (controller : NetworkController) (seen : ClientReadings) (type : MessageType)
    (source destination : Position) : Message where
  type := type
  sequence := seen.sequence
  source := source
  destination := destination
  createdAtMs := controller.gameState.currentSnapshot.serverTimeMs

def sendRequest (controller : NetworkController) (seen : ClientReadings) (type : MessageType)
    (source destination : Position) : Handled :=
  if !seen.startedToSend then (⟨false, "waiting_for_opponent"⟩, none, controller.select none)
  else if !seen.connected then
    (⟨false, "network_error: client_not_connected"⟩, none, controller)
  else
    let request := controller.requestFor seen type source destination
    match seen.response with
    | .error what => (⟨false, "network_error: " ++ what⟩, some request, controller)
    | .ok response =>
        let controller := controller.select none
        if !response.hasSnapshot then
          (⟨false, "missing_server_snapshot"⟩, some request, controller)
        else
          (⟨response.accepted, response.reason⟩, some request,
            { controller with gameState := controller.gameState.apply response })

/-- `handleSelectedCell`, with the selected cell as `source`. -/
def handleSelectedCell (controller : NetworkController) (seen : ClientReadings)
    (source clickedPosition : Position) : Handled :=
  if clickedPosition = source then controller.sendRequest seen .jumpRequest source source
  else
    match controller.gameState.findPieceAt source with
    | none => (⟨false, Reasons.emptySource⟩, none, controller.select none)
    | some selectedPiece =>
        if !isPieceAvailable (some selectedPiece) then
          (⟨false, Reasons.motionInProgress⟩, none, controller.select none)
        else if !isOwnedPiece seen.colorOfSelected (some selectedPiece) then
          (⟨false, "not_your_piece"⟩, none, controller.select none)
        else if ∃ clickedPiece ∈ controller.gameState.findPieceAt clickedPosition,
            haveSameColor selectedPiece clickedPiece = true then
          controller.selectFriendlyPiece seen clickedPosition
        else controller.sendRequest seen .moveRequest source clickedPosition

/-- The checks that clicks and jumps begin with; what follows them gets the cell. -/
def guarded (controller : NetworkController) (seen : ClientReadings) (x y : Int)
    (outside : NetworkController → Handled) (inside : NetworkController → Position → Handled) :
    Handled :=
  let controller := (controller.applyPendingUpdates seen).2
  if !seen.started then (⟨false, "waiting_for_opponent"⟩, none, controller.select none)
  else if !controller.gameState.initialized then
    (⟨false, "client_state_not_initialized"⟩, none, controller)
  else if controller.gameState.isGameOver then
    (⟨false, Reasons.gameOver⟩, none, controller.select none)
  else
    match controller.mapClickToCell x y with
    | none => outside controller
    | some cell => inside controller cell

def click (controller : NetworkController) (seen : ClientReadings) (x y : Int) : Handled :=
  controller.guarded seen x y
    (fun controller =>
      (⟨controller.selectedCell.isSome, Reasons.clickOutside⟩, none, controller.select none))
    (fun controller clickedCell =>
      match controller.selectedCell with
      | none => controller.selectFirstPiece seen clickedCell
      | some source => controller.handleSelectedCell seen source clickedCell)

def jump (controller : NetworkController) (seen : ClientReadings) (x y : Int) : Handled :=
  controller.guarded seen x y
    (fun controller => (⟨false, Reasons.clickOutside⟩, none, controller.select none))
    (fun controller clickedCell =>
      let piece := controller.gameState.findPieceAt clickedCell
      if !isOwnedPiece seen.colorOfClicked piece then
        (⟨false, "not_your_piece"⟩, none, controller.select none)
      else controller.sendRequest seen .jumpRequest clickedCell clickedCell)

/-- What the window calls. -/
inductive Input where
  | click (x y : Int)
  | jump (x y : Int)
  | applyPendingUpdates
  | clearSelection
  deriving DecidableEq

/-- One input: the request handed to the client, if any, and the controller. -/
def handle (controller : NetworkController) (seen : ClientReadings) :
    Input → Option Message × NetworkController
  | .click x y => (controller.click seen x y).2
  | .jump x y => (controller.jump seen x y).2
  | .applyPendingUpdates => (none, (controller.applyPendingUpdates seen).2)
  | .clearSelection => (none, controller.select none)

/-- The controller after one input. -/
def step (controller : NetworkController) (input : ClientReadings × Input) : NetworkController :=
  (controller.handle input.1 input.2).2

/-! ## Cells -/

/-- The board of the controller, without pieces. -/
def board (controller : NetworkController) : Board :=
  .empty controller.boardRows controller.boardCols

/-- **The network player's clicks fall on the cells that the console's clicks fall on**,
for the same geometry and a board of the same size. -/
theorem mapClickToCell_eq {controller : NetworkController} (valid : controller.Valid)
    (x y : Int) :
    controller.mapClickToCell x y =
      BoardMapper.pixelToCell x y controller.board controller.geometry := by
  obtain ⟨wide, high, _, _⟩ := valid
  refine Option.ext fun cell => ?_
  rw [BoardMapper.pixelToCell_eq_some_iff wide high]
  unfold mapClickToCell
  dsimp only
  constructor
  · intro mapped
    split at mapped
    · cases mapped
    · next forward =>
        obtain ⟨right, down⟩ := not_or.mp forward
        split at mapped
        · cases mapped
        · next within =>
            cases mapped
            have column := (BoardMapper.tdiv_eq_iff wide (not_lt.mp right)).mp rfl
            have row := (BoardMapper.tdiv_eq_iff high (not_lt.mp down)).mp rfl
            obtain ⟨rowLow, rowHigh, colLow, colHigh⟩ := by
              simpa only [not_or, not_lt, not_le] using within
            exact ⟨⟨rowLow, colLow, rowHigh, colHigh⟩,
              ⟨by linarith [column.1], by linarith [column.2]⟩,
              by linarith [row.1], by linarith [row.2]⟩
  · rintro ⟨⟨rowLow, colLow, rowHigh, colHigh⟩, ⟨left, right⟩, top, bottom⟩
    have across : 0 ≤ cell.col * controller.geometry.cellSizeX := mul_nonneg colLow wide.le
    have along : 0 ≤ cell.row * controller.geometry.cellSizeY := mul_nonneg rowLow high.le
    have column : (x - controller.geometry.boardStartX).tdiv controller.geometry.cellSizeX =
        cell.col := (BoardMapper.tdiv_eq_iff wide (by omega)).mpr ⟨by omega, by omega⟩
    have row : (y - controller.geometry.boardStartY).tdiv controller.geometry.cellSizeY =
        cell.row := (BoardMapper.tdiv_eq_iff high (by omega)).mpr ⟨by omega, by omega⟩
    have rows : cell.row < controller.boardRows := rowHigh
    have cols : cell.col < controller.boardCols := colHigh
    rw [if_neg (by omega), row, column, if_neg (by omega)]

theorem isInside_of_mapClickToCell {controller : NetworkController} (valid : controller.Valid)
    {x y : Int} {cell : Position} (mapped : controller.mapClickToCell x y = some cell) :
    controller.board.isInside cell := by
  rw [mapClickToCell_eq valid] at mapped
  exact BoardMapper.isInside_of_pixelToCell mapped

/-! ## What the selection shows -/

/-- The colours read while an input is handled are this one, or none yet. -/
def OnlyColor (mine : PieceColor) (seen : ClientReadings) : Prop :=
  (∀ color ∈ seen.colorAfterUpdates, color = mine) ∧
    (∀ color ∈ seen.colorOfSelected, color = mine) ∧
    ∀ color ∈ seen.colorOfClicked, color = mine

/-- A selected cell is on the board and shows an own piece that can move. -/
def Selects (mine : PieceColor) (controller : NetworkController) : Prop :=
  ∀ cell ∈ controller.selectedCell, controller.board.isInside cell ∧
    isPieceAvailable (controller.gameState.findPieceAt cell) = true ∧
    isOwnedPiece (some mine) (controller.gameState.findPieceAt cell) = true

/-- A request that goes with what the controller shows: the game goes on, both cells are
on the board, an own piece is on the source, and a move does not end on an own piece. -/
structure Backed (mine : PieceColor) (shown : NetworkController) (request : Message) : Prop where
  initialized : shown.gameState.initialized = true
  ongoing : shown.gameState.isGameOver = false
  source : shown.board.isInside request.source
  destination : shown.board.isInside request.destination
  own : isOwnedPiece (some mine) (shown.gameState.findPieceAt request.source) = true
  form : request.type = .jumpRequest ∧ request.destination = request.source ∨
    request.type = .moveRequest ∧ request.destination ≠ request.source ∧
      isPieceAvailable (shown.gameState.findPieceAt request.source) = true ∧
      isOwnedPiece (some mine) (shown.gameState.findPieceAt request.destination) = false
  time : request.createdAtMs = shown.gameState.currentSnapshot.serverTimeMs

section Selection

variable {mine : PieceColor} {controller : NetworkController} {seen : ClientReadings}

theorem selects_none : Selects mine (controller.select none) :=
  fun _ selected => by cases selected

theorem isOwnedPiece_of {assigned : Option PieceColor} {piece : Option PieceSnapshot}
    (only : ∀ color ∈ assigned, color = mine) (owned : isOwnedPiece assigned piece = true) :
    isOwnedPiece (some mine) piece = true := by
  cases piece with
  | none => cases owned
  | some shown =>
      cases assigned with
      | none => cases owned
      | some color =>
          have same : color = mine := only color rfl
          subst same
          exact owned

/-- A piece of another colour than an own piece is not an own piece. -/
theorem not_owned_of_other_color {selected : PieceSnapshot} {clicked : Option PieceSnapshot}
    (owned : isOwnedPiece (some mine) (some selected) = true)
    (hostile : ¬ ∃ piece ∈ clicked, haveSameColor selected piece = true) :
    isOwnedPiece (some mine) clicked = false := by
  cases clicked with
  | none => rfl
  | some piece =>
      refine Bool.eq_false_iff.mpr fun ownedToo => hostile ⟨piece, rfl, ?_⟩
      have first : selected.token.toList.head? = some (if mine = .white then 'w' else 'b') :=
        of_decide_eq_true owned
      have second : piece.token.toList.head? = some (if mine = .white then 'w' else 'b') :=
        of_decide_eq_true ownedToo
      have filled : ∀ {token : String}, token.toList.head? =
          some (if mine = .white then 'w' else 'b') → token ≠ "" := by
        rintro token head rfl
        cases head
      simp only [haveSameColor, ne_eq, filled first, filled second, not_false_eq_true,
        decide_true, Bool.and_true, first, second]

theorem fold_unchanged (updates : List Message) :
    ∀ (flag : Bool) (gameState : ClientGameState),
      (updates.foldl (fun (applied : Bool × ClientGameState) (update : Message) =>
        let stored := applied.2.applyMessage update
        (applied.1 || stored.1, stored.2)) (flag, gameState)).1 = false →
      flag = false ∧ (updates.foldl (fun (applied : Bool × ClientGameState) (update : Message) =>
        let stored := applied.2.applyMessage update
        (applied.1 || stored.1, stored.2)) (flag, gameState)).2 = gameState := by
  induction updates with
  | nil => exact fun flag gameState unchanged => ⟨unchanged, rfl⟩
  | cons update rest ih =>
      intro flag gameState unchanged
      obtain ⟨noneYet, same⟩ := ih _ _ unchanged
      obtain ⟨before, here⟩ := Bool.or_eq_false_iff.mp noneYet
      refine ⟨before, same.trans ?_⟩
      unfold ClientGameState.applyMessage at here ⊢
      split at here
      · rw [if_pos ‹_›]
      · rw [if_neg ‹_›]
        split at here
        · rw [if_pos ‹_›]
        · cases here

/-- Updates that store nothing change nothing. -/
theorem applyUpdates_unchanged {gameState : ClientGameState} {updates : List Message}
    (unchanged : (applyUpdates gameState updates).1 = false) :
    (applyUpdates gameState updates).2 = gameState :=
  (fold_unchanged updates false gameState unchanged).2

/-- **What updates leave**: the new snapshot, and the selection or none. A selection that
stays is backed by the snapshot if that has changed. -/
theorem applyPendingUpdates_cases (controller : NetworkController) (seen : ClientReadings) :
    ∃ selection, (controller.applyPendingUpdates seen).2 =
        { controller with
          gameState := (applyUpdates controller.gameState seen.updates).2
          selectedCell := selection } ∧
      ∀ cell ∈ selection, controller.selectedCell = some cell ∧
        ((applyUpdates controller.gameState seen.updates).1 = true →
          isPieceAvailable ((applyUpdates controller.gameState
            seen.updates).2.findPieceAt cell) = true ∧
          isOwnedPiece seen.colorAfterUpdates ((applyUpdates controller.gameState
            seen.updates).2.findPieceAt cell) = true) := by
  have nothing : ∀ {motive : Position → Prop}, ∀ cell ∈ (none : Option Position), motive cell :=
    fun _ isNone => by cases isNone
  unfold applyPendingUpdates
  dsimp only
  cases (applyUpdates controller.gameState seen.updates).1 with
  | false =>
      cases seen.startedAfterUpdates with
      | true => exact ⟨controller.selectedCell, rfl, fun cell isCell => ⟨isCell, nofun⟩⟩
      | false => exact ⟨none, rfl, nothing⟩
  | true =>
      cases seen.startedAfterUpdates with
      | false => exact ⟨none, rfl, nothing⟩
      | true =>
          cases selected : controller.selectedCell with
          | none => exact ⟨none, by simp only [if_true], nothing⟩
          | some cell =>
              simp only [if_true]
              split
              · exact ⟨none, rfl, nothing⟩
              · next passed =>
                  refine ⟨some cell, by rw [← selected], fun other isOther => ?_⟩
                  cases isOther
                  refine ⟨rfl, fun _ => ?_⟩
                  simpa only [Bool.or_eq_true, Bool.not_eq_true', not_or, Bool.not_eq_false]
                    using passed

/-- **The selected cell is looked at again after updates.** -/
theorem Selects.applyPendingUpdates (selects : Selects mine controller)
    (only : OnlyColor mine seen) : Selects mine (controller.applyPendingUpdates seen).2 := by
  obtain ⟨selection, after, backed⟩ := applyPendingUpdates_cases controller seen
  rw [after]
  intro cell selected
  obtain ⟨before, checked⟩ := backed cell selected
  obtain ⟨inside, available, owned⟩ := selects cell before
  refine ⟨inside, ?_⟩
  dsimp only
  cases changed : (applyUpdates controller.gameState seen.updates).1 with
  | true =>
      obtain ⟨availableNow, ownedNow⟩ := checked changed
      exact ⟨availableNow, isOwnedPiece_of only.1 ownedNow⟩
  | false =>
      rw [applyUpdates_unchanged changed]
      exact ⟨available, owned⟩

theorem applyPendingUpdates_board (controller : NetworkController) (seen : ClientReadings) :
    (controller.applyPendingUpdates seen).2.board = controller.board ∧
      ((controller.applyPendingUpdates seen).2.Valid ↔ controller.Valid) := by
  obtain ⟨selection, after, _⟩ := applyPendingUpdates_cases controller seen
  rw [after]
  exact ⟨rfl, Iff.rfl⟩

/-! ## Handlers -/

/-- What a handler keeps and sends. -/
structure Fine (mine : PieceColor) (shown : NetworkController) (handled : Handled) : Prop where
  selects : Selects mine handled.2.2
  backed : ∀ request ∈ handled.2.1, Backed mine shown request
  board : handled.2.2.board = shown.board
  valid : handled.2.2.Valid ↔ shown.Valid

theorem fine_unselected (result : ControllerResult) :
    Fine mine controller (result, none, controller.select none) where
  selects := selects_none
  backed := fun _ isNone => by cases isNone
  board := rfl
  valid := Iff.rfl

theorem Selects.fine_same (selects : Selects mine controller) (result : ControllerResult) :
    Fine mine controller (result, none, controller) where
  selects := selects
  backed := fun _ isNone => by cases isNone
  board := rfl
  valid := Iff.rfl

theorem fine_selected {cell : Position} (inside : controller.board.isInside cell)
    (available : isPieceAvailable (controller.gameState.findPieceAt cell) = true)
    (owned : isOwnedPiece (some mine) (controller.gameState.findPieceAt cell) = true)
    (result : ControllerResult) :
    Fine mine controller (result, none, controller.select (some cell)) where
  selects := by
    intro other isOther
    cases isOther
    exact ⟨inside, available, owned⟩
  backed := fun _ isNone => by cases isNone
  board := rfl
  valid := Iff.rfl

theorem selectFirstPiece_fine (selects : Selects mine controller) (only : OnlyColor mine seen)
    {cell : Position} (inside : controller.board.isInside cell) :
    Fine mine controller (controller.selectFirstPiece seen cell) := by
  unfold selectFirstPiece
  dsimp only
  split
  · exact selects.fine_same _
  · split
    · exact selects.fine_same _
    · next available =>
        split
        · exact selects.fine_same _
        · next owned =>
            simp only [Bool.not_eq_true', Bool.not_eq_false] at available owned
            exact fine_selected inside available (isOwnedPiece_of only.2.2 owned) _

theorem selectFriendlyPiece_fine (only : OnlyColor mine seen) {cell : Position}
    (inside : controller.board.isInside cell) :
    Fine mine controller (controller.selectFriendlyPiece seen cell) := by
  unfold selectFriendlyPiece
  dsimp only
  split
  · exact fine_unselected _
  · next passed =>
      simp only [Bool.or_eq_true, Bool.not_eq_true', not_or, Bool.not_eq_false] at passed
      exact fine_selected inside passed.1 (isOwnedPiece_of only.2.2 passed.2) _

/-- A request that would be backed is sent so, and its response ends the selection. -/
theorem sendRequest_fine (selects : Selects mine controller) {type : MessageType}
    {source destination : Position}
    (backed : Backed mine controller (controller.requestFor seen type source destination)) :
    Fine mine controller (controller.sendRequest seen type source destination) := by
  have sent : ∀ request ∈ some (controller.requestFor seen type source destination),
      Backed mine controller request := by
    intro request isRequest
    cases isRequest
    exact backed
  unfold sendRequest
  split
  · exact fine_unselected _
  · split
    · exact selects.fine_same _
    · dsimp only
      cases seen.response with
      | error what => exact ⟨selects, sent, rfl, Iff.rfl⟩
      | ok response =>
          dsimp only
          split
          · exact ⟨selects_none, sent, rfl, Iff.rfl⟩
          · exact ⟨fun _ selected => (by cases selected), sent, rfl, Iff.rfl⟩

theorem handleSelectedCell_fine (selects : Selects mine controller) (only : OnlyColor mine seen)
    (initialized : controller.gameState.initialized = true)
    (ongoing : controller.gameState.isGameOver = false) {source cell : Position}
    (selected : controller.selectedCell = some source)
    (inside : controller.board.isInside cell) :
    Fine mine controller (controller.handleSelectedCell seen source cell) := by
  obtain ⟨sourceInside, sourceAvailable, sourceOwned⟩ := selects source selected
  unfold handleSelectedCell
  split
  · exact sendRequest_fine selects
      ⟨initialized, ongoing, sourceInside, sourceInside, sourceOwned, .inl ⟨rfl, rfl⟩, rfl⟩
  · next distinct =>
      cases here : controller.gameState.findPieceAt source with
      | none => exact fine_unselected _
      | some selectedPiece =>
          dsimp only
          split
          · exact fine_unselected _
          · split
            · exact fine_unselected _
            · split
              · exact selectFriendlyPiece_fine only inside
              · next hostile =>
                  rw [here] at sourceOwned
                  refine sendRequest_fine selects ⟨initialized, ongoing, sourceInside, inside, ?_,
                    .inr ⟨rfl, distinct, sourceAvailable, ?_⟩, rfl⟩
                  · change isOwnedPiece _ (controller.gameState.findPieceAt source) = true
                    rw [here]
                    exact sourceOwned
                  · exact not_owned_of_other_color sourceOwned hostile

/-- The checks in front keep what the cell handlers keep. -/
theorem guarded_fine (valid : controller.Valid) (selects : Selects mine controller)
    (only : OnlyColor mine seen) (x y : Int)
    {outside : NetworkController → Handled} {inside : NetworkController → Position → Handled}
    (isOutside : ∀ shown : NetworkController, Selects mine shown → Fine mine shown (outside shown))
    (isInside : ∀ (shown : NetworkController) (cell : Position), Selects mine shown →
      shown.gameState.initialized = true → shown.gameState.isGameOver = false →
      shown.board.isInside cell → Fine mine shown (inside shown cell)) :
    Fine mine (controller.applyPendingUpdates seen).2
      (controller.guarded seen x y outside inside) := by
  have selectsNow := selects.applyPendingUpdates only
  have validNow := (applyPendingUpdates_board controller seen).2.mpr valid
  unfold guarded
  generalize (controller.applyPendingUpdates seen).2 = shown at selectsNow validNow ⊢
  split
  · exact fine_unselected _
  · dsimp only
    split
    · exact selectsNow.fine_same _
    · next initialized =>
        split
        · exact fine_unselected _
        · next ongoing =>
            simp only [Bool.not_eq_true', Bool.not_eq_false] at initialized
            have goesOn := Bool.eq_false_iff.mpr ongoing
            cases mapped : shown.mapClickToCell x y with
            | none => exact isOutside shown selectsNow
            | some cell =>
                exact isInside shown cell selectsNow initialized goesOn
                  (isInside_of_mapClickToCell validNow mapped)

theorem click_fine (valid : controller.Valid) (selects : Selects mine controller)
    (only : OnlyColor mine seen) (x y : Int) :
    Fine mine (controller.applyPendingUpdates seen).2 (controller.click seen x y) := by
  refine guarded_fine valid selects only x y (fun _ _ => fine_unselected _) ?_
  intro shown cell selectsNow initialized ongoing inside
  cases selected : shown.selectedCell with
  | none => exact selectFirstPiece_fine selectsNow only inside
  | some source =>
      exact handleSelectedCell_fine selectsNow only initialized ongoing selected inside

theorem jump_fine (valid : controller.Valid) (selects : Selects mine controller)
    (only : OnlyColor mine seen) (x y : Int) :
    Fine mine (controller.applyPendingUpdates seen).2 (controller.jump seen x y) := by
  refine guarded_fine valid selects only x y (fun _ _ => fine_unselected _) ?_
  intro shown cell selectsNow initialized ongoing inside
  dsimp only
  split
  · exact fine_unselected _
  · next owned =>
      simp only [Bool.not_eq_true', Bool.not_eq_false] at owned
      exact sendRequest_fine selectsNow ⟨initialized, ongoing, inside, inside,
        isOwnedPiece_of only.2.2 owned, .inl ⟨rfl, rfl⟩, rfl⟩

/-- **One input** keeps the selection backed, and what it sends is backed. -/
theorem handle_fine (valid : controller.Valid) (selects : Selects mine controller)
    (only : OnlyColor mine seen) (input : Input) :
    Selects mine (controller.handle seen input).2 ∧ (controller.handle seen input).2.Valid ∧
      ∀ request ∈ (controller.handle seen input).1,
        Backed mine (controller.applyPendingUpdates seen).2 request := by
  have same := (applyPendingUpdates_board controller seen).2
  cases input with
  | click x y =>
      have fine := click_fine valid selects only x y
      exact ⟨fine.selects, fine.valid.mpr (same.mpr valid), fine.backed⟩
  | jump x y =>
      have fine := jump_fine valid selects only x y
      exact ⟨fine.selects, fine.valid.mpr (same.mpr valid), fine.backed⟩
  | applyPendingUpdates =>
      exact ⟨selects.applyPendingUpdates only, same.mpr valid, fun _ isNone => by cases isNone⟩
  | clearSelection => exact ⟨selects_none, valid, fun _ isNone => by cases isNone⟩

end Selection

/-- **A player's window only asks for what it shows.** From a new controller on, whatever
is clicked and jumped, whatever updates arrive in between and however requests fail, as
long as the player keeps one colour: a selected cell shows an own piece that can move;
and every request that is sent stands for an own piece on the snapshot shown when it is
sent, between cells of the board, while the game goes on, and a move among them starts
with a piece that can move and does not end on an own piece. -/
theorem run_backed (mine : PieceColor) (geometry : BoardGeometry) (boardRows boardCols : Int)
    (valid : Valid { geometry := geometry, boardRows := boardRows, boardCols := boardCols })
    (inputs : List (ClientReadings × Input)) (only : ∀ input ∈ inputs, OnlyColor mine input.1) :
    Selects mine (Trace.run step
      { geometry := geometry, boardRows := boardRows, boardCols := boardCols } inputs) ∧
    ∀ visit ∈ Trace.visits step
      { geometry := geometry, boardRows := boardRows, boardCols := boardCols } inputs,
      ∀ request ∈ (visit.1.handle visit.2.1 visit.2.2).1,
        Backed mine (visit.1.applyPendingUpdates visit.2.1).2 request := by
  have admitted : ∀ visit ∈ Trace.visits step
      { geometry := geometry, boardRows := boardRows, boardCols := boardCols } inputs,
      OnlyColor mine visit.2.1 := by
    intro visit member
    obtain ⟨before, later, same, _⟩ := Trace.visits_split member
    refine only visit.2 ?_
    rw [same]
    exact List.mem_append_right _ List.mem_cons_self
  have preserved : ∀ (controller : NetworkController) (input : ClientReadings × Input),
      OnlyColor mine input.1 → Selects mine controller ∧ controller.Valid →
      Selects mine (step controller input) ∧ (step controller input).Valid := by
    rintro controller input isOnly ⟨selects, isValid⟩
    have fine := handle_fine isValid selects isOnly input.2
    exact ⟨fine.1, fine.2.1⟩
  have start : Selects mine
      { geometry := geometry, boardRows := boardRows, boardCols := boardCols } :=
    fun _ selected => by cases selected
  refine ⟨(Trace.run_rule (motive := fun controller : NetworkController =>
    Selects mine controller ∧ controller.Valid) (fun _ input => OnlyColor mine input.1) preserved
      inputs _ admitted ⟨start, valid⟩).1, ?_⟩
  intro visit member
  obtain ⟨selects, isValid⟩ := Trace.visits_rule (motive := fun controller : NetworkController =>
    Selects mine controller ∧ controller.Valid) (fun _ input => OnlyColor mine input.1) preserved
      inputs _ admitted ⟨start, valid⟩ visit member
  exact (handle_fine isValid selects (admitted visit member) visit.2.2).2.2

/-- A white player selects a pawn of the snapshot that has just arrived, and moves it; the
response does not come. -/
def pawnInputs : List (ClientReadings × Input) :=
  let pawn : PieceSnapshot := { id := 20, token := "wP", position := ⟨6, 4⟩ }
  let update : Message :=
    { type := .gameStateUpdated
      hasSnapshot := true
      snapshot := { pieces := [pawn] } }
  let seen : ClientReadings :=
    { colorAfterUpdates := some .white
      colorOfSelected := some .white
      colorOfClicked := some .white
      sequence := 1
      response := .error "Timed out while waiting for server response" }
  [({ seen with updates := [update] }, .click 450 650), (seen, .click 450 550)]

theorem run_backed_pawnInputs :
    ((Trace.visits step { geometry := {} } pawnInputs).filterMap fun visit =>
      (visit.1.handle visit.2.1 visit.2.2).1).map (fun request : Message =>
        (request.type, request.source, request.destination)) =
      [(.moveRequest, ⟨6, 4⟩, ⟨5, 4⟩)] ∧
    Selects .white (Trace.run step { geometry := {} } pawnInputs) := by
  have white : ∀ color ∈ some PieceColor.white, color = PieceColor.white := by
    intro color isColor
    cases isColor
    rfl
  refine ⟨by decide, (run_backed .white {} 8 8 (by decide) pawnInputs ?_).1⟩
  intro input member
  rcases List.mem_cons.mp member with rfl | later
  · exact ⟨white, white, white⟩
  · rw [List.mem_singleton.mp later]
    exact ⟨white, white, white⟩

end NetworkController

end KungFuChess

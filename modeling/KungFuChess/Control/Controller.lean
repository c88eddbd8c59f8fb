import KungFuChess.IO.BoardMapper
import KungFuChess.Messaging.MessageBus

/-!
# The console's controller

`Controller` turns clicks into selections and requests. A request goes to the engine
through a message bus and its answer comes back the same way, with a sequence number to
match the two. The player that asks the engine directly does the same: the bus is empty
between two clicks, so what comes back is the answer to the request just sent.
-/

set_option autoImplicit false

namespace KungFuChess

/-! ## The source -/

structure ControllerResult where
  handled : Bool
  reason : String
  deriving DecidableEq, Repr

namespace Reasons

def selected : String := "selected"
def clickOutside : String := "click_outside"
def emptyClick : String := "empty_click"

end Reasons

structure Controller where
  messageHandler : Messaging.EngineMessageHandler
  nextSequence : Nat := 1
  selectedCell : Option Position := none
  geometry : BoardGeometry := {}

/-- Whether a piece of the engine can be selected. -/
def GameEngine.isPieceAvailable (engine : GameEngine) (piece : Option PieceId) : Prop :=
  ∃ here ∈ piece, engine.stateOf here = .idle ∧
    (engine.pieces.get here).isOnCooldown engine.getCurrentTimeMs = false

instance (engine : GameEngine) (piece : Option PieceId) :
    Decidable (engine.isPieceAvailable piece) :=
  inferInstanceAs (Decidable (∃ _ ∈ _, _))

namespace Controller

/-- The constructors, with the default geometry or a given one. -/
def new (engine : GameEngine) (geometry : BoardGeometry) : Controller where
  messageHandler := { engine := engine }
  geometry := geometry

abbrev engine (controller : Controller) : GameEngine := controller.messageHandler.engine

def mapClickToCell (controller : Controller) (x y : Int) : Option Position :=
  BoardMapper.pixelToCell x y controller.engine.board controller.geometry

def select (controller : Controller) (selectedCell : Option Position) : Controller :=
  { controller with selectedCell := selectedCell }

def selectFirstPiece (controller : Controller) (clickedPosition : Position) :
    ControllerResult × Controller :=
  let piece := controller.engine.board.getPieceAt clickedPosition
  if piece = none then (⟨false, Reasons.emptyClick⟩, controller)
  else if ¬ controller.engine.isPieceAvailable piece then
    (⟨false, Reasons.motionInProgress⟩, controller)
  else (⟨true, Reasons.selected⟩, controller.select (some clickedPosition))

def selectFriendlyPiece (controller : Controller) (clickedPosition : Position) :
    ControllerResult × Controller :=
  let piece := controller.engine.board.getPieceAt clickedPosition
  if ¬ controller.engine.isPieceAvailable piece then
    (⟨false, Reasons.motionInProgress⟩, controller.select none)
  else (⟨true, Reasons.selected⟩, controller.select (some clickedPosition))

variable (load : PieceConfigReader)

/-- `sendRequest`; the counter is a 64-bit number. -/
def sendRequest (controller : Controller) (type : MessageType) (source destination : Position) :
    ControllerResult × Controller :=
  let request : Message :=
    { type := type
      sequence := controller.nextSequence
      source := source
      destination := destination
      createdAtMs := controller.engine.getCurrentTimeMs }
  let messageHandler := { controller.messageHandler with
    messageBus := controller.messageHandler.messageBus.sendToEngine request }
  let messageHandler := (messageHandler.processNextMessage load).2
  let controller := { controller with
    messageHandler := messageHandler
    nextSequence := (controller.nextSequence + 1) % 2 ^ 64 }
  match messageHandler.messageBus.receiveForClient with
  | none => (⟨false, "missing_engine_response"⟩, controller)
  | some (response, messageBus) =>
      let controller := { controller with
        messageHandler := { messageHandler with messageBus := messageBus } }
      if response.sequence ≠ request.sequence then
        (⟨false, "unexpected_response_sequence"⟩, controller)
      else (⟨response.accepted, response.reason⟩, controller)

def requestSelectedMove (controller : Controller) (source destination : Position) :
    ControllerResult × Controller :=
  (controller.select none).sendRequest load .moveRequest source destination

/-- `handleSelectedCell`, with the selected cell as `source`. -/
def handleSelectedCell (controller : Controller) (source clickedPosition : Position) :
    ControllerResult × Controller :=
  if clickedPosition = source then
    (controller.select none).sendRequest load .jumpRequest source source
  else
    match controller.engine.board.getPieceAt source with
    | none => (⟨false, Reasons.emptySource⟩, controller.select none)
    | some selectedPiece =>
        if ∃ clickedPiece ∈ controller.engine.board.getPieceAt clickedPosition,
            controller.engine.colorOf selectedPiece = controller.engine.colorOf clickedPiece then
          controller.selectFriendlyPiece clickedPosition
        else controller.requestSelectedMove load source clickedPosition

def click (controller : Controller) (x y : Int) : ControllerResult × Controller :=
  match controller.mapClickToCell x y with
  | none => (⟨controller.selectedCell.isSome, Reasons.clickOutside⟩, controller.select none)
  | some clickedCell =>
      match controller.selectedCell with
      | none => controller.selectFirstPiece clickedCell
      | some source => controller.handleSelectedCell load source clickedCell

def jump (controller : Controller) (x y : Int) : ControllerResult × Controller :=
  match controller.mapClickToCell x y with
  | none => (⟨false, Reasons.clickOutside⟩, controller.select none)
  | some clickedCell =>
      (controller.select none).sendRequest load .jumpRequest clickedCell clickedCell

/-- What a player does: a click, a jump, or waiting. -/
inductive Input where
  | click (x y : Int)
  | jump (x y : Int)
  | wait (ms : Int)
  deriving DecidableEq

/-- One input; waiting is a call on the engine itself and has no result. -/
def handle (controller : Controller) : Input → Option ControllerResult × Controller
  | .click x y => Prod.map some id (controller.click load x y)
  | .jump x y => Prod.map some id (controller.jump load x y)
  | .wait ms =>
      (none,
        { controller with
          messageHandler := { controller.messageHandler with
            engine := controller.engine.wait load ms } })

end Controller

/-! ## The player without a bus -/

/-- A player that holds the engine itself. -/
structure DirectPlayer where
  engine : GameEngine
  selectedCell : Option Position := none

namespace DirectPlayer

/-- What a player decides on: a result at once with the next selection, a request, or to
wait. -/
inductive Decision where
  | answer (result : ControllerResult) (selection : Option Position)
  | ask (request : Call)
  | wait (ms : Int)

/-- The call on the engine behind a decision. -/
def Decision.call : Decision → Option Call
  | .answer _ _ => none
  | .ask request => some request
  | .wait ms => some (.wait ms)

/-- What a click on a cell, or outside the board, decides. -/
def decideClick (player : DirectPlayer) : Option Position → Decision
  | none => .answer ⟨player.selectedCell.isSome, Reasons.clickOutside⟩ none
  | some clicked =>
      let there := player.engine.board.getPieceAt clicked
      match player.selectedCell with
      | none =>
          if there = none then .answer ⟨false, Reasons.emptyClick⟩ none
          else if ¬ player.engine.isPieceAvailable there then
            .answer ⟨false, Reasons.motionInProgress⟩ none
          else .answer ⟨true, Reasons.selected⟩ (some clicked)
      | some source =>
          if clicked = source then .ask (.requestJump source)
          else
            match player.engine.board.getPieceAt source with
            | none => .answer ⟨false, Reasons.emptySource⟩ none
            | some selected =>
                if ∃ other ∈ there, player.engine.colorOf selected =
                    player.engine.colorOf other then
                  if ¬ player.engine.isPieceAvailable there then
                    .answer ⟨false, Reasons.motionInProgress⟩ none
                  else .answer ⟨true, Reasons.selected⟩ (some clicked)
                else .ask (.requestMove source clicked)

/-- What a jump on a cell, or outside the board, decides. -/
def decideJump : Option Position → Decision
  | none => .answer ⟨false, Reasons.clickOutside⟩ none
  | some clicked => .ask (.requestJump clicked)

/-- The decision on an input. -/
def decide (geometry : BoardGeometry) (player : DirectPlayer) : Controller.Input → Decision
  | .click x y => player.decideClick (BoardMapper.pixelToCell x y player.engine.board geometry)
  | .jump x y => decideJump (BoardMapper.pixelToCell x y player.engine.board geometry)
  | .wait ms => .wait ms

variable (load : PieceConfigReader)

/-- The engine's verdict on a call; a wait has none. -/
def verdictOn (engine : GameEngine) : Call → Option MoveResult
  | .requestMove source destination => some (engine.requestMove load source destination).1
  | .requestJump cell => some (engine.requestJump load cell).1
  | .wait _ => none

/-- Carry a decision out: a request gives the selection up. -/
def carryOut (player : DirectPlayer) : Decision → Option ControllerResult × DirectPlayer
  | .answer result selection => (some result, { player with selectedCell := selection })
  | .ask request =>
      ((verdictOn load player.engine request).map fun verdict =>
          ⟨verdict.isAccepted, verdict.reason⟩,
        ⟨player.engine.perform load request, none⟩)
  | .wait ms => (none, { player with engine := player.engine.wait load ms })

/-- One input. -/
def handle (geometry : BoardGeometry) (player : DirectPlayer) (input : Controller.Input) :
    Option ControllerResult × DirectPlayer :=
  player.carryOut load (player.decide geometry input)

/-- The calls on the engine that inputs lead to. -/
def calls (geometry : BoardGeometry) (player : DirectPlayer) (inputs : List Controller.Input) :
    List Call :=
  (Trace.visits (fun state input => (handle load geometry state input).2) player inputs).filterMap
    fun visit => (visit.1.decide geometry visit.2).call

/-- The results of inputs. -/
def results (geometry : BoardGeometry) (player : DirectPlayer) (inputs : List Controller.Input) :
    List (Option ControllerResult) :=
  (Trace.visits (fun state input => (handle load geometry state input).2) player inputs).map
    fun visit => (handle load geometry visit.1 visit.2).1

end DirectPlayer

/-! ## The refinement -/

namespace Controller

variable (load : PieceConfigReader)

/-- The player a controller stands for. -/
def player (controller : Controller) : DirectPlayer := ⟨controller.engine, controller.selectedCell⟩

/-- Nothing waits on the controller's bus. -/
def Idle (controller : Controller) : Prop := controller.messageHandler.messageBus = {}

/-- **A request over an empty bus** is answered by the engine's verdict on it, and leaves
the bus empty. -/
theorem sendRequest_eq (controller : Controller) (idle : controller.Idle) {type : MessageType}
    {source destination : Position} {request : Call}
    (asks : Message.call { type := type, source := source, destination := destination } =
      some request) :
    ∃ verdict, DirectPlayer.verdictOn load controller.engine request = some verdict ∧
      controller.sendRequest load type source destination =
        (⟨verdict.isAccepted, verdict.reason⟩,
          { controller with
            messageHandler := ⟨controller.engine.perform load request, {}⟩
            nextSequence := (controller.nextSequence + 1) % 2 ^ 64 }) := by
  obtain ⟨⟨engine, bus⟩, sequence, selection, geometry⟩ := controller
  cases (show bus = {} from idle)
  have matching : ¬ sequence ≠ sequence := not_not.mpr rfl
  cases type with
  | moveRequest =>
      cases asks
      exact ⟨_, rfl, if_neg matching⟩
  | jumpRequest =>
      cases asks
      exact ⟨_, rfl, if_neg matching⟩
  | _ => cases asks

/-- What a result with the controller after it means for the player. -/
def Agrees (controller : Controller) (outcome : ControllerResult × Controller)
    (decision : DirectPlayer.Decision) : Prop :=
  outcome.2.Idle ∧ outcome.2.geometry = controller.geometry ∧
    (some outcome.1, outcome.2.player) = controller.player.carryOut load decision

theorem sendRequest_agrees {controller : Controller} (idle : controller.Idle)
    {type : MessageType} {source destination : Position} {request : Call}
    (asks : Message.call { type := type, source := source, destination := destination } =
      some request) :
    controller.Agrees load ((controller.select none).sendRequest load type source destination)
      (.ask request) := by
  obtain ⟨verdict, isVerdict, sent⟩ :=
    sendRequest_eq load (controller.select none) idle asks
  refine ⟨?_, ?_, ?_⟩
  · rw [sent]
    rfl
  · rw [sent]
    rfl
  · rw [sent, DirectPlayer.carryOut]
    have same : DirectPlayer.verdictOn load controller.player.engine request = some verdict :=
      isVerdict
    rw [same]
    rfl

theorem selectFirstPiece_agrees {controller : Controller} (idle : controller.Idle)
    (unselected : controller.selectedCell = none) (clicked : Position) :
    controller.Agrees load (controller.selectFirstPiece clicked)
      (controller.player.decideClick (some clicked)) := by
  have selection : controller.player.selectedCell = none := unselected
  have keep : controller.player = ⟨controller.engine, none⟩ :=
    congrArg (DirectPlayer.mk controller.engine) unselected
  rw [selectFirstPiece, DirectPlayer.decideClick]
  simp only [selection]
  by_cases empty : controller.engine.board.getPieceAt clicked = none
  · rw [if_pos empty]
    refine ⟨idle, rfl, ?_⟩
    have there : controller.player.engine.board.getPieceAt clicked = none := empty
    rw [if_pos there]
    exact congrArg (Prod.mk _) keep
  · rw [if_neg empty]
    have there : ¬ controller.player.engine.board.getPieceAt clicked = none := empty
    rw [if_neg there]
    by_cases available :
        controller.engine.isPieceAvailable (controller.engine.board.getPieceAt clicked)
    · rw [if_neg (not_not.mpr available)]
      have same : ¬ ¬ controller.player.engine.isPieceAvailable
        (controller.player.engine.board.getPieceAt clicked) := not_not.mpr available
      rw [if_neg same]
      exact ⟨idle, rfl, rfl⟩
    · rw [if_pos available]
      have same : ¬ controller.player.engine.isPieceAvailable
        (controller.player.engine.board.getPieceAt clicked) := available
      rw [if_pos same]
      refine ⟨idle, rfl, ?_⟩
      exact congrArg (Prod.mk _) keep

theorem selectFriendlyPiece_agrees {controller : Controller} (idle : controller.Idle)
    (clicked : Position) :
    controller.Agrees load (controller.selectFriendlyPiece clicked)
      (if ¬ controller.engine.isPieceAvailable (controller.engine.board.getPieceAt clicked) then
        .answer ⟨false, Reasons.motionInProgress⟩ none
      else .answer ⟨true, Reasons.selected⟩ (some clicked)) := by
  rw [selectFriendlyPiece]
  by_cases available :
      controller.engine.isPieceAvailable (controller.engine.board.getPieceAt clicked)
  · rw [if_neg (not_not.mpr available), if_neg (not_not.mpr available)]
    exact ⟨idle, rfl, rfl⟩
  · rw [if_pos available, if_pos available]
    exact ⟨idle, rfl, rfl⟩

theorem handleSelectedCell_agrees {controller : Controller} (idle : controller.Idle)
    {source : Position} (selected : controller.selectedCell = some source) (clicked : Position) :
    controller.Agrees load (controller.handleSelectedCell load source clicked)
      (controller.player.decideClick (some clicked)) := by
  have selection : controller.player.selectedCell = some source := selected
  rw [handleSelectedCell, DirectPlayer.decideClick]
  simp only [selection]
  change Agrees load controller _ (if clicked = source then .ask (.requestJump source) else
    match controller.engine.board.getPieceAt source with
    | none => .answer ⟨false, Reasons.emptySource⟩ none
    | some piece =>
        if ∃ other ∈ controller.engine.board.getPieceAt clicked,
            controller.engine.colorOf piece = controller.engine.colorOf other then
          if ¬ controller.engine.isPieceAvailable (controller.engine.board.getPieceAt clicked) then
            .answer ⟨false, Reasons.motionInProgress⟩ none
          else .answer ⟨true, Reasons.selected⟩ (some clicked)
        else .ask (.requestMove source clicked))
  by_cases same : clicked = source
  · rw [if_pos same, if_pos same]
    exact sendRequest_agrees load idle rfl
  · rw [if_neg same, if_neg same]
    cases here : controller.engine.board.getPieceAt source with
    | none => exact ⟨idle, rfl, rfl⟩
    | some piece =>
        dsimp only
        by_cases friendly : ∃ other ∈ controller.engine.board.getPieceAt clicked,
            controller.engine.colorOf piece = controller.engine.colorOf other
        · rw [if_pos friendly, if_pos friendly]
          exact selectFriendlyPiece_agrees load idle clicked
        · rw [if_neg friendly, if_neg friendly]
          exact sendRequest_agrees load idle rfl

theorem click_agrees {controller : Controller} (idle : controller.Idle) (x y : Int) :
    controller.Agrees load (controller.click load x y)
      (controller.player.decideClick (controller.mapClickToCell x y)) := by
  rw [click]
  cases controller.mapClickToCell x y with
  | none => exact ⟨idle, rfl, rfl⟩
  | some clicked =>
      cases selected : controller.selectedCell with
      | none => exact selectFirstPiece_agrees load idle selected clicked
      | some source => exact handleSelectedCell_agrees load idle selected clicked

theorem jump_agrees {controller : Controller} (idle : controller.Idle) (x y : Int) :
    controller.Agrees load (controller.jump load x y)
      (DirectPlayer.decideJump (controller.mapClickToCell x y)) := by
  rw [jump]
  cases controller.mapClickToCell x y with
  | none => exact ⟨idle, rfl, rfl⟩
  | some clicked => exact sendRequest_agrees load idle rfl

/-- One input: the bus stays empty, and result and player are those without it. -/
theorem handle_refines {controller : Controller} (idle : controller.Idle) (input : Input) :
    (controller.handle load input).2.Idle ∧
      (controller.handle load input).2.geometry = controller.geometry ∧
      ((controller.handle load input).1, (controller.handle load input).2.player) =
        controller.player.handle load controller.geometry input := by
  cases input with
  | click x y =>
      obtain ⟨still, geometry, agrees⟩ := click_agrees load idle x y
      exact ⟨still, geometry, agrees⟩
  | jump x y =>
      obtain ⟨still, geometry, agrees⟩ := jump_agrees load idle x y
      exact ⟨still, geometry, agrees⟩
  | wait ms => exact ⟨idle, rfl, rfl⟩

/-- The results of inputs. -/
def results (controller : Controller) (inputs : List Input) : List (Option ControllerResult) :=
  (Trace.visits (fun state input => (handle load state input).2) controller inputs).map
    fun visit => (handle load visit.1 visit.2).1

/-- The controller after inputs. -/
def play (controller : Controller) (inputs : List Input) : Controller :=
  Trace.run (fun state input => (handle load state input).2) controller inputs

/-- A run of the controller is a run of the player. -/
theorem play_refines (inputs : List Input) : ∀ {controller : Controller}, controller.Idle →
    (controller.play load inputs).Idle ∧
      (controller.play load inputs).player =
        Trace.run (fun state input => (state.handle load controller.geometry input).2)
          controller.player inputs ∧
      controller.results load inputs =
        controller.player.results load controller.geometry inputs := by
  induction inputs with
  | nil => exact fun idle => ⟨idle, rfl, rfl⟩
  | cons input rest ih =>
      intro controller idle
      obtain ⟨still, geometry, same⟩ := handle_refines load idle input
      obtain ⟨last, after, onward⟩ := ih still
      have result := congrArg Prod.fst same
      have next := congrArg Prod.snd same
      dsimp only at result next
      rw [geometry, next] at after onward
      exact ⟨last, after, congrArg₂ List.cons result onward⟩

end Controller

namespace DirectPlayer

variable (load : PieceConfigReader)

/-- The engine after an input is the engine after its call. -/
theorem handle_engine (geometry : BoardGeometry) (player : DirectPlayer)
    (input : Controller.Input) :
    (player.handle load geometry input).2.engine =
      player.engine.run load (player.decide geometry input).call.toList := by
  rw [handle]
  cases player.decide geometry input <;> rfl

theorem run_engine (geometry : BoardGeometry) (inputs : List Controller.Input) :
    ∀ player : DirectPlayer,
      (Trace.run (fun state input => (handle load geometry state input).2) player inputs).engine =
        player.engine.run load (player.calls load geometry inputs) := by
  induction inputs with
  | nil => exact fun _ => rfl
  | cons input rest ih =>
      intro player
      have onward := ih (player.handle load geometry input).2
      rw [handle_engine] at onward
      refine onward.trans ?_
      have split : player.calls load geometry (input :: rest) =
          (player.decide geometry input).call.toList ++
            (player.handle load geometry input).2.calls load geometry rest := by
        rw [calls, Trace.visits, List.filterMap_cons]
        cases (player.decide geometry input).call <;> rfl
      rw [split]
      exact (Trace.run_append _ _ _ _).symm

/-! ### What the player is told -/

/-- The reasons a player of the console is given. -/
def givenReasons : List String :=
  [Reasons.selected, Reasons.clickOutside, Reasons.emptyClick, Reasons.motionInProgress,
    Reasons.emptySource, Reasons.ok, Reasons.gameOver, Reasons.illegalPieceMove,
    Reasons.cannotJump, Reasons.jumpStarted]

/-- A move between two cells of the board, from a piece and not onto a friend, is never
answered with the reasons that the player has ruled out. -/
theorem requestMove_reason {engine : GameEngine} {source destination : Position}
    {piece : PieceId} (here : engine.board.getPieceAt source = some piece)
    (inside : engine.board.isInside destination)
    (hostile : ¬ ∃ other ∈ engine.board.getPieceAt destination,
      engine.colorOf piece = engine.colorOf other) :
    (engine.requestMove load source destination).1.reason ∈ givenReasons := by
  have onBoard : ¬ (¬ engine.board.isInside source ∨ ¬ engine.board.isInside destination) :=
    not_or.mpr ⟨not_not.mpr (Board.isInside_of_getPieceAt here), not_not.mpr inside⟩
  have noFriend : ¬ ∃ other ∈ engine.board.getPieceAt destination,
      (engine.pieces.get other).color = (engine.pieces.get piece).color := by
    rintro ⟨other, found, same⟩
    exact hostile ⟨other, found, same.symm⟩
  have validated : RuleEngine.validateMove engine.board engine.pieces source destination =
        ⟨true, Reasons.ok⟩ ∨
      RuleEngine.validateMove engine.board engine.pieces source destination =
        ⟨false, Reasons.illegalPieceMove⟩ := by
    rw [RuleEngine.validateMove, if_neg onBoard, here]
    dsimp only
    rw [if_neg noFriend]
    by_cases legal :
        ¬ RuleEngine.isLegalByPieceKind engine.board engine.pieces source destination = true
    · rw [if_pos legal]
      exact .inr rfl
    · rw [if_neg legal]
      exact .inl rfl
  rw [GameEngine.requestMove]
  cases engine.gameOver with
  | true =>
      rw [if_pos rfl]
      dsimp only
      decide
  | false =>
      rw [if_neg Bool.false_ne_true, if_neg onBoard, here]
      dsimp only
      by_cases busy : engine.stateOf piece ≠ .idle ∨
          (engine.pieces.get piece).isOnCooldown engine.getCurrentTimeMs
      · rw [if_pos busy]
        dsimp only
        decide
      · rw [if_neg busy]
        cases engine.isCastlingRequest source destination with
        | true =>
            rw [if_pos rfl]
            cases engine.canCastle source destination with
            | none =>
                dsimp only
                decide
            | some castle =>
                dsimp only
                decide
        | false =>
            rw [if_neg Bool.false_ne_true]
            rcases validated with same | same
            · rw [same, if_neg (not_not.mpr rfl)]
              dsimp only
              decide
            · rw [same, if_pos Bool.false_ne_true]
              dsimp only
              decide

theorem requestJump_reason {engine : GameEngine} {cell : Position}
    (inside : engine.board.isInside cell) :
    (engine.requestJump load cell).1.reason ∈ givenReasons := by
  rw [GameEngine.requestJump]
  cases engine.gameOver with
  | true =>
      rw [if_pos rfl]
      dsimp only
      decide
  | false =>
      rw [if_neg Bool.false_ne_true, if_neg (not_not.mpr inside)]
      cases engine.board.getPieceAt cell with
      | none =>
          dsimp only
          decide
      | some piece =>
          dsimp only
          split
          · dsimp only
            decide
          · dsimp only
            decide

/-- The result of a click or jump has one of the given reasons. -/
theorem handle_reason (geometry : BoardGeometry) (player : DirectPlayer)
    (input : Controller.Input) :
    ∀ result ∈ (player.handle load geometry input).1, result.reason ∈ givenReasons := by
  intro result isResult
  cases input with
  | wait ms => cases isResult
  | jump x y =>
      rw [handle, decide] at isResult
      cases mapped : BoardMapper.pixelToCell x y player.engine.board geometry with
      | none =>
          rw [mapped] at isResult
          cases isResult
          decide
      | some cell =>
          rw [mapped] at isResult
          cases isResult
          exact requestJump_reason load (BoardMapper.isInside_of_pixelToCell mapped)
  | click x y =>
      rw [handle, decide] at isResult
      cases mapped : BoardMapper.pixelToCell x y player.engine.board geometry with
      | none =>
          rw [mapped] at isResult
          cases isResult
          dsimp only
          decide
      | some clicked =>
          have inside := BoardMapper.isInside_of_pixelToCell mapped
          rw [mapped, decideClick] at isResult
          cases selected : player.selectedCell with
          | none =>
              simp only [selected] at isResult
              split at isResult
              · cases isResult
                decide
              · split at isResult
                · cases isResult
                  decide
                · cases isResult
                  decide
          | some source =>
              simp only [selected] at isResult
              split at isResult
              · next same =>
                  cases isResult
                  exact requestJump_reason load (same ▸ inside)
              · cases here : player.engine.board.getPieceAt source with
                | none =>
                    simp only [here] at isResult
                    cases isResult
                    decide
                | some piece =>
                    simp only [here] at isResult
                    split at isResult
                    · split at isResult
                      · cases isResult
                        decide
                      · cases isResult
                        decide
                    · next hostile =>
                        cases isResult
                        exact requestMove_reason load here inside hostile

end DirectPlayer

/-- The engine of a controller that started new has run the player's calls. -/
theorem Controller.engine_play (load : PieceConfigReader) (engine : GameEngine)
    (geometry : BoardGeometry) (inputs : List Controller.Input) :
    ((new engine geometry).play load inputs).engine =
      engine.run load (DirectPlayer.calls load geometry ⟨engine, none⟩ inputs) := by
  have idle : (new engine geometry).Idle := rfl
  have player := (play_refines load inputs idle).2.1
  exact (congrArg DirectPlayer.engine player).trans
    (DirectPlayer.run_engine load geometry inputs ⟨engine, none⟩)

/-- **The controller does what a player without a bus does.** Whatever is clicked,
jumped and waited from a new controller on, its results, its engine and its selection
are those of the player that calls the engine directly, so the engine has run the
player's calls; nothing waits on the bus afterwards; and no result reports a missing or
foreign response, a cell outside the board or a friend at the destination. -/
theorem Controller.play_new (load : PieceConfigReader) (engine : GameEngine)
    (geometry : BoardGeometry) (inputs : List Controller.Input) :
    (((new engine geometry).play load inputs).engine =
      engine.run load (DirectPlayer.calls load geometry ⟨engine, none⟩ inputs)) ∧
    ((new engine geometry).play load inputs).selectedCell =
      (Trace.run (fun state input => (DirectPlayer.handle load geometry state input).2)
        ⟨engine, none⟩ inputs).selectedCell ∧
    ((new engine geometry).play load inputs).messageHandler.messageBus = {} ∧
    (new engine geometry).results load inputs =
      DirectPlayer.results load geometry ⟨engine, none⟩ inputs ∧
    ∀ result, some result ∈ (new engine geometry).results load inputs →
      result.reason ∈ DirectPlayer.givenReasons := by
  have idle : (new engine geometry).Idle := rfl
  obtain ⟨still, player, results⟩ := play_refines load inputs idle
  refine ⟨engine_play load engine geometry inputs, ?_, still, results, ?_⟩
  · exact congrArg DirectPlayer.selectedCell player
  · intro result member
    rw [results] at member
    obtain ⟨visit, _, same⟩ := List.mem_map.mp member
    exact DirectPlayer.handle_reason load _ visit.1 visit.2 result same

end KungFuChess

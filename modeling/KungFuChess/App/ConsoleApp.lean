import KungFuChess.Control.Controller
import KungFuChess.IO.BoardPrinter
import Mathlib.Data.List.DropRight

/-!
# The console application

`ConsoleApp::run` reads a board and then commands from the standard input, lets a
controller and the engine carry them out, and prints the board when it is asked to.
Every text it can be fed is a run of the engine: what it prints are boards of that run,
in its order, and each of them is a text that its own parser reads back.

A variable that a failed extraction leaves unset holds a value that nothing says
anything about; it is a parameter here.
-/

set_option autoImplicit false

namespace KungFuChess

/-! ## The size of the board -/

def Board.size (board : Board) : Int × Int := (board.height, board.width)

namespace Board

variable (board : Board) (piece : PieceId) (source destination : Position)

theorem size_setPieceAt (position : Position) (value : Option PieceId) :
    (board.setPieceAt position value).size = board.size :=
  Prod.ext (setPieceAt_height ..) (setPieceAt_width ..)

theorem size_removePiece (position : Position) : (board.removePiece position).size = board.size :=
  board.size_setPieceAt position none

theorem size_takeOff : (board.takeOff piece).size = board.size := by
  simp only [takeOff]
  split
  · exact board.size_removePiece _
  · rfl

theorem size_commit : (board.commit piece source destination).size = board.size := by
  simp only [commit]
  split
  · rfl
  · split
    · exact (size_setPieceAt _ _ _).trans (board.size_removePiece _)
    · exact board.size_setPieceAt _ _

end Board

namespace GameEngine

variable (engine : GameEngine)

theorem board_addCaptureScore (attacker : PieceColor) (kind : PieceKind) :
    (engine.addCaptureScore attacker kind).board = engine.board := by
  simp only [addCaptureScore]
  split
  · rfl
  · split <;> rfl

theorem board_pushHistory (entry : MoveHistoryEntry) :
    (engine.pushHistory entry).board = engine.board := by
  rw [pushHistory]
  split <;> rfl

theorem board_publishLatestMove (piece : PieceId) (captured : Bool) (kind : PieceKind)
    (color : PieceColor) :
    (engine.publishLatestMove piece captured kind color).board = engine.board := by
  simp only [publishLatestMove]
  split <;> rfl

theorem board_endGame (winner : PieceColor) (reason : String) :
    (engine.endGame winner reason).board = engine.board := by
  rw [endGame]
  split <;> rfl

theorem size_stopMovingPieceAt (piece : PieceId) (source cell : Position) (eventTimeMs : Int)
    (captured : Bool) (kind : PieceKind) (color : PieceColor) :
    (engine.stopMovingPieceAt piece source cell eventTimeMs captured kind color).board.size =
      engine.board.size := by
  have committed := engine.board.size_commit piece source cell
  rw [stopMovingPieceAt, board_publishLatestMove, recordMove, board_pushHistory]
  refine Eq.trans ?_ committed
  simp only [promotePawnIfNeeded]
  split <;> rfl

theorem size_finishCastle (castle : PendingCastle) (completedAt : Int) :
    (engine.finishCastle castle completedAt).board.size = engine.board.size := by
  rw [finishCastle, announce, publishMoveCompleted]
  change ((engine.placeCastle castle completedAt).pushHistory _).board.size = _
  rw [board_pushHistory]
  change (((((engine.board.removePiece castle.kingSource).removePiece castle.rookSource).setPieceAt
    castle.kingDestination (some castle.king)).setPieceAt castle.rookDestination
      (some castle.rook))).size = _
  rw [Board.size_setPieceAt, Board.size_setPieceAt, Board.size_removePiece, Board.size_removePiece]

theorem size_loseToAirborne (piece target : PieceId) :
    (engine.loseToAirborne piece target).board.size = engine.board.size := by
  have taken := engine.board.size_takeOff piece
  simp only [loseToAirborne]
  split
  · rw [board_endGame, board_addCaptureScore]
    exact taken
  · rw [board_addCaptureScore]
    exact taken

theorem size_captureTarget (piece target : PieceId) (source : Position) (event : StepEvent) :
    (engine.captureTarget piece target source event).board.size = engine.board.size := by
  have taken := engine.board.size_takeOff target
  simp only [captureTarget]
  split
  · rw [board_endGame, size_stopMovingPieceAt]
    refine Eq.trans ?_ taken
    change (addCaptureScore _ _ _).board.size = _
    rw [board_addCaptureScore]
    rfl
  · rw [size_stopMovingPieceAt]
    refine Eq.trans ?_ taken
    change (addCaptureScore _ _ _).board.size = _
    rw [board_addCaptureScore]
    rfl

theorem size_processStepEvent (event : StepEvent) :
    (engine.processStepEvent event).board.size = engine.board.size := by
  have handled := engine.processStepEvent_handled event
  generalize engine.processStepEvent event = next, engine.verdict event = verdict at handled ⊢
  cases handled with
  | ignored => rfl
  | castled found => exact engine.size_finishCastle ..
  | halted follows => exact engine.size_stopMovingPieceAt ..
  | arrived follows inside => exact size_stopMovingPieceAt ..
  | slid inside => rfl
  | lost target => exact engine.size_loseToAirborne ..
  | captured target follows inside => exact engine.size_captureTarget ..

variable (load : PieceConfigReader)

theorem size_processJumpLanding (event : JumpLandingEvent) :
    (engine.processJumpLanding load event).board.size = engine.board.size := by
  simp only [processJumpLanding]
  split
  · rfl
  · split
    · rfl
    · rw [announce]
      exact congrArg Board.size (board_pushHistory _ _)

theorem size_applyTimeEvents (events : TimeEvents) :
    (engine.applyTimeEvents load events).board.size = engine.board.size := by
  rw [applyTimeEvents]
  have stepped : (Trace.run processStepEvent engine events.steps).board.size = engine.board.size :=
    Trace.run_invariant (motive := fun next : GameEngine => next.board.size = engine.board.size)
      (fun state event same => (size_processStepEvent state event).trans same) events.steps rfl
  exact Trace.run_invariant
    (motive := fun next : GameEngine => next.board.size = engine.board.size)
    (fun state event same => (size_processJumpLanding state load event).trans same)
    events.jumpLandings stepped

theorem size_drainEvents : ∀ (fuel : Nat) (events : TimeEvents) (engine : GameEngine),
    (drainEvents load fuel events engine).board.size = engine.board.size := by
  intro fuel
  induction fuel with
  | zero => exact fun _ _ => rfl
  | succ fuel ih =>
      intro events engine
      rw [drainEvents]
      split
      · rfl
      · exact (ih _ _).trans (size_applyTimeEvents engine load events)

/-- No call changes the size of the board. -/
theorem size_perform (call : Call) :
    (engine.perform load call).board.size = engine.board.size := by
  cases call with
  | requestMove source destination =>
      rcases requestMove_cases load engine source destination with
        same | ⟨piece, _, started⟩ | ⟨castle, _, _, _, started⟩
      · rw [perform, same]
      · rw [perform, started]
        rfl
      · rw [perform, started]
        rfl
  | requestJump cell =>
      rcases requestJump_cases load engine cell with same | ⟨piece, _, started⟩
      · rw [perform, same]
      · rw [perform, started]
        rfl
  | wait ms =>
      rw [perform, wait]
      split
      · rfl
      · exact size_drainEvents load _ _ _

theorem size_run (calls : List Call) : (engine.run load calls).board.size = engine.board.size :=
  Trace.run_invariant (motive := fun next : GameEngine => next.board.size = engine.board.size)
    (fun state call same => (size_perform state load call).trans same) calls rfl

end GameEngine

/-! ## The source -/

/-- The application in its loop: the controller with the engine, and what was written to
the standard output. -/
structure ConsoleApp where
  controller : Controller
  output : String := ""

namespace ConsoleApp

/-- The characters that `trim` removes. -/
def isBlank (character : Char) : Bool := character ∈ [' ', '\t', '\r', '\n']

def trim (line : List Char) : List Char := (line.dropWhile isBlank).rdropWhile isBlank

/-- `getline`: the next line and what is behind it. -/
def getline (input : List Char) : Option (List Char × List Char) :=
  if input = [] then none
  else some (input.takeWhile (· ≠ '\n'), (input.dropWhile (· ≠ '\n')).tail)

theorem getline_length {input line rest : List Char} (read : getline input = some (line, rest)) :
    rest.length < input.length := by
  rw [getline] at read
  split at read
  · cases read
  · next filled =>
      cases read
      have suffix := (List.dropWhile_suffix (l := input) (· ≠ '\n')).length_le
      have positive := List.length_pos_of_ne_nil filled
      rw [List.length_tail]
      omega

/-- The loop over the lines: the lines of the board, and the input behind them. -/
def readBoard (readingBoard : Bool) (boardLines : List String) (input : List Char) :
    List String × List Char :=
  match read : getline input with
  | none => (boardLines, [])
  | some (line, rest) =>
      have := getline_length read
      let line := String.ofList (trim line)
      if line = "Board:" ∨ line = "Board" then readBoard true boardLines rest
      else if line = "Commands:" ∨ line = "Commands" then (boardLines, rest)
      else if readingBoard ∧ line ≠ "" then readBoard readingBoard (boardLines ++ [line]) rest
      else readBoard readingBoard boardLines rest
  termination_by input.length

/-- `cin >> word`; nothing when no word is left. -/
def readWord (input : List Char) : Option (String × List Char) :=
  let start := input.dropWhile BoardParser.isSpace
  if start = [] then none
  else some (String.ofList (start.takeWhile fun character => !BoardParser.isSpace character),
    start.dropWhile fun character => !BoardParser.isSpace character)

def skipSign (start : List Char) : List Char :=
  if start.head? = some '-' ∨ start.head? = some '+' then start.tail else start

/-- The number that characters start with, and what is behind its digits. -/
def scanNumber (start : List Char) : Option (Int × List Char) :=
  let digits := (skipSign start).takeWhile Char.isDigit
  let magnitude : Int := Nat.ofDigitChars 10 digits 0
  if digits = [] then none
  else some (if start.head? = some '-' then -magnitude else magnitude,
    (skipSign start).dropWhile Char.isDigit)

/-- `cin >> number` for numbers between `low` and `high`: the value of the variable, and
the stream, which is nothing once an extraction has failed. A stream without further
characters leaves the value the variable held. -/
def readNumber (low high held : Int) : Option (List Char) → Int × Option (List Char)
  | none => (held, none)
  | some input =>
      if input.dropWhile BoardParser.isSpace = [] then (held, none)
      else
        match scanNumber (input.dropWhile BoardParser.isSpace) with
        | none => (0, none)
        | some (value, rest) =>
            if value < low then (low, none)
            else if high < value then (high, none)
            else (value, some rest)

/-- What the variables of the loop hold before they are read into. -/
structure Uninitialized where
  x : Int := 0
  y : Int := 0
  ms : Int := 0

/-- A command with its operands. -/
inductive Command where
  | click (x y : Int)
  | jump (x y : Int)
  | print (what : String)
  | wait (ms : Int)
  | unknown (word : String)
  deriving DecidableEq

/-- `cin >> x >> y`. -/
def readPoint (held : Uninitialized) (stream : Option (List Char)) :
    (Int × Int) × Option (List Char) :=
  let (x, stream) := readNumber (-2 ^ 31) (2 ^ 31 - 1) held.x stream
  let (y, stream) := readNumber (-2 ^ 31) (2 ^ 31 - 1) held.y stream
  ((x, y), stream)

/-- The operands of a command, and the stream behind them. -/
def readOperands (held : Uninitialized) (command : String) (input : List Char) :
    Command × Option (List Char) :=
  if command = "click" then
    let (point, stream) := readPoint held (some input)
    (.click point.1 point.2, stream)
  else if command = "jump" then
    let (point, stream) := readPoint held (some input)
    (.jump point.1 point.2, stream)
  else if command = "print" then
    match readWord input with
    | none => (.print "", none)
    | some (what, rest) => (.print what, some rest)
  else if command = "wait" then
    let (ms, stream) := readNumber (-2 ^ 63) (2 ^ 63 - 1) held.ms (some input)
    (.wait ms, stream)
  else (.unknown command, some input)

theorem readWord_length {input rest : List Char} {word : String}
    (read : readWord input = some (word, rest)) : rest.length < input.length := by
  simp only [readWord] at read
  split at read
  · cases read
  · next filled =>
      cases read
      have space := (List.dropWhile_suffix (l := input) BoardParser.isSpace).length_le
      have head := List.head?_dropWhile_not BoardParser.isSpace input
      obtain ⟨first, others, started⟩ := List.exists_cons_of_ne_nil filled
      rw [started] at head space ⊢
      have solid : (!BoardParser.isSpace first) = true := by simpa using head
      have kept := (List.dropWhile_suffix (l := others)
        fun character => !BoardParser.isSpace character).length_le
      rw [List.length_cons] at space
      rw [List.dropWhile_cons, if_pos solid]
      omega

theorem scanNumber_length {start rest : List Char} {value : Int}
    (scanned : scanNumber start = some (value, rest)) : rest.length ≤ start.length := by
  simp only [scanNumber] at scanned
  split at scanned
  · cases scanned
  · have same := congrArg Prod.snd (Option.some.inj scanned)
    dsimp only at same
    rw [← same]
    refine le_trans (List.dropWhile_suffix _).length_le ?_
    rw [skipSign]
    split
    · exact (List.tail_suffix start).length_le
    · exact le_rfl

theorem readNumber_length {low high held : Int} {input rest : List Char} {value : Int}
    (read : readNumber low high held (some input) = (value, some rest)) :
    rest.length ≤ input.length := by
  have space := (List.dropWhile_suffix (l := input) BoardParser.isSpace).length_le
  simp only [readNumber] at read
  split at read
  · cases read
  · cases scanned : scanNumber (input.dropWhile BoardParser.isSpace) with
    | none =>
        rw [scanned] at read
        cases read
    | some number =>
        obtain ⟨whole, behind⟩ := number
        rw [scanned] at read
        dsimp only at read
        split at read
        · cases read
        · split at read
          · cases read
          · cases read
            exact (scanNumber_length scanned).trans space

/-- What the operands leave is a part of what stood behind the command. -/
theorem readOperands_length {held : Uninitialized} {word : String} {input rest : List Char}
    {command : Command} (read : readOperands held word input = (command, some rest)) :
    rest.length ≤ input.length := by
  have point : ∀ {found : Int × Int},
      readPoint held (some input) = (found, some rest) → rest.length ≤ input.length := by
    intro found isPoint
    rw [readPoint] at isPoint
    rcases first : readNumber (-2 ^ 31) (2 ^ 31 - 1) held.x (some input) with ⟨x, behind⟩
    rw [first] at isPoint
    cases behind with
    | none => cases isPoint
    | some middle =>
        dsimp only at isPoint
        rcases second : readNumber (-2 ^ 31) (2 ^ 31 - 1) held.y (some middle) with ⟨y, after⟩
        rw [second] at isPoint
        cases isPoint
        exact (readNumber_length second).trans (readNumber_length first)
  rw [readOperands] at read
  split at read
  · rcases isPoint : readPoint held (some input) with ⟨found, behind⟩
    rw [isPoint] at read
    cases read
    exact point isPoint
  · split at read
    · rcases isPoint : readPoint held (some input) with ⟨found, behind⟩
      rw [isPoint] at read
      cases read
      exact point isPoint
    · split at read
      · cases isWord : readWord input with
        | none =>
            rw [isWord] at read
            cases read
        | some found =>
            obtain ⟨what, behind⟩ := found
            rw [isWord] at read
            cases read
            exact (readWord_length isWord).le
      · split at read
        · rcases isNumber : readNumber (-2 ^ 63) (2 ^ 63 - 1) held.ms (some input) with
          ⟨ms, behind⟩
          rw [isNumber] at read
          cases read
          exact readNumber_length isNumber
        · cases read
          exact le_rfl

/-- The commands that the loop reads. -/
def commands (held : Uninitialized) (input : List Char) : List Command :=
  match word : readWord input with
  | none => []
  | some (command, behind) =>
      match operands : readOperands held command behind with
      | (command, none) => [command]
      | (command, some rest) =>
          have := readWord_length word
          have := readOperands_length operands
          command :: commands held rest
  termination_by input.length

variable (load : PieceConfigReader)

/-- One command. -/
def perform (app : ConsoleApp) : Command → ConsoleApp
  | .click x y => { app with controller := (app.controller.click load x y).2 }
  | .jump x y => { app with controller := (app.controller.jump load x y).2 }
  | .print what =>
      if what = "board" then
        { app with
          output := app.output ++ BoardPrinter.printBoard app.controller.engine.board
            app.controller.engine.pieces }
      else app
  | .wait ms => { app with controller := (app.controller.handle load (.wait ms)).2 }
  | .unknown _ => app

/-- The application before its loop: a new controller on a new engine with the parsed
board. -/
def start (boardLines : List String) : ConsoleApp :=
  let parsed := BoardParser.parse boardLines
  { controller := .new (.new parsed.layout none) {}
    output := parsed.printed.elim "" (· ++ "\n") }

/-- The application after commands. -/
def execute (app : ConsoleApp) (given : List Command) : ConsoleApp := given.foldl (perform load) app

/-- `ConsoleApp::run` on a text at the standard input. -/
def run (held : Uninitialized) (input : List Char) : ConsoleApp :=
  let read := readBoard false [] input
  (start read.1).execute load (commands held read.2)

/-! ## A run of the application is a run of the engine -/

/-- What a command is to the controller. -/
def Command.input : Command → Option Controller.Input
  | .click x y => some (.click x y)
  | .jump x y => some (.jump x y)
  | .wait ms => some (.wait ms)
  | _ => none

/-- The controller has played the inputs of the commands. -/
theorem controller_execute (given : List Command) : ∀ app : ConsoleApp,
    (app.execute load given).controller =
      app.controller.play load (given.filterMap Command.input) := by
  induction given with
  | nil => exact fun _ => rfl
  | cons command rest ih =>
      intro app
      refine (ih (app.perform load command)).trans ?_
      rw [List.filterMap_cons]
      cases command with
      | click x y => rfl
      | jump x y => rfl
      | wait ms => rfl
      | unknown word => rfl
      | print what =>
          rw [perform]
          split <;> rfl

/-- For each command that prints the board, the commands before it. -/
def printsAfter : List Command → List (List Command)
  | [] => []
  | command :: rest =>
      (if command = .print "board" then [[]] else []) ++ (printsAfter rest).map (command :: ·)

/-- The text of the board after commands. -/
def boardText (app : ConsoleApp) (given : List Command) : String :=
  let engine := (app.execute load given).controller.engine
  BoardPrinter.printBoard engine.board engine.pieces

/-- The output of commands: one board for each command that prints it. -/
theorem output_execute (given : List Command) : ∀ app : ConsoleApp,
    (app.execute load given).output =
      app.output ++ String.join ((printsAfter given).map (app.boardText load)) := by
  induction given with
  | nil => exact fun app => (String.append_empty).symm
  | cons command rest ih =>
      intro app
      have onward := ih (app.perform load command)
      have later : ((printsAfter rest).map (command :: ·)).map (app.boardText load) =
          (printsAfter rest).map ((app.perform load command).boardText load) := by
        rw [List.map_map]
        rfl
      rw [printsAfter, List.map_append, later, String.join_append, ← String.append_assoc]
      refine onward.trans (congrArg (· ++ _) ?_)
      by_cases prints : command = .print "board"
      · rw [if_pos prints, prints, perform, if_pos rfl, List.map_singleton, String.join_cons,
          String.join_nil, String.append_empty]
        rfl
      · rw [if_neg prints]
        refine Eq.trans ?_ (String.append_empty).symm
        cases command with
        | print what =>
            have other : what ≠ "board" := fun same => prints (congrArg Command.print same)
            rw [perform, if_neg other]
        | _ => rfl

/-! ## What is printed is read back -/

theorem isAllowedToken_token (piece : Piece) : BoardParser.isAllowedToken piece.token = true := by
  rw [Piece.token]
  cases piece.color <;> cases piece.kind <;> decide

/-- The text of a board without empty rows is read back as the same board. -/
theorem printBoard_reads_back {board : Board} (pieces : Heap)
    (wide : 0 < board.height → 0 < board.width) :
    let text := BoardPrinter.printBoard board pieces
    (BoardParser.parse (BoardParser.readLines text)).printed = none ∧
      BoardPrinter.print (BoardParser.parse (BoardParser.readLines text)).layout = text := by
  intro text
  have isText : text = BoardPrinter.textOf (BoardPrinter.boardTokens board pieces) :=
    BoardPrinter.printBoard_eq board pieces
  have allowed : ∀ row ∈ BoardPrinter.boardTokens board pieces, ∀ token ∈ row,
      BoardParser.isAllowedToken token = true := by
    intro row member token tokenMember
    obtain ⟨_, _, rfl⟩ := List.mem_map.mp member
    obtain ⟨_, _, rfl⟩ := List.mem_map.mp tokenMember
    split
    · decide
    · exact isAllowedToken_token _
  have even : ∀ row ∈ BoardPrinter.boardTokens board pieces,
      row.length = board.width.toNat := by
    intro row member
    obtain ⟨_, _, rfl⟩ := List.mem_map.mp member
    rw [List.length_map, List.length_range]
  have filled : ∀ row ∈ BoardPrinter.boardTokens board pieces, row ≠ [] := by
    intro row member empty
    have narrow := even row member
    rw [empty] at narrow
    obtain ⟨index, below, _⟩ := List.mem_map.mp member
    have high := List.mem_range.mp below
    have positive := wide (by omega)
    simp only [List.length_nil] at narrow
    omega
  have rows : BoardParser.tokenRows (BoardParser.readLines text) =
      BoardPrinter.boardTokens board pieces := by
    rw [isText]
    refine BoardParser.tokenRows_readLines filled ?_
    exact fun row member token tokenMember =>
      BoardParser.solid_of_isAllowedToken (allowed row member token tokenMember)
  by_cases empty : BoardPrinter.boardTokens board pieces = []
  · have nothing : BoardParser.parse (BoardParser.readLines text) = ⟨Layout.empty 0 0, none⟩ := by
      rw [empty] at rows
      unfold BoardParser.parse
      unfold BoardParser.tokenRows at rows
      rw [rows]
    rw [nothing, isText, empty]
    exact ⟨rfl, by decide⟩
  · have accepted : BoardParser.Accepted (BoardParser.readLines text) := by
      refine ⟨?_, ?_, ?_⟩
      · rw [rows]
        exact empty
      · rw [rows]
        exact allowed
      · rw [rows]
        intro first member second memberToo
        rw [even first member, even second memberToo]
    obtain ⟨width, same, parsed⟩ := BoardParser.parse_of_accepted accepted
    rw [rows] at same parsed
    rw [parsed, BoardParser.print_placeRows same allowed, isText]
    exact ⟨rfl, rfl⟩

/-- The parser gives a board with rows only where these have cells. -/
theorem parse_wide (boardLines : List String) :
    0 < (BoardParser.parse boardLines).layout.board.height →
      0 < (BoardParser.parse boardLines).layout.board.width := by
  by_cases accepted : BoardParser.Accepted boardLines
  · obtain ⟨width, even, parsed⟩ := BoardParser.parse_of_accepted accepted
    have built := BoardParser.built_placeRows even accepted.allowed
    rw [parsed]
    dsimp only
    rw [built.width]
    intro _
    obtain ⟨row, rest, rows⟩ := List.exists_cons_of_ne_nil accepted.filled
    have member : row ∈ BoardParser.tokenRows boardLines := by
      rw [rows]
      exact List.mem_cons_self
    have filled : row ≠ [] := of_decide_eq_true (List.mem_filter.mp member).2
    have positive := List.length_pos_of_ne_nil filled
    rw [even row member] at positive
    exact Int.natCast_pos.mpr positive
  · rw [BoardParser.parse_of_not_accepted accepted]
    exact fun positive => positive

/-- The calls on the engine that commands lead to. -/
def callsOf (engine : GameEngine) (given : List Command) : List Call :=
  DirectPlayer.calls load {} ⟨engine, none⟩ (given.filterMap Command.input)

/-- **What the console prints is a run of the engine.** For every standard input the
engine at the end is the engine that ran the calls of the commands; the output is the
parser's complaint, if it has one, and then, for each command that prints the board, the
board of the engine after the calls of the commands before it; and each of these texts
is accepted by the parser and prints again as itself. -/
theorem run_prints (held : Uninitialized) (input : List Char) :
    ∃ (engine : GameEngine) (given : List Command),
      engine = .new (BoardParser.parse (readBoard false [] input).1).layout none ∧
      given = commands held (readBoard false [] input).2 ∧
      (run load held input).controller.engine = engine.run load (callsOf load engine given) ∧
      (run load held input).output =
        (BoardParser.parse (readBoard false [] input).1).printed.elim "" (· ++ "\n") ++
          String.join ((printsAfter given).map fun before =>
            BoardPrinter.printBoard (engine.run load (callsOf load engine before)).board
              (engine.run load (callsOf load engine before)).pieces) ∧
      ∀ before ∈ printsAfter given,
        let text := BoardPrinter.printBoard (engine.run load (callsOf load engine before)).board
          (engine.run load (callsOf load engine before)).pieces
        (BoardParser.parse (BoardParser.readLines text)).printed = none ∧
          BoardPrinter.print (BoardParser.parse (BoardParser.readLines text)).layout = text := by
  refine ⟨_, _, rfl, rfl, ?_, ?_, ?_⟩
  · exact (congrArg Controller.engine (controller_execute load _ _)).trans
      (Controller.engine_play load _ {} _)
  · refine (output_execute load _ _).trans (congrArg (_ ++ String.join ·) ?_)
    refine List.map_congr_left fun before _ => ?_
    have same : ((start (readBoard false [] input).1).execute load before).controller.engine =
        _ := (congrArg Controller.engine (controller_execute load _ _)).trans
          (Controller.engine_play load _ {} _)
    rw [boardText, same]
    rfl
  · intro before _
    refine printBoard_reads_back _ ?_
    have size := GameEngine.size_run
      (.new (BoardParser.parse (readBoard false [] input).1).layout none) load
      (callsOf load (.new (BoardParser.parse (readBoard false [] input).1).layout none) before)
    have height := congrArg Prod.fst size
    have width := congrArg Prod.snd size
    dsimp only [Board.size] at height width
    rw [height, width]
    exact parse_wide _

end ConsoleApp

end KungFuChess

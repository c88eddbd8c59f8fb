import KungFuChess.IO.BoardParser
import Mathlib.Data.List.Nodup
import Mathlib.Data.List.OfFn

/-!
# Printing a board as text

`BoardPrinter::print` writes the rows of a board one below the other. A board
that the parser built prints as the tokens it was read from, with single blanks
between them, and the printed text parses to the same board. The argument is
about the list of cells in the order in which the parser visits them: they are
distinct, so what one step places, no later step touches.
-/

set_option autoImplicit false

namespace KungFuChess

/-! ## The printer -/

namespace BoardPrinter

/-- What the printer writes for one cell. -/
def printCell (layout : Layout) (position : Position) : String :=
  match layout.board.getPieceAt position with
  | none => "."
  | some piece => (layout.pieces.get piece).token

/-- The loop over the columns of one row. -/
def printRow (layout : Layout) (row : Nat) (result : String) : String :=
  (List.range layout.board.width.toNat).foldl (fun (result : String) (col : Nat) =>
    (if 0 < col then result ++ " " else result) ++ printCell layout ⟨row, col⟩) result

/-- `BoardPrinter::print`. -/
def print (layout : Layout) : String :=
  (List.range layout.board.height.toNat).foldl (fun (result : String) (row : Nat) =>
    printRow layout row result ++ "\n") ""

/-- The text of rows of tokens, with one blank between two tokens of a row. -/
def textOf (rows : List (List String)) : String :=
  String.join (rows.map fun row => " ".intercalate row ++ "\n")

/-- Texts written one behind the other, with a blank before all but the first. -/
theorem foldl_blank_eq (cell : Nat → String) (width : Nat) (result : String) :
    (List.range width).foldl (fun (result : String) (col : Nat) =>
      (if 0 < col then result ++ " " else result) ++ cell col) result =
        result ++ " ".intercalate ((List.range width).map cell) := by
  induction width with
  | zero => simp only [List.range_zero, List.foldl_nil, List.map_nil, String.intercalate_nil,
      String.append_empty]
  | succ width ih =>
      rw [List.range_succ, List.foldl_append, ih, List.map_append]
      cases width with
      | zero => simp only [List.range_zero, List.map_nil, String.intercalate_nil, List.nil_append,
          List.map_cons, String.intercalate_singleton, List.foldl_cons, List.foldl_nil,
          Nat.lt_irrefl, if_false, String.append_empty]
      | succ previous =>
          have started : (List.range (previous + 1)).map cell ≠ [] := by
            simp only [ne_eq, List.map_eq_nil_iff, List.range_eq_nil]
            omega
          rw [List.map_cons, List.map_nil,
            String.intercalate_append_of_ne_nil started (List.cons_ne_nil _ _)]
          simp only [String.intercalate_singleton, List.foldl_cons, List.foldl_nil,
            Nat.zero_lt_succ, if_true, String.append_assoc]

theorem printRow_eq (layout : Layout) (row : Nat) (result : String) :
    printRow layout row result = result ++ " ".intercalate
      ((List.range layout.board.width.toNat).map fun col : Nat => printCell layout ⟨row, col⟩) :=
  foldl_blank_eq _ _ result

theorem print_eq (layout : Layout) :
    print layout = textOf ((List.range layout.board.height.toNat).map fun row : Nat =>
      (List.range layout.board.width.toNat).map fun col : Nat =>
        printCell layout ⟨row, col⟩) := by
  simp only [print, textOf, List.map_map, String.join_eq_foldl, List.foldl_map, printRow_eq,
    Function.comp_apply, String.append_assoc]

/-- The text of a board and of the pieces its cells point to, as the engine has them. -/
def printBoard (board : Board) (pieces : Heap) : String :=
  (List.range board.height.toNat).foldl (fun (result : String) (row : Nat) =>
    (List.range board.width.toNat).foldl (fun (result : String) (col : Nat) =>
      (if 0 < col then result ++ " " else result) ++
        match board.getPieceAt ⟨row, col⟩ with
        | none => "."
        | some piece => (pieces.get piece).token) result ++ "\n") ""

/-- The tokens of a board, row by row. -/
def boardTokens (board : Board) (pieces : Heap) : List (List String) :=
  (List.range board.height.toNat).map fun row : Nat =>
    (List.range board.width.toNat).map fun col : Nat =>
      match board.getPieceAt ⟨row, col⟩ with
      | none => "."
      | some piece => (pieces.get piece).token

theorem printBoard_eq (board : Board) (pieces : Heap) :
    printBoard board pieces = textOf (boardTokens board pieces) := by
  simp only [printBoard, textOf, boardTokens, List.map_map, String.join_eq_foldl, List.foldl_map,
    foldl_blank_eq, Function.comp_apply, String.append_assoc]

end BoardPrinter

/-! ## Placing the pieces -/

theorem Board.positions_nodup (board : Board) : board.positions.Nodup := by
  rw [positions, List.nodup_flatMap]
  constructor
  · intro row _
    refine List.nodup_range.map ?_
    intro first second same
    simpa using same
  · refine List.nodup_range.imp ?_
    intro first second distinct position here there
    simp only [List.mem_map] at here there
    obtain ⟨_, _, rfl⟩ := here
    obtain ⟨_, _, same⟩ := there
    simp only [Position.mk.injEq] at same
    omega

/-- The identifiers of the pieces on the board, in row-major order. -/
def Layout.idsInOrder (layout : Layout) : List PieceId :=
  (layout.board.positions.filterMap layout.board.getPieceAt).map fun piece =>
    (layout.pieces.get piece).id

section Placing

variable (layout : Layout) (position cell : Position) (color : PieceColor) (kind : PieceKind)

@[simp] theorem Layout.placeNew_height :
    (layout.placeNew position color kind).board.height = layout.board.height := by
  simp only [Layout.placeNew, Board.placePiece]
  split
  · rfl
  · split
    · rfl
    · exact Board.setPieceAt_height ..

@[simp] theorem Layout.placeNew_width :
    (layout.placeNew position color kind).board.width = layout.board.width := by
  simp only [Layout.placeNew, Board.placePiece]
  split
  · rfl
  · split
    · rfl
    · exact Board.setPieceAt_width ..

@[simp] theorem Layout.isInside_placeNew :
    (layout.placeNew position color kind).board.isInside cell ↔ layout.board.isInside cell := by
  simp only [Board.isInside, placeNew_height, placeNew_width]

/-- A piece made for a vacant cell of the board stands there, and nowhere else. -/
theorem Layout.getPieceAt_placeNew (inside : layout.board.isInside position)
    (vacant : layout.board.getPieceAt position = none) :
    (layout.placeNew position color kind).board.getPieceAt cell =
      if cell = position then some layout.nextPieceId else layout.board.getPieceAt cell := by
  simp only [Layout.placeNew, Board.placePiece, Board.isEmpty, inside, vacant, not_true_eq_false,
    decide_true, if_false, Board.getPieceAt_setPieceAt, and_true]

end Placing

namespace BoardParser

/-- The cells of rows of tokens in the order of the construction loops. -/
def cellsOf (rows : List (List String)) : List (Position × String) :=
  rows.zipIdx.flatMap fun row => row.1.zipIdx.map fun token => (⟨row.2, token.2⟩, token.1)

theorem placeRows_eq (layout : Layout) (rows : List (List String)) :
    placeRows layout rows =
      (cellsOf rows).foldl (fun built cell => placeToken built cell.1 cell.2) layout := by
  simp only [placeRows, cellsOf, List.foldl_flatMap, List.foldl_map]

theorem map_snd_cellsOf (rows : List (List String)) :
    (cellsOf rows).map Prod.snd = rows.flatten := by
  have row : ∀ entry : List String × Nat, (entry.1.zipIdx.map fun token : String × Nat =>
      ((⟨entry.2, token.2⟩, token.1) : Position × String)).map Prod.snd = entry.1 := by
    intro entry
    rw [List.map_map]
    exact List.zipIdx_map_fst 0 entry.1
  rw [cellsOf, List.map_flatMap, List.flatMap_congr fun entry _ => row entry, List.flatMap_def,
    List.zipIdx_map_fst]

/-- The cells of rows of one width are the cells of the board of that size. -/
theorem map_fst_cellsOf {rows : List (List String)} {width : Nat}
    (even : ∀ row ∈ rows, row.length = width) :
    (cellsOf rows).map Prod.fst = (Board.empty rows.length width).positions := by
  have row : ∀ entry ∈ rows.zipIdx, (entry.1.zipIdx.map fun token : String × Nat =>
      ((⟨entry.2, token.2⟩, token.1) : Position × String)).map Prod.fst =
        (List.range width).map fun col : Nat => ⟨(entry.2 : Int), (col : Int)⟩ := by
    intro entry member
    rw [← even entry.1 (List.fst_mem_of_mem_zipIdx member), List.range_eq_range',
      ← List.zipIdx_map_snd 0 entry.1, List.map_map, List.map_map]
    rfl
  rw [cellsOf, List.map_flatMap, List.flatMap_congr row]
  simp only [Board.positions, Board.empty, Int.toNat_natCast,
    List.range_eq_range' (n := rows.length)]
  rw [← List.zipIdx_map_snd 0 rows, List.flatMap_map]

theorem mem_cellsOf {rows : List (List String)} {row col : Nat} (below : row < rows.length)
    (within : col < rows[row].length) :
    ((⟨row, col⟩, rows[row][col]) : Position × String) ∈ cellsOf rows := by
  refine List.mem_flatMap.mpr ⟨(rows[row], row), ?_, ?_⟩
  · exact List.mk_mem_zipIdx_iff_getElem?.mpr (List.getElem?_eq_getElem below)
  · refine List.mem_map.mpr ⟨(rows[row][col], col), ?_, rfl⟩
    exact List.mk_mem_zipIdx_iff_getElem?.mpr (List.getElem?_eq_getElem within)

/-- An allowed token names the piece it is printed as. -/
theorem placeToken_of_isAllowedToken {token : String} (allowed : isAllowedToken token = true)
    (named : token ≠ emptyCell) :
    ∃ color kind, String.ofList [Piece.colorToChar color, Piece.kindToChar kind] = token ∧
      ∀ layout position, placeToken layout position token =
        layout.placeNew position color kind := by
  rw [isAllowedToken, if_neg named] at allowed
  split at allowed
  · next color kind characters =>
      refine ⟨Piece.colorFromChar color, Piece.kindFromChar kind, ?_, fun layout position => ?_⟩
      · simp only [Bool.and_eq_true, decide_eq_true_eq, List.mem_cons, List.not_mem_nil,
          or_false] at allowed
        rw [← String.toList_inj, characters, String.toList_ofList]
        rcases allowed.1 with rfl | rfl <;>
          rcases allowed.2 with rfl | rfl | rfl | rfl | rfl | rfl <;> rfl
      · simp only [placeToken, named, if_false, characters]
  · cases allowed

/-- What placing the tokens of some cells makes of a layout in which these cells
are vacant. -/
structure Built (before after : Layout) (cells : List (Position × String)) : Prop where
  height : after.board.height = before.board.height
  width : after.board.width = before.board.width
  outside : ∀ position, position ∉ cells.map Prod.fst →
    after.board.getPieceAt position = before.board.getPieceAt position
  kept : ∀ piece, piece < before.nextPieceId → after.pieces.get piece = before.pieces.get piece
  shown : ∀ cell ∈ cells, BoardPrinter.printCell after cell.1 = cell.2
  numbered : cells.filterMap (fun cell => after.board.getPieceAt cell.1) =
    List.range' before.nextPieceId (cells.countP fun cell => cell.2 ≠ emptyCell)

/-- **The construction loop.** By induction on the cells: they are distinct, so
the cell filled first is still filled with the same piece at the end. -/
theorem built_foldl {cells : List (Position × String)} (distinct : (cells.map Prod.fst).Nodup)
    (allowed : ∀ cell ∈ cells, isAllowedToken cell.2 = true) (before : Layout)
    (inside : ∀ cell ∈ cells, before.board.isInside cell.1)
    (vacant : ∀ cell ∈ cells, before.board.getPieceAt cell.1 = none) :
    Built before (cells.foldl (fun built cell => placeToken built cell.1 cell.2) before) cells := by
  induction cells generalizing before with
  | nil =>
      exact ⟨rfl, rfl, fun _ _ => rfl, fun _ _ => rfl,
        fun _ member => absurd member List.not_mem_nil, rfl⟩
  | cons cell rest ih =>
      obtain ⟨position, token⟩ := cell
      rw [List.map_cons, List.nodup_cons] at distinct
      have later := ih distinct.2 fun other member => allowed other (List.mem_cons_of_mem _ member)
      have here : before.board.isInside position := inside _ List.mem_cons_self
      have free : before.board.getPieceAt position = none := vacant _ List.mem_cons_self
      rw [List.foldl_cons]
      by_cases named : token = emptyCell
      · -- the empty cell places nothing, and stays vacant
        have skipped : placeToken before position token = before := if_pos named
        simp only [skipped]
        have built := later before
          (fun other member => inside other (List.mem_cons_of_mem _ member))
          fun other member => vacant other (List.mem_cons_of_mem _ member)
        have still := (built.outside position distinct.1).trans free
        refine ⟨built.height, built.width, fun other absent => ?_, built.kept, ?_, ?_⟩
        · exact built.outside other fun member => absent (List.mem_cons_of_mem _ member)
        · rintro other member
          rcases List.mem_cons.mp member with rfl | member
          · simp only [BoardPrinter.printCell, still, named]
            rfl
          · exact built.shown other member
        · rw [List.filterMap_cons, still, built.numbered, List.countP_cons]
          simp only [named, ne_eq, not_true_eq_false, decide_false, Bool.false_eq_true, if_false,
            Nat.add_zero]
      · obtain ⟨color, kind, spelled, placed⟩ :=
          placeToken_of_isAllowedToken (allowed _ List.mem_cons_self) named
        simp only [placed]
        have filled := fun cell =>
          Layout.getPieceAt_placeNew before position cell color kind here free
        have apart : ∀ other ∈ rest, other.1 ≠ position := fun other member same =>
          distinct.1 (List.mem_map.mpr ⟨other, member, same⟩)
        have built := later (before.placeNew position color kind)
          (fun other member => (Layout.isInside_placeNew ..).mpr
            (inside other (List.mem_cons_of_mem _ member)))
          fun other member => by
            rw [filled, if_neg (apart other member)]
            exact vacant other (List.mem_cons_of_mem _ member)
        have stands : _ = some before.nextPieceId :=
          (built.outside position distinct.1).trans ((filled position).trans (if_pos rfl))
        refine ⟨built.height.trans (Layout.placeNew_height ..),
          built.width.trans (Layout.placeNew_width ..), fun other absent => ?_,
          fun piece earlier => ?_, ?_, ?_⟩
        · rw [List.map_cons, List.mem_cons, not_or] at absent
          rw [built.outside other absent.2, filled, if_neg absent.1]
        · rw [built.kept piece (Nat.lt_succ_of_lt earlier), Layout.placeNew, Heap.get_set,
            if_neg (Nat.ne_of_lt earlier)]
        · rintro other member
          rcases List.mem_cons.mp member with rfl | member
          · simp only [BoardPrinter.printCell, stands]
            rw [built.kept _ (Nat.lt_succ_self _), Layout.placeNew, Heap.get_set, if_pos rfl]
            exact spelled
          · exact built.shown other member
        · rw [List.filterMap_cons, stands, built.numbered, List.countP_cons]
          simp only [named, ne_eq, not_false_eq_true, decide_true, if_true, List.range'_succ]
          rfl

end BoardParser

/-! ## Reading the printed text -/

namespace BoardParser

/-- The lines that `getline` takes from a text: a line feed ends a line, and so
does the end of the text when characters stand before it. -/
def readLines (text : String) : List String :=
  let pieces := text.toList.splitOn '\n'
  (if pieces.getLast? = some [] then pieces.dropLast else pieces).map String.ofList

/-- The tokens of the lines that have any. -/
def tokenRows (boardLines : List String) : List (List String) :=
  (boardLines.map splitLineToTokens).filter fun tokens => tokens ≠ []

/-- A token that reading does not split: there are characters, none of them white
space. -/
def Solid (token : String) : Prop :=
  token.toList ≠ [] ∧ ∀ char ∈ token.toList, isSpace char = false

theorem solid_of_isAllowedToken {token : String} (allowed : isAllowedToken token = true) :
    Solid token := by
  unfold isAllowedToken at allowed
  split at allowed
  · next same =>
      subst same
      exact ⟨List.cons_ne_nil _ _, List.forall_mem_singleton.mpr rfl⟩
  · split at allowed
    · next color kind characters =>
        simp only [Bool.and_eq_true, decide_eq_true_eq, List.mem_cons, List.not_mem_nil,
          or_false] at allowed
        refine ⟨by rw [characters]; exact List.cons_ne_nil _ _, ?_⟩
        rw [characters]
        intro char member
        simp only [List.mem_cons, List.not_mem_nil, or_false] at member
        rcases member with rfl | rfl
        · rcases allowed.1 with rfl | rfl <;> rfl
        · rcases allowed.2 with rfl | rfl | rfl | rfl | rfl | rfl <;> rfl
    · cases allowed

theorem splitLineToTokens_cons {token : String} (solid : Solid token) (rest : List Char) :
    splitLineToTokens (String.ofList (token.toList ++ ' ' :: rest)) =
      token :: splitLineToTokens (String.ofList rest) := by
  simp only [splitLineToTokens, String.toList_ofList]
  rw [List.splitOnP_append_cons_of_forall_mem solid.2 ' ' rfl]
  simp only [List.filter_cons, ne_eq, solid.1, not_false_eq_true, decide_true, if_true,
    List.map_cons, String.ofList_toList]

theorem splitLineToTokens_singleton {token : String} (solid : Solid token) :
    splitLineToTokens token = [token] := by
  simp only [splitLineToTokens]
  rw [List.splitOnP_eq_singleton solid.2]
  simp only [List.filter_cons, ne_eq, solid.1, not_false_eq_true, decide_true, if_true,
    List.filter_nil, List.map_cons, List.map_nil, String.ofList_toList]

/-- **A row of tokens is read back from its line.** -/
theorem splitLineToTokens_intercalate {row : List String} (solid : ∀ token ∈ row, Solid token) :
    splitLineToTokens (" ".intercalate row) = row := by
  induction row with
  | nil => rfl
  | cons token rest ih =>
      have first := solid token List.mem_cons_self
      cases rest with
      | nil => rw [String.intercalate_singleton, splitLineToTokens_singleton first]
      | cons next others =>
          have line : " ".intercalate (token :: next :: others) =
              String.ofList (token.toList ++ ' ' :: (" ".intercalate (next :: others)).toList) := by
            rw [String.intercalate_cons_cons, ← String.toList_inj]
            simp
          rw [line, splitLineToTokens_cons first, String.ofList_toList,
            ih fun other member => solid other (List.mem_cons_of_mem _ member)]

theorem newline_not_mem {row : List String} (solid : ∀ token ∈ row, Solid token) :
    '\n' ∉ (" ".intercalate row).toList := by
  induction row with
  | nil => exact List.not_mem_nil
  | cons token rest ih =>
      have first : '\n' ∉ token.toList := fun member =>
        absurd ((solid token List.mem_cons_self).2 '\n' member) (by decide)
      cases rest with
      | nil => rwa [String.intercalate_singleton]
      | cons next others =>
          have later := ih fun other member => solid other (List.mem_cons_of_mem _ member)
          rw [String.intercalate_cons_cons]
          simp only [String.toList_append, List.mem_append, not_or]
          exact ⟨⟨first, by decide⟩, later⟩

theorem splitOn_textOf {rows : List (List String)}
    (solid : ∀ row ∈ rows, ∀ token ∈ row, Solid token) :
    (BoardPrinter.textOf rows).toList.splitOn '\n' =
      (rows.map fun row => (" ".intercalate row).toList) ++ [[]] := by
  induction rows with
  | nil => rfl
  | cons row rest ih =>
      have line : (BoardPrinter.textOf (row :: rest)).toList =
          (" ".intercalate row).toList ++ '\n' :: (BoardPrinter.textOf rest).toList := by
        simp only [BoardPrinter.textOf, List.map_cons, String.join_cons, String.toList_append,
          List.append_assoc]
        rfl
      rw [line, List.splitOn_append_cons_self_of_not_mem
        (newline_not_mem (solid row List.mem_cons_self)),
        ih fun other member => solid other (List.mem_cons_of_mem _ member)]
      rfl

/-- **The lines of a printed text are its rows.** -/
theorem readLines_textOf {rows : List (List String)}
    (solid : ∀ row ∈ rows, ∀ token ∈ row, Solid token) :
    readLines (BoardPrinter.textOf rows) = rows.map fun row => " ".intercalate row := by
  simp only [readLines, splitOn_textOf solid, List.getLast?_concat, if_true,
    List.dropLast_concat, List.map_map]
  exact List.map_congr_left fun row _ => String.ofList_toList

/-- Reading a printed text finds the rows it was printed from. -/
theorem tokenRows_readLines {rows : List (List String)}
    (filled : ∀ row ∈ rows, row ≠ [])
    (solid : ∀ row ∈ rows, ∀ token ∈ row, Solid token) :
    tokenRows (readLines (BoardPrinter.textOf rows)) = rows := by
  have read : rows.map (splitLineToTokens ∘ fun row => " ".intercalate row) = rows :=
    (List.map_congr_left fun row member =>
      splitLineToTokens_intercalate (solid row member)).trans rows.map_id
  rw [tokenRows, readLines_textOf solid, List.map_map, read, List.filter_eq_self]
  intro row member
  exact decide_eq_true (filled row member)

/-! ## The round trip -/

/-- There is a token, every token is allowed, and the lines with tokens have
equally many. -/
structure Accepted (boardLines : List String) : Prop where
  filled : tokenRows boardLines ≠ []
  allowed : ∀ row ∈ tokenRows boardLines, ∀ token ∈ row, isAllowedToken token = true
  even : ∀ first ∈ tokenRows boardLines, ∀ second ∈ tokenRows boardLines,
    first.length = second.length

instance (boardLines : List String) : Decidable (Accepted boardLines) :=
  decidable_of_iff (tokenRows boardLines ≠ [] ∧
      (∀ row ∈ tokenRows boardLines, ∀ token ∈ row, isAllowedToken token = true) ∧
      ∀ first ∈ tokenRows boardLines, ∀ second ∈ tokenRows boardLines,
        first.length = second.length)
    ⟨fun parts => ⟨parts.1, parts.2.1, parts.2.2⟩,
      fun accepted => ⟨accepted.filled, accepted.allowed, accepted.even⟩⟩

theorem firstError_eq_none {expectedWidth : Nat} {rows : List (List String)} :
    firstError expectedWidth rows = none ↔
      ∀ row ∈ rows, row.length = expectedWidth ∧ ∀ token ∈ row, isAllowedToken token = true := by
  induction rows with
  | nil => exact ⟨fun _ _ member => absurd member List.not_mem_nil, fun _ => rfl⟩
  | cons row rest ih =>
      simp only [← List.all_eq_true] at ih ⊢
      rw [List.forall_mem_cons, ← ih, firstError]
      by_cases width : row.length = expectedWidth
      · by_cases tokens : row.all isAllowedToken = true
        · simp only [width, tokens, ne_eq, not_true_eq_false, if_false, true_and]
        · simp only [width, tokens, ne_eq, not_true_eq_false, not_false_eq_true, if_false, if_true,
            reduceCtorEq, and_false, false_and]
      · simp only [width, ne_eq, not_false_eq_true, if_true, reduceCtorEq, false_and]

/-- Only the tokens of the lines matter. -/
theorem parse_congr {first second : List String} (same : tokenRows first = tokenRows second) :
    parse first = parse second := by
  unfold tokenRows at same
  rw [parse, parse, same]

theorem parse_of_accepted {boardLines : List String} (accepted : Accepted boardLines) :
    ∃ width, (∀ row ∈ tokenRows boardLines, row.length = width) ∧
      parse boardLines = ⟨placeRows (Layout.empty (tokenRows boardLines).length width)
        (tokenRows boardLines), none⟩ := by
  obtain ⟨filled, allowed, even⟩ := accepted
  unfold parse
  split
  · next rows => exact absurd rows filled
  · next first rest rows =>
      change tokenRows boardLines = first :: rest at rows
      rw [rows] at allowed even ⊢
      have width : ∀ row ∈ first :: rest, row.length = first.length := fun row member =>
        even row member first List.mem_cons_self
      have correct : firstError first.length (first :: rest) = none :=
        firstError_eq_none.mpr fun row member => ⟨width row member, allowed row member⟩
      refine ⟨first.length, width, ?_⟩
      simp only [correct]

theorem parse_of_not_accepted {boardLines : List String} (rejected : ¬ Accepted boardLines) :
    (parse boardLines).layout = Layout.empty 0 0 := by
  unfold parse
  split
  · rfl
  · next first rest rows =>
      split
      · rfl
      · next correct =>
          have checked := firstError_eq_none.mp correct
          change tokenRows boardLines = first :: rest at rows
          refine absurd ⟨?_, ?_, ?_⟩ rejected
          · rw [rows]
            exact List.cons_ne_nil _ _
          · rw [rows]
            exact fun row member => (checked row member).2
          · rw [rows]
            intro row member other memberToo
            rw [(checked row member).1, (checked other memberToo).1]

/-- What the construction loops make of accepted rows. -/
theorem built_placeRows {rows : List (List String)} {width : Nat}
    (even : ∀ row ∈ rows, row.length = width)
    (allowed : ∀ row ∈ rows, ∀ token ∈ row, isAllowedToken token = true) :
    Built (Layout.empty rows.length width) (placeRows (Layout.empty rows.length width) rows)
      (cellsOf rows) := by
  rw [placeRows_eq]
  refine built_foldl ?_ ?_ _ ?_ ?_
  · rw [map_fst_cellsOf even]
    exact Board.positions_nodup _
  · intro cell member
    have token : cell.2 ∈ rows.flatten := map_snd_cellsOf rows ▸ List.mem_map_of_mem member
    obtain ⟨row, rowMember, tokenMember⟩ := List.mem_flatten.mp token
    exact allowed row rowMember cell.2 tokenMember
  · intro cell member
    have position : cell.1 ∈ (Board.empty rows.length width).positions :=
      map_fst_cellsOf even ▸ List.mem_map_of_mem member
    exact Board.mem_positions.mp position
  · exact fun cell _ => Board.getPieceAt_empty ..

theorem print_placeRows {rows : List (List String)} {width : Nat}
    (even : ∀ row ∈ rows, row.length = width)
    (allowed : ∀ row ∈ rows, ∀ token ∈ row, isAllowedToken token = true) :
    BoardPrinter.print (placeRows (Layout.empty rows.length width) rows) =
      BoardPrinter.textOf rows := by
  have built := built_placeRows even allowed
  rw [BoardPrinter.print_eq, built.height, built.width]
  simp only [Layout.empty, Board.empty, Int.toNat_natCast]
  refine congrArg BoardPrinter.textOf (List.ext_getElem ?_ fun row _ below => ?_)
  · rw [List.length_map, List.length_range]
  · have wide : rows[row].length = width := even _ (List.getElem_mem below)
    rw [List.getElem_map, List.getElem_range]
    refine List.ext_getElem ?_ fun col _ within => ?_
    · rw [List.length_map, List.length_range, wide]
    · rw [List.getElem_map, List.getElem_range]
      exact built.shown _ (mem_cellsOf below within)

theorem idsInOrder_placeRows {rows : List (List String)} {width : Nat}
    (even : ∀ row ∈ rows, row.length = width)
    (allowed : ∀ row ∈ rows, ∀ token ∈ row, isAllowedToken token = true) :
    (placeRows (Layout.empty rows.length width) rows).idsInOrder =
      List.range' 1 (rows.flatten.countP (· ≠ emptyCell)) := by
  have built := built_placeRows even allowed
  have cells : (placeRows (Layout.empty rows.length width) rows).board.positions =
      (cellsOf rows).map Prod.fst := by
    rw [map_fst_cellsOf even, Board.positions, built.height, built.width]
    rfl
  have tokens : (cellsOf rows).countP (fun cell => cell.2 ≠ emptyCell) =
      rows.flatten.countP (· ≠ emptyCell) := by
    rw [← map_snd_cellsOf, List.countP_map]
    rfl
  simp only [Layout.idsInOrder, Layout.ids, List.map_id', cells, List.filterMap_map]
  rw [← tokens]
  exact built.numbered

/-- A board of two rows, one of them indented. -/
def indentedLines : List String := ["  wK   . bQ  ", "", " .\t wP   ."]

/-- **The round trip.** Accepted lines print as their tokens with single blanks
between them, their pieces are numbered from one in row-major order, and the
printed text parses to the same board. All other lines give the empty board, and
no piece is made. -/
theorem print_parse (boardLines : List String) :
    (Accepted boardLines →
      BoardPrinter.print (parse boardLines).layout = BoardPrinter.textOf (tokenRows boardLines) ∧
      (parse boardLines).layout.idsInOrder =
        List.range' 1 ((tokenRows boardLines).flatten.countP (· ≠ emptyCell)) ∧
      parse (readLines (BoardPrinter.print (parse boardLines).layout)) = parse boardLines) ∧
    (¬ Accepted boardLines → (parse boardLines).layout = Layout.empty 0 0) := by
  refine ⟨fun accepted => ?_, parse_of_not_accepted⟩
  obtain ⟨width, even, parsed⟩ := parse_of_accepted accepted
  have printed : BoardPrinter.print (parse boardLines).layout =
      BoardPrinter.textOf (tokenRows boardLines) := by
    rw [parsed]
    exact print_placeRows even accepted.allowed
  refine ⟨printed, ?_, ?_⟩
  · rw [parsed]
    exact idsInOrder_placeRows even accepted.allowed
  · rw [printed]
    refine parse_congr (tokenRows_readLines ?_ ?_)
    · intro row member
      exact of_decide_eq_true (List.mem_filter.mp member).2
    · intro row member token tokenMember
      exact solid_of_isAllowedToken (accepted.allowed row member token tokenMember)

theorem print_parse_indentedLines :
    Accepted indentedLines ∧
      BoardPrinter.print (parse indentedLines).layout = "wK . bQ\n. wP .\n" := by
  have accepted : Accepted indentedLines := by decide +kernel
  refine ⟨accepted, ((print_parse indentedLines).1 accepted).1.trans ?_⟩
  decide +kernel

end BoardParser

end KungFuChess

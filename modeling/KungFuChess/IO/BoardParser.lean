import KungFuChess.Core.Board

/-!
# Reading a board from text

`BoardParser::parse` splits each line at white space, drops the lines without
tokens, and accepts what is left when every row has the width of the first one
and every token is allowed. The pieces are made in row-major order. A rejected
text gives the board without cells, on which nothing is ever placed.
-/

set_option autoImplicit false

namespace KungFuChess

namespace BoardParser

def emptyCell : String := "."
def errorUnknownToken : String := "ERROR UNKNOWN_TOKEN"
def errorRowWidthMismatch : String := "ERROR ROW_WIDTH_MISMATCH"

def isAllowedToken (token : String) : Bool :=
  if token = emptyCell then true
  else
    match token.toList with
    | [color, kind] => color ∈ ['w', 'b'] && kind ∈ ['K', 'Q', 'R', 'B', 'N', 'P']
    | _ => false

/-- White space as the stream extraction of the source skips it. -/
def isSpace (char : Char) : Bool :=
  char ∈ [' ', '\t', '\n', '\x0b', '\x0c', '\r']

def splitLineToTokens (line : String) : List String :=
  ((line.toList.splitOnP isSpace).filter fun chars => chars ≠ []).map String.ofList

/-- What a call returns, and the line it prints when it rejects the text. -/
structure Outcome where
  layout : Layout
  printed : Option String

/-- The first error met when the rows are checked from the top, each row's width
before its tokens. -/
def firstError (expectedWidth : Nat) : List (List String) → Option String
  | [] => none
  | rowTokens :: rest =>
      if rowTokens.length ≠ expectedWidth then some errorRowWidthMismatch
      else if ¬ rowTokens.all isAllowedToken then some errorUnknownToken
      else firstError expectedWidth rest

/-- Place the piece a token names; the empty cell places nothing. -/
def placeToken (layout : Layout) (position : Position) (token : String) : Layout :=
  if token = emptyCell then layout
  else
    match token.toList with
    | color :: kind :: _ =>
        layout.placeNew position (Piece.colorFromChar color) (Piece.kindFromChar kind)
    | _ => layout

/-- The construction loop over the rows and columns of accepted tokens. -/
def placeRows (layout : Layout) (rows : List (List String)) : Layout :=
  rows.zipIdx.foldl (fun built row =>
    row.1.zipIdx.foldl (fun built token => placeToken built ⟨row.2, token.2⟩ token.1) built) layout

def parse (boardLines : List String) : Outcome :=
  match (boardLines.map splitLineToTokens).filter fun tokens => tokens ≠ [] with
  | [] => ⟨Layout.empty 0 0, none⟩
  | first :: rest =>
      match firstError first.length (first :: rest) with
      | some error => ⟨Layout.empty 0 0, some error⟩
      | none =>
          ⟨placeRows (Layout.empty (first :: rest).length first.length) (first :: rest), none⟩

end BoardParser

end KungFuChess

/-! The lines of a text. A line ends at a line feed, at a carriage return, or at the two in that
order; what follows the last end is a line only if it is not empty. -/
namespace PerlCalls.Text

def linesFrom (current : List Char) : List Char → List (List Char)
  | [] => if current.isEmpty then [] else [current.reverse]
  | '\r' :: '\n' :: rest => current.reverse :: linesFrom [] rest
  | c :: rest =>
    if c == '\n' || c == '\r' then current.reverse :: linesFrom [] rest
    else linesFrom (c :: current) rest

def lines (cs : List Char) : List (List Char) := linesFrom [] cs

def isLineEnd (c : Char) : Bool := c == '\r' || c == '\n'

/-- A line without the line-end characters at its end. -/
def chomp (cs : List Char) : List Char := (cs.reverse.dropWhile isLineEnd).reverse

/-- Every line end becomes a single line feed. -/
def unifyLineEnds : List Char → List Char
  | [] => []
  | '\r' :: '\n' :: rest => '\n' :: unifyLineEnds rest
  | c :: rest => (if c == '\r' then '\n' else c) :: unifyLineEnds rest

/-- Cut at every `sep`; there is always at least one piece. -/
def splitOnChar (sep : Char) : List Char → List (List Char)
  | [] => [[]]
  | c :: rest =>
    if c == sep then [] :: splitOnChar sep rest
    else match splitOnChar sep rest with
      | [] => [[c]]
      | piece :: pieces => (c :: piece) :: pieces

/-- The pieces with `sep` between each two. -/
def joinWith (sep : List Char) : List (List Char) → List Char
  | [] => []
  | [piece] => piece
  | piece :: next :: rest => piece ++ sep ++ joinWith sep (next :: rest)

theorem splitOnChar_ne_nil (sep : Char) : (cs : List Char) → splitOnChar sep cs ≠ []
  | [] => by simp [splitOnChar]
  | c :: rest => by
    unfold splitOnChar
    split
    · simp
    · split <;> simp

end PerlCalls.Text

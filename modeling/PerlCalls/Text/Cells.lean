import PerlCalls.Text.Width

/-! The cells of a text, and its division into graphemes.

A joiner draws the character behind it into the one before, and the emoji selector widens some
characters to two cells. So the width of a text is not the sum over its characters: what is cut or
filled up is counted grapheme by grapheme. -/
namespace PerlCalls.Text

/-- Joins the characters on both sides of it into one shape. -/
def isJoiner (c : Char) : Bool := c.toNat == 0x200D

/-- Asks for the emoji form of the character before it. -/
def isEmojiSelector (c : Char) : Bool := c.toNat == 0xFE0F

/-- The cells that the emoji selector adds to a character. -/
def widening (last : Option Char) : Nat :=
  match last with
  | some c => if emojiWideRanges.has c then 1 else 0
  | none => 0

/-- The character that a further selector may widen. -/
def afterWidening (last : Option Char) : Option Char := if widening last == 0 then last else none

/-- The character that a selector behind `c` would widen. -/
def afterChar (last : Option Char) (c : Char) : Option Char := if cellWidth c == 0 then last else some c

/-- The cells of a text behind `last`. -/
def cellsFrom (last : Option Char) : List Char → Nat
  | [] => 0
  | c :: rest =>
    if isJoiner c then
      match rest with
      | [] => 0
      | _ :: rest => cellsFrom last rest
    else if isEmojiSelector c then widening last + cellsFrom (afterWidening last) rest
    else cellWidth c + cellsFrom (afterChar last c) rest

/-- The cells of a text. -/
def cells (cs : List Char) : Nat := cellsFrom none cs

/-- Characters that are shown together, and the cells they take. -/
structure Grapheme where
  text : List Char
  width : Nat
deriving DecidableEq

/-- The graphemes of a text that goes on behind the grapheme `g`, whose last visible character is
`last`. -/
def graphemesBehind (g : Grapheme) (last : Option Char) : List Char → List Grapheme
  | [] => [g]
  | c :: rest =>
    if isJoiner c then
      match rest with
      | [] => [{ g with text := g.text ++ [c] }]
      | d :: rest => graphemesBehind { g with text := g.text ++ [c, d] } last rest
    else if isEmojiSelector c then
      graphemesBehind ⟨g.text ++ [c], g.width + widening last⟩ (afterWidening last) rest
    else if cellWidth c == 0 then graphemesBehind { g with text := g.text ++ [c] } last rest
    else g :: graphemesBehind ⟨[c], cellWidth c⟩ (some c) rest

/-- The graphemes of a text. What has no cell at its beginning is a grapheme of its own. -/
def graphemes : List Char → List Grapheme
  | [] => []
  | c :: rest =>
    if isJoiner c || isEmojiSelector c then graphemesBehind ⟨[c], 0⟩ none rest
    else graphemesBehind ⟨[c], cellWidth c⟩ (afterChar none c) rest

/-- The longest beginning that fits, filled up with blanks. -/
def fitGraphemes (width : Nat) : List Grapheme → List Char
  | [] => List.replicate width ' '
  | g :: rest =>
    if g.width ≤ width then g.text ++ fitGraphemes (width - g.width) rest
    else List.replicate width ' '

/-- A text of exactly so many cells: filled up with blanks, or cut. -/
def fitCells (width : Nat) (cs : List Char) : List Char :=
  let size := cells cs
  if size ≤ width then cs ++ List.replicate (width - size) ' '
  else if width == 0 then []
  else fitGraphemes width (graphemes cs)

/-- Cut into pieces of at most `width` cells; `current` is the last piece so far. A grapheme that is
wider than a piece leaves the piece before it as short as it is. -/
def chopGraphemes (width : Nat) (current : List Char) (used : Nat) : List Grapheme → List (List Char)
  | [] => [current]
  | g :: rest =>
    if width < used + g.width then current :: chopGraphemes width g.text g.width rest
    else chopGraphemes width (current ++ g.text) (used + g.width) rest

/-- A text in pieces of at most `width` cells. -/
def chop (width : Nat) (cs : List Char) : List (List Char) := chopGraphemes width [] 0 (graphemes cs)

end PerlCalls.Text

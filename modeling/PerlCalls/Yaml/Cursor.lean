/-! A place in a YAML text: what is ahead, and the line and column of the next character. -/
namespace PerlCalls.Yaml

/-- The characters that end a line. -/
def isBreak (c : Char) : Bool := ['\n', '\r', '\x85', '\u2028', '\u2029'].contains c

/-- At the end of the text, or before a blank, a tab or the end of a line. -/
def isGap : Option Char → Bool
  | none => true
  | some c => c == ' ' || c == '\t' || isBreak c

/-- The columns that a character takes; a byte order mark takes none. -/
def columnsOf (c : Char) : Nat := if c == '\ufeff' then 0 else 1

structure Cursor where
  ahead : List Char
  line : Nat := 0
  column : Nat := 0
  index : Nat := 0

namespace Cursor

def peek (c : Cursor) : Option Char := c.ahead.head?

def peekAt (c : Cursor) (n : Nat) : Option Char := c.ahead[n]?

/-- Over one character. -/
def skip (c : Cursor) : Cursor :=
  match c.ahead with
  | [] => c
  | x :: rest =>
    if isBreak x then { ahead := rest, line := c.line + 1, column := 0, index := c.index + 1 }
    else { c with ahead := rest, column := c.column + columnsOf x, index := c.index + 1 }

/-- Over `n` characters. -/
def forward (c : Cursor) : Nat → Cursor
  | 0 => c
  | n + 1 => c.skip.forward n

/-- The characters of a class ahead, and the place after them. -/
def takeWhile (c : Cursor) (p : Char → Bool) : List Char × Cursor :=
  let taken := c.ahead.takeWhile p
  (taken, c.forward taken.length)

def skipWhile (c : Cursor) (p : Char → Bool) : Cursor := (c.takeWhile p).2

/-- What a line end stands for, if one is ahead: a line feed, but for the two Unicode separators. -/
def takeBreak? (c : Cursor) : Option (Char × Cursor) :=
  match c.ahead with
  | '\r' :: '\n' :: _ => some ('\n', { c.forward 2 with line := c.line + 1 })
  | x :: _ =>
    if !isBreak x then none
    else some (if x == '\u2028' || x == '\u2029' then x else '\n', c.skip)
  | [] => none

/-- Three times the character, and then a gap. -/
def atMarker (c : Cursor) (x : Char) : Bool :=
  c.peek == some x && c.peekAt 1 == some x && c.peekAt 2 == some x && isGap (c.peekAt 3)

/-- A line that begins or ends a document. -/
def atDocumentMarker (c : Cursor) : Bool := c.atMarker '-' || c.atMarker '.'

end Cursor

end PerlCalls.Yaml

import PerlCalls.Text.Digit
import PerlCalls.Yaml.Cursor

/-! Block scalars of YAML: the lines that are indented below their header.

A literal scalar keeps its line ends; in a folded one the end of a line between two lines that begin
with no blank is a blank. The header says what becomes of the line ends after the last line. -/
namespace PerlCalls.Yaml

open Text

/-- What becomes of the line ends at the end of a block scalar. -/
inductive Chomping where
  | clip
  | strip
  | keep
deriving DecidableEq

/-- The header of a block scalar. -/
structure BlockHeader where
  chomping : Chomping := .clip
  /-- How much deeper than its parent the scalar is indented, if the header says so. -/
  increment : Option Nat := none

def chomping? (c : Option Char) : Option Chomping :=
  if c == some '+' then some .keep else if c == some '-' then some .strip else none

/-- A digit of a header; zero is refused. -/
def increment? (c : Cursor) : Option (Option Nat × Cursor) :=
  match c.peek with
  | some x =>
    if !isAsciiDigit x then some (none, c)
    else if x == '0' then none
    else some (some (digitValue x), c.skip)
  | none => some (none, c)

/-- The header of a block scalar, behind its first character. The two indicators come in any
order. -/
def blockHeader? (c : Cursor) : Option (BlockHeader × Cursor) := do
  let (header, c) ← match chomping? c.peek with
    | some chomping => do
      let (increment, c) ← increment? c.skip
      pure ({ chomping := chomping, increment := increment : BlockHeader }, c)
    | none => do
      let (increment, c) ← increment? c
      match increment, chomping? c.peek with
      | some _, some chomping =>
        pure ({ chomping := chomping, increment := increment : BlockHeader }, c.skip)
      | _, _ => pure ({ increment := increment : BlockHeader }, c)
  if c.peek.all (fun x => x == ' ' || isBreak x) then pure (header, c) else none

/-- To the next line; only a comment may stand before it. -/
def restOfLine? (c : Cursor) : Option Cursor :=
  let c := c.skipWhile (· == ' ')
  let c := if c.peek == some '#' then c.skipWhile (fun x => !isBreak x) else c
  match c.takeBreak? with
  | some (_, c) => some c
  | none => if c.ahead.isEmpty then some c else none

/-- Blanks up to a column. -/
def skipIndent (indent : Nat) (c : Cursor) : Nat → Cursor
  | 0 => c
  | n + 1 => if c.column < indent && c.peek == some ' ' then skipIndent indent c.skip n else c

/-- Empty lines, and the indentation of the line after them. -/
def blockBreaks (indent : Nat) (c : Cursor) : Nat → List Char × Cursor
  | 0 => ([], c)
  | n + 1 =>
    let c := skipIndent indent c indent
    match c.takeBreak? with
    | none => ([], c)
    | some (b, c) =>
      let rest := blockBreaks indent c n
      (b :: rest.1, rest.2)

/-- Empty lines before the first line, the deepest column that blanks reach in them or before it,
and the place of the first line. -/
def firstIndent (deepest : Nat) (c : Cursor) : Nat → List Char × Nat × Cursor
  | 0 => ([], deepest, c)
  | n + 1 =>
    if c.peek == some ' ' then firstIndent (max deepest (c.column + 1)) c.skip n
    else match c.takeBreak? with
      | none => ([], deepest, c)
      | some (b, c) =>
        let rest := firstIndent deepest c n
        (b :: rest.1, rest.2)

/-- Block text that has been read: the end of its last line and the empty lines after it are kept
apart. -/
structure BlockText where
  text : List Char
  lastBreak : List Char
  breaks : List Char
  cursor : Cursor

/-- The lines at an indentation; `breaks` are the empty lines before the first. -/
def blockLines (folded : Bool) (indent : Nat) (breaks : List Char) (c : Cursor) : Nat → BlockText
  | 0 => ⟨[], [], breaks, c⟩
  | n + 1 =>
    let isInside := fun (c : Cursor) => c.column == indent && !c.ahead.isEmpty
    let isBlankAhead := fun (c : Cursor) => c.peek == some ' ' || c.peek == some '\t'
    if isInside c then
      let (line, after) := c.takeWhile (fun x => !isBreak x)
      let (lastBreak, after) := match after.takeBreak? with
        | some (b, after) => ([b], after)
        | none => ([], after)
      let (more, next) := blockBreaks indent after (after.ahead.length + 1)
      if isInside next then
        let joint := if folded && lastBreak == ['\n'] && !isBlankAhead c && !isBlankAhead next then
            (if more.isEmpty then [' '] else [])
          else lastBreak
        let rest := blockLines folded indent more next n
        { rest with text := breaks ++ line ++ joint ++ rest.text }
      else ⟨breaks ++ line, lastBreak, more, next⟩
    else ⟨[], [], breaks, c⟩

/-- A block scalar below a collection at column `parent`; the cursor stands at its first
character. -/
def blockScalar? (parent : Int) (c : Cursor) : Option (List Char × Cursor) := do
  let folded := c.peek == some '>'
  let (header, c) ← blockHeader? c.skip
  let c ← restOfLine? c
  let least := max 1 (parent + 1).toNat
  let size := c.ahead.length + 1
  let (indent, breaks, c) := match header.increment with
    | none =>
      let (breaks, deepest, c) := firstIndent 0 c size
      (max least deepest, breaks, c)
    | some increment =>
      let indent := least + increment - 1
      let (breaks, c) := blockBreaks indent c size
      (indent, breaks, c)
  let block := blockLines folded indent breaks c size
  let ending := match header.chomping with
    | .strip => []
    | .clip => block.lastBreak
    | .keep => block.lastBreak ++ block.breaks
  return (block.text ++ ending, block.cursor)

end PerlCalls.Yaml

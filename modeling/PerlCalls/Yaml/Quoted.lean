import PerlCalls.Text.Digit
import PerlCalls.Yaml.Cursor
import PerlCalls.Yaml.Fault

/-! Scalars of YAML: plain ones, and those in single or double quotes.

A line end inside a scalar is a blank; several are one line feed less. -/
namespace PerlCalls.Yaml

open Text

/-- What a line end and the empty lines after it leave in a scalar. -/
def foldBreaks (first : Char) (more : List Char) : List Char :=
  if first != '\n' then first :: more
  else if more.isEmpty then [' ']
  else more

/-! ### Quoted scalars -/

/-- Empty lines and the indentation after them; a document marker may not come. -/
def quotedBreaks (c : Cursor) : Nat → Reading (List Char × Cursor)
  | 0 => .error .malformed
  | n + 1 =>
    if c.atDocumentMarker then .error .malformed
    else
      let c := c.skipWhile (fun x => x == ' ' || x == '\t')
      match c.takeBreak? with
      | none => .ok ([], c)
      | some (b, c) => (quotedBreaks c n).map (fun r => (b :: r.1, r.2))

/-- Blanks, or a line end with all that belongs to it. -/
def quotedGap (c : Cursor) : Reading (List Char × Cursor) :=
  let (blanks, c) := c.takeWhile (fun x => x == ' ' || x == '\t')
  match c.takeBreak? with
  | some (first, c) =>
    (quotedBreaks c (c.ahead.length + 1)).map (fun r => (foldBreaks first r.1, r.2))
  | none => if c.ahead.isEmpty then .error .malformed else .ok (blanks, c)

/-- The characters with an escape of one letter. -/
def escapeReplacement? : Char → Option Char
  | '0' => some (Char.ofNat 0)
  | 'a' => some '\x07'
  | 'b' => some '\x08'
  | 't' => some '\t'
  | '\t' => some '\t'
  | 'n' => some '\n'
  | 'v' => some '\x0b'
  | 'f' => some '\x0c'
  | 'r' => some '\r'
  | 'e' => some '\x1b'
  | ' ' => some ' '
  | '"' => some '"'
  | '\\' => some '\\'
  | '/' => some '/'
  | 'N' => some '\x85'
  | '_' => some '\xa0'
  | 'L' => some '\u2028'
  | 'P' => some '\u2029'
  | _ => none

/-- How many digits in base sixteen follow the letter of an escape. -/
def escapeDigits? : Char → Option Nat
  | 'x' => some 2
  | 'u' => some 4
  | 'U' => some 8
  | _ => none

/-- The character with a number. -/
def characterOf (n : Nat) : Reading Char :=
  if 0xD800 ≤ n && n < 0xE000 then .error .halfCharacter
  else if n < 0x110000 then .ok (Char.ofNat n)
  else .error (if n < 0x80000000 then .noCharacter else .characterTooLarge)

/-- What a backslash in double quotes stands for; the cursor is behind the backslash. -/
def quotedEscape (c : Cursor) : Reading (List Char × Cursor) := do
  let x ← orMalformed c.peek
  match escapeReplacement? x, escapeDigits? x with
  | some y, _ => return ([y], c.skip)
  | none, some n =>
    let digits := c.skip.ahead.take n
    if digits.length == n && digits.all isHexDigit then
      return ([← characterOf (hexNumber digits)], c.skip.forward n)
    else throw .malformed
  | none, none =>
    let (_, c) ← orMalformed c.takeBreak?
    quotedBreaks c (c.ahead.length + 1)

/-- The text up to the closing quote. -/
def quotedText (double : Bool) (c : Cursor) : Nat → Reading (List Char × Cursor)
  | 0 => .error .malformed
  | n + 1 =>
    let add := fun (piece : List Char) (c : Cursor) =>
      (quotedText double c n).map (fun r => (piece ++ r.1, r.2))
    match c.peek with
    | none => .error .malformed
    | some x =>
      if x == '"' then (if double then .ok ([], c.skip) else add [x] c.skip)
      else if x == Char.ofNat 0x27 then
        if double then add [x] c.skip
        else if c.peekAt 1 == some x then add [x] (c.forward 2)
        else .ok ([], c.skip)
      else if x == '\\' && double then
        match quotedEscape c.skip with
        | .ok (piece, c) => add piece c
        | .error fault => .error fault
      else if isGap (some x) then
        match quotedGap c with
        | .ok (piece, c) => add piece c
        | .error fault => .error fault
      else add [x] c.skip

/-- A quoted scalar; the cursor stands at its opening quote. -/
def quotedScalar (c : Cursor) : Reading (List Char × Cursor) :=
  quotedText (c.peek == some '"') c.skip (c.ahead.length + 1)

/-! ### Plain scalars -/

/-- The characters that end a plain scalar inside brackets. -/
def isFlowMark (c : Char) : Bool := [',', '[', ']', '\x7b', '\x7d'].contains c

/-- A plain scalar cannot go on with the next character. -/
def endsPlain (inFlow : Bool) (c : Cursor) (n : Nat) : Bool :=
  let x := c.peekAt n
  let afterX := c.peekAt (n + 1)
  isGap x || (x == some ':' && (isGap afterX || (inFlow && afterX.any isFlowMark))) ||
    (inFlow && x.any (fun y => isFlowMark y || y == '?'))

/-- The length of the piece of a plain scalar that is ahead. -/
def plainPiece (inFlow : Bool) (c : Cursor) (n : Nat) : Nat → Nat
  | 0 => n
  | fuel + 1 => if endsPlain inFlow c n then n else plainPiece inFlow c (n + 1) fuel

/-- Empty lines and indentation inside a plain scalar; none at a document marker. -/
def plainBreaks (c : Cursor) : Nat → Option (List Char) × Cursor
  | 0 => (none, c)
  | n + 1 =>
    if c.peek == some ' ' then plainBreaks c.skip n
    else match c.takeBreak? with
      | none => (some [], c)
      | some (b, c) =>
        if c.atDocumentMarker then (none, c)
        else
          let r := plainBreaks c n
          (r.1.map (b :: ·), r.2)

/-- What stands between two pieces of a plain scalar. -/
structure PlainGap where
  /-- Its share in the scalar, nothing if the scalar ends here. -/
  text : List Char
  crossedLine : Bool
  cursor : Cursor

def plainGap (c : Cursor) : PlainGap :=
  let (blanks, c) := c.takeWhile (· == ' ')
  match c.takeBreak? with
  | none => ⟨blanks, false, c⟩
  | some (first, c) =>
    if c.atDocumentMarker then ⟨[], true, c⟩
    else match plainBreaks c (c.ahead.length + 1) with
      | (none, c) => ⟨[], true, c⟩
      | (some more, c) => ⟨foldBreaks first more, true, c⟩

/-- A plain scalar that has been read. -/
structure PlainScalar where
  text : List Char
  /-- The reader has come to a new line in looking for its end. -/
  crossedLine : Bool
  cursor : Cursor

/-- The pieces of a plain scalar whose later lines are indented by at least `indent`. -/
def plainScalar (inFlow : Bool) (indent : Int) (c : Cursor) : Nat → PlainScalar
  | 0 => ⟨[], false, c⟩
  | n + 1 =>
    let length := if c.peek == some '#' then 0 else plainPiece inFlow c 0 c.ahead.length
    if length == 0 then ⟨[], false, c⟩
    else
      let piece := c.ahead.take length
      let gap := plainGap (c.forward length)
      if gap.text.isEmpty || gap.cursor.peek == some '#' ||
          (!inFlow && (gap.cursor.column : Int) < indent) then
        ⟨piece, gap.crossedLine, gap.cursor⟩
      else
        let rest := plainScalar inFlow indent gap.cursor n
        if rest.text.isEmpty then ⟨piece, gap.crossedLine || rest.crossedLine, rest.cursor⟩
        else ⟨piece ++ gap.text ++ rest.text, rest.crossedLine, rest.cursor⟩

end PerlCalls.Yaml

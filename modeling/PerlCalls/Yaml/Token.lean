import PerlCalls.Yaml.Property
import PerlCalls.Yaml.Quoted

/-! The tokens of a YAML text.

Indentation becomes tokens of its own that open and close collections. Whether a scalar or a
bracketed collection is a key is known only when a colon follows it on the same line; the place
where the key would begin is kept until then. -/
namespace PerlCalls.Yaml

inductive Token where
  | documentStart
  | documentEnd
  | openList
  | closeList
  | openMap
  | closeMap
  | comma
  | dash
  | key
  | value
  | blockList
  | blockMap
  | blockEnd
  | directive (d : Directive)
  | anchor (name : String)
  | alias (name : String)
  | tag (name : TagName)
  | scalar (text : String) (plain : Bool)
deriving DecidableEq

/-- Where a key may have begun: before which token, on which line and column. A required key has to
be followed by a colon, because nothing else can stand at that indentation. -/
structure KeyStart where
  token : Nat
  required : Bool
  line : Nat
  column : Nat
  index : Nat

structure Lexer where
  cursor : Cursor
  tokens : List Token := []
  /-- How many brackets are open. -/
  flow : Nat := 0
  indent : Int := -1
  indents : List Int := []
  /-- A key may begin here. -/
  keyAllowed : Bool := true
  /-- Keys that may have begun, by the number of open brackets. -/
  keys : List (Nat × KeyStart) := []

/-- A key and its colon are no further apart than this. -/
def maxKeyLength : Nat := 1024

namespace Lexer

def emit (l : Lexer) (t : Token) : Lexer := { l with tokens := l.tokens ++ [t] }

def moveTo (l : Lexer) (c : Cursor) : Lexer := { l with cursor := c }

/-- Over blanks, comments and line ends; a new line outside of brackets allows a key. -/
def skipFiller (l : Lexer) : Nat → Lexer
  | 0 => l
  | n + 1 =>
    let c := l.cursor.skipWhile (· == ' ')
    let c := if c.peek == some '#' then c.skipWhile (fun x => !isBreak x) else c
    match c.takeBreak? with
    | none => l.moveTo c
    | some (_, c) =>
      ({ l with cursor := c, keyAllowed := l.keyAllowed || l.flow == 0 }).skipFiller n

/-- Forget keys whose colon can come no more; none of them may need it. -/
def dropStaleKeys (l : Lexer) : Reading Lexer :=
  let stale := fun (k : KeyStart) =>
    k.line != l.cursor.line || maxKeyLength < l.cursor.index - k.index
  if l.keys.any (fun e => stale e.2 && e.2.required) then .error .malformed
  else .ok { l with keys := l.keys.filter (fun e => !stale e.2) }

/-- Forget the key that may have begun at this level of brackets. -/
def dropKey (l : Lexer) : Reading Lexer :=
  match l.keys.lookup l.flow with
  | some k =>
    if k.required then .error .malformed else .ok { l with keys := l.keys.filter (·.1 != l.flow) }
  | none => .ok l

/-- A key may begin at the next token. -/
def saveKey (l : Lexer) : Reading Lexer :=
  if l.keyAllowed then do
    let l ← l.dropKey
    let start : KeyStart :=
      { token := l.tokens.length
        required := l.flow == 0 && l.indent == (l.cursor.column : Int)
        line := l.cursor.line
        column := l.cursor.column
        index := l.cursor.index }
    return { l with keys := (l.flow, start) :: l.keys }
  else .ok l

/-- Close the collections that are indented deeper than the column. -/
def unwind (l : Lexer) (column : Int) : Lexer :=
  if l.flow != 0 then l
  else
    let rec close (indent : Int) : List Int → List Token → Int × List Int × List Token
      | [], closed => (indent, [], closed)
      | outer :: rest, closed =>
        if column < indent then close outer rest (closed ++ [.blockEnd])
        else (indent, outer :: rest, closed)
    let (indent, indents, closed) := close l.indent l.indents []
    { l with indent := indent, indents := indents, tokens := l.tokens ++ closed }

/-- Open a collection at a column, unless one is open there. -/
def indentTo (l : Lexer) (column : Nat) : Option Lexer :=
  if l.indent < (column : Int) then
    some { l with indents := l.indent :: l.indents, indent := column }
  else none

def insertToken (l : Lexer) (i : Nat) (t : Token) : Lexer :=
  { l with tokens := l.tokens.take i ++ t :: l.tokens.drop i }

def documentMarker (l : Lexer) (t : Token) : Reading Lexer := do
  let l ← (l.unwind (-1)).dropKey
  return ({ l with keyAllowed := false }.moveTo (l.cursor.forward 3)).emit t

def openFlow (l : Lexer) (t : Token) : Reading Lexer := do
  let l ← l.saveKey
  return ({ l with flow := l.flow + 1, keyAllowed := true }.moveTo l.cursor.skip).emit t

def closeFlow (l : Lexer) (t : Token) : Reading Lexer := do
  let l ← l.dropKey
  if l.flow == 0 then throw .malformed
  else return ({ l with flow := l.flow - 1, keyAllowed := false }.moveTo l.cursor.skip).emit t

def takeComma (l : Lexer) : Reading Lexer := do
  let l ← { l with keyAllowed := true }.dropKey
  return (l.moveTo l.cursor.skip).emit .comma

def takeDash (l : Lexer) : Reading Lexer := do
  let l ← if l.flow != 0 then pure l
    else if !l.keyAllowed then throw .malformed
    else pure (match l.indentTo l.cursor.column with
      | some deeper => deeper.emit .blockList
      | none => l)
  let l ← { l with keyAllowed := true }.dropKey
  return (l.moveTo l.cursor.skip).emit .dash

def takeQuestionMark (l : Lexer) : Reading Lexer := do
  let l ← if l.flow != 0 then pure l
    else if !l.keyAllowed then throw .malformed
    else pure (match l.indentTo l.cursor.column with
      | some deeper => deeper.emit .blockMap
      | none => l)
  let l ← { l with keyAllowed := l.flow == 0 }.dropKey
  return (l.moveTo l.cursor.skip).emit .key

def takeColon (l : Lexer) : Reading Lexer := do
  let l ← match l.keys.lookup l.flow with
    | some k =>
      let keyed := { l with keys := l.keys.filter (·.1 != l.flow) }.insertToken k.token .key
      let opened := if l.flow != 0 then keyed
        else match keyed.indentTo k.column with
          | some deeper => deeper.insertToken k.token .blockMap
          | none => keyed
      pure { opened with keyAllowed := false }
    | none =>
      if l.flow != 0 then ({ l with keyAllowed := false } : Lexer).dropKey
      else if !l.keyAllowed then throw .malformed
      else
        let opened := match l.indentTo l.cursor.column with
          | some deeper => deeper.emit .blockMap
          | none => l
        ({ opened with keyAllowed := true } : Lexer).dropKey
  return (l.moveTo l.cursor.skip).emit .value

def takeQuoted (l : Lexer) : Reading Lexer := do
  let l ← l.saveKey
  let (text, c) ← quotedScalar l.cursor
  return ({ l with keyAllowed := false }.moveTo c).emit (.scalar (String.ofList text) false)

def takePlain (l : Lexer) : Reading Lexer := do
  let l ← l.saveKey
  let scalar := plainScalar (l.flow != 0) (l.indent + 1) l.cursor (l.cursor.ahead.length + 1)
  return ({ l with keyAllowed := scalar.crossedLine }.moveTo scalar.cursor).emit
    (.scalar (String.ofList scalar.text) true)

def takeBlock (l : Lexer) : Reading Lexer := do
  let l ← ({ l with keyAllowed := true } : Lexer).dropKey
  let (text, c) ← orMalformed (blockScalar? l.indent l.cursor)
  return (l.moveTo c).emit (.scalar (String.ofList text) false)

def takeDirective (l : Lexer) : Reading Lexer := do
  let l ← (l.unwind (-1)).dropKey
  let (d, c) ← orMalformed (directive? l.cursor)
  return ({ l with keyAllowed := false }.moveTo c).emit (.directive d)

/-- An anchor, an alias or a tag. -/
def takeProperty {α : Type} (l : Lexer) (read : Cursor → Option (α × Cursor)) (token : α → Token) :
    Reading Lexer := do
  let l ← l.saveKey
  let (a, c) ← orMalformed (read l.cursor)
  return ({ l with keyAllowed := false }.moveTo c).emit (token a)

/-- The characters that begin something other than a plain scalar. -/
def isIndicator (c : Char) : Bool :=
  ['-', '?', ':', ',', '[', ']', '\x7b', '\x7d', '#', '&', '*', '!', '|', '>', Char.ofNat 0x27, '"',
    '%', '@', '\x60'].contains c

/-- A plain scalar can begin here. -/
def beginsPlain (l : Lexer) (x : Char) : Bool :=
  !(isGap (some x) || isIndicator x) ||
    (!isGap (l.cursor.peekAt 1) && (x == '-' || (l.flow == 0 && (x == '?' || x == ':'))))

/-- The next token that begins with `x`. -/
def takeToken (l : Lexer) (x : Char) : Reading Lexer :=
  let c := l.cursor
  if c.column == 0 && x == '%' then l.takeDirective
  else if c.column == 0 && c.atMarker '-' then l.documentMarker .documentStart
  else if c.column == 0 && c.atMarker '.' then l.documentMarker .documentEnd
  else if x == '[' then l.openFlow .openList
  else if x == '\x7b' then l.openFlow .openMap
  else if x == ']' then l.closeFlow .closeList
  else if x == '\x7d' then l.closeFlow .closeMap
  else if x == ',' then l.takeComma
  else if x == '-' && isGap (c.peekAt 1) then l.takeDash
  else if x == '?' && (l.flow != 0 || isGap (c.peekAt 1)) then l.takeQuestionMark
  else if x == ':' && (l.flow != 0 || isGap (c.peekAt 1)) then l.takeColon
  else if x == '*' then l.takeProperty anchorName? .alias
  else if x == '&' then l.takeProperty anchorName? .anchor
  else if x == '!' then l.takeProperty tagName? .tag
  else if (x == '|' || x == '>') && l.flow == 0 then l.takeBlock
  else if x == '"' || x == Char.ofNat 0x27 then l.takeQuoted
  else if l.beginsPlain x then l.takePlain
  else .error .malformed

/-- All tokens of the rest of the text. -/
def run (l : Lexer) : Nat → Reading (List Token)
  | 0 => .error .malformed
  | n + 1 => do
    let l := l.skipFiller (l.cursor.ahead.length + 1)
    let l ← l.dropStaleKeys
    let l := l.unwind l.cursor.column
    match l.cursor.peek with
    | none =>
      let l ← (l.unwind (-1)).dropKey
      return l.tokens
    | some x => (← l.takeToken x).run n

end Lexer

/-- The characters that a YAML text may hold. -/
def isAllowed (c : Char) : Bool :=
  let n := c.toNat
  n == 0x09 || n == 0x0A || n == 0x0D || (0x20 ≤ n && n ≤ 0x7E) || n == 0x85 ||
    (0xA0 ≤ n && n != 0xFFFE && n != 0xFFFF)

/-- The tokens of a text, if it has no fault at this level. -/
def tokens (text : List Char) : Reading (List Token) :=
  if text.all isAllowed then
    let body := match text with
      | '\ufeff' :: rest => rest
      | _ => text
    ({ cursor := { ahead := body } } : Lexer).run (text.length + 2)
  else .error .malformed

end PerlCalls.Yaml

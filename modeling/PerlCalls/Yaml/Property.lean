import PerlCalls.Text.Digit
import PerlCalls.Text.Utf8
import PerlCalls.Yaml.Block

/-! What stands before nodes and documents of YAML: anchors, aliases, tags and directives. -/
namespace PerlCalls.Yaml

open Text

/-- The characters of anchors, handles and directives. -/
def isNameChar (c : Char) : Bool := isAsciiAlnum c || c == '-' || c == '_'

/-- At the end of the text, or before a blank or the end of a line. -/
def isSpaceOrEnd (c : Cursor) : Bool := c.peek.all (fun x => x == ' ' || isBreak x)

/-- The name of an anchor or an alias; the cursor stands before its first character. -/
def anchorName? (c : Cursor) : Option (String × Cursor) :=
  let (name, c) := c.skip.takeWhile isNameChar
  let ends := ['?', ':', ',', ']', '\x7d', '%', '@', '\x60']
  if !name.isEmpty && (isGap c.peek || c.peek.any ends.contains) then
    some (String.ofList name, c)
  else none

/-! ### Tags -/

def isUriChar (c : Char) : Bool :=
  isAsciiAlnum c || "-;/?:@&=+$,_.!~*()[]%".toList.contains c || c == Char.ofNat 0x27

/-- A URI, with the bytes of its escapes; `pending` are those not yet put together. -/
def uriFrom (pending : List UInt8) : List Char → Option (List Char × List Char)
  | '%' :: a :: b :: rest =>
    if isHexDigit a && isHexDigit b then
      uriFrom (pending ++ [UInt8.ofNat (hexNumber [a, b])]) rest
    else none
  | c :: rest =>
    if c == '%' then none
    else if isUriChar c then do
      let start ← decode? pending
      let (more, beyond) ← uriFrom [] rest
      return (start ++ c :: more, beyond)
    else (decode? pending).map (·, c :: rest)
  | [] => (decode? pending).map (·, [])

/-- A URI that is not empty. -/
def uri? (c : Cursor) : Option (String × Cursor) := do
  let (text, beyond) ← uriFrom [] c.ahead
  let length := c.ahead.length - beyond.length
  if length == 0 then none else return (String.ofList text, c.forward length)

/-- The handle of a tag: an exclamation mark, or a name between two. -/
def tagHandle? (c : Cursor) : Option (String × Cursor) :=
  if c.peek != some '!' then none
  else if c.peekAt 1 == some ' ' then some ("!", c.skip)
  else
    let (name, c) := c.skip.takeWhile isNameChar
    if c.peek == some '!' then some ("!" ++ String.ofList name ++ "!", c.skip) else none

/-- A tag: a handle that stands for the beginning of its name, and the rest of it. -/
structure TagName where
  handle : Option String
  suffix : String
deriving DecidableEq

/-- Whether a handle with a name stands at the beginning of a tag. -/
def hasHandle (c : Cursor) : Bool :=
  (c.skip.ahead.takeWhile (fun x => x != ' ' && !isBreak x)).contains '!'

/-- A tag; the cursor stands at its exclamation mark. -/
def tagName? (c : Cursor) : Option (TagName × Cursor) := do
  let (tag, c) ← if c.peekAt 1 == some '<' then do
      let (suffix, c) ← uri? (c.forward 2)
      if c.peek == some '>' then pure ((⟨none, suffix⟩ : TagName), c.skip) else none
    else if isGap (c.peekAt 1) then pure (⟨none, "!"⟩, c.skip)
    else do
      let (handle, c) ← if hasHandle c then tagHandle? c else pure ("!", c.skip)
      let (suffix, c) ← uri? c
      pure (⟨some handle, suffix⟩, c)
  if isSpaceOrEnd c then pure (tag, c) else none

/-! ### Directives -/

inductive Directive where
  /-- The version of YAML, of which only the first number counts. -/
  | version (major : Nat)
  /-- What the handle of a tag stands for. -/
  | handle (handle expansion : String)
  | other
deriving DecidableEq

def directiveNumber? (c : Cursor) : Option (Nat × Cursor) :=
  let (digits, c) := c.takeWhile isAsciiDigit
  if digits.isEmpty then none else some (decimalValue digits, c)

def skipSpaces (c : Cursor) : Cursor := c.skipWhile (· == ' ')

def versionDirective? (c : Cursor) : Option (Directive × Cursor) := do
  let (major, c) ← directiveNumber? (skipSpaces c)
  if c.peek != some '.' then none
  else
    let (_, c) ← directiveNumber? c.skip
    if isSpaceOrEnd c then return (.version major, c) else none

def handleDirective? (c : Cursor) : Option (Directive × Cursor) := do
  let (handle, c) ← tagHandle? (skipSpaces c)
  if c.peek != some ' ' then none
  else
    let (expansion, c) ← uri? (skipSpaces c)
    if isSpaceOrEnd c then return (.handle handle expansion, c) else none

/-- A directive with its line; the cursor stands at its percent sign. -/
def directive? (c : Cursor) : Option (Directive × Cursor) := do
  let (name, c) := c.skip.takeWhile isNameChar
  if name.isEmpty || !isSpaceOrEnd c then none
  else
    let (directive, c) ← if name == "YAML".toList then versionDirective? c
      else if name == "TAG".toList then handleDirective? c
      else pure (.other, c.skipWhile (fun x => !isBreak x))
    return (directive, ← restOfLine? c)

end PerlCalls.Yaml

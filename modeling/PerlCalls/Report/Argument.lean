import PerlCalls.Text.Blank
import PerlCalls.Text.CharacterName
import PerlCalls.Text.Digit
import PerlCalls.Text.Word

/-! The arguments of a handler: constants.

A handler is a name, behind which arguments stand in parentheses. Arguments are numbers, texts, the
words `None`, `True` and `False`, three points, and tuples, sets and maps of constants. Only their
form matters here, and that keys of maps and elements of sets hold no set and no map. -/
namespace PerlCalls.Report

open Text

/-! ### Tokens -/

inductive ArgumentToken where
  | number (imaginary : Bool)
  | text (bytes : Bool)
  | word (name : List Char)
  | ellipsis
  | mark (c : Char)
deriving DecidableEq

/-- The length of a row of digits behind a digit, and what follows it. Single low lines may stand
between digits. -/
def runBehind (ok : Char → Bool) (n : Nat) : List Char → Nat × List Char
  | '_' :: c :: rest => if ok c then runBehind ok (n + 1) rest else (n, '_' :: c :: rest)
  | c :: rest => if ok c then runBehind ok (n + 1) rest else (n, c :: rest)
  | [] => (n, [])

def digitRun? (ok : Char → Bool) : List Char → Option (Nat × List Char)
  | c :: rest => if ok c then some (runBehind ok 1 rest) else none
  | [] => none

/-- Whether a name or a number could go on with this character. -/
def joinsName (c : Char) : Bool := isAsciiAlnum c || c == '_' || !isAscii c

/-- The end of a number: nothing may follow it directly that a name is made of. -/
def numberEnd? (imaginary : Bool) (rest : List Char) : Option (Bool × List Char) :=
  if (rest.head?.map joinsName).getD false then none else some (imaginary, rest)

/-- A number in base two, eight or sixteen, behind the letter of its base. -/
def basedNumber? (ok : Char → Bool) (rest : List Char) : Option (Bool × List Char) :=
  let digits := if rest.head? == some '_' then rest.drop 1 else rest
  (digitRun? ok digits).bind (fun run => numberEnd? false run.2)

/-- What may follow the digits of a number: an exponent, and the mark of an imaginary one. -/
def numberTail? (fraction : Bool) (leading : List Char) (rest : List Char) :
    Option (Bool × List Char) :=
  let exponent := match rest with
    | e :: s :: more =>
      if e == 'e' || e == 'E' then
        (digitRun? isAsciiDigit (if s == '+' || s == '-' then more else s :: more)).map Prod.snd
      else none
    | _ => none
  let beyond := exponent.getD rest
  match beyond with
  | 'j' :: more => numberEnd? true more
  | 'J' :: more => numberEnd? true more
  | _ =>
    -- A whole number begins with a zero only if it is zero, and has a limited number of digits.
    let digits := leading.filter isAsciiDigit
    if !fraction && exponent.isNone &&
      (digits.length > 4300 || (digits.head? == some '0' && digits.any (· != '0'))) then none
    else numberEnd? false beyond

/-- The number that the text begins with: whether it is imaginary, and what follows. -/
def numberAhead? (cs : List Char) : Option (Bool × List Char) :=
  match cs with
  | '0' :: 'x' :: rest => basedNumber? isHexDigit rest
  | '0' :: 'X' :: rest => basedNumber? isHexDigit rest
  | '0' :: 'o' :: rest => basedNumber? (fun c => '0' ≤ c && c ≤ '7') rest
  | '0' :: 'O' :: rest => basedNumber? (fun c => '0' ≤ c && c ≤ '7') rest
  | '0' :: 'b' :: rest => basedNumber? (fun c => c == '0' || c == '1') rest
  | '0' :: 'B' :: rest => basedNumber? (fun c => c == '0' || c == '1') rest
  | '.' :: rest => (digitRun? isAsciiDigit rest).bind (fun run => numberTail? true [] run.2)
  | _ =>
    (digitRun? isAsciiDigit cs).bind (fun run =>
      match run.2 with
      | '.' :: rest =>
        numberTail? true [] (((digitRun? isAsciiDigit rest).map Prod.snd).getD rest)
      | rest => numberTail? false (cs.take (cs.length - rest.length)) rest)

/-- How the characters of a text are to be read. -/
structure TextForm where
  quote : Char
  triple : Bool
  raw : Bool
  bytes : Bool

/-- Whether the text begins with the name of a character in curly brackets. -/
def namesCharacter : List Char → Bool
  | '\x7b' :: rest =>
    (rest.dropWhile (· != '\x7d')).head?.isSome &&
      (characterNamed? (rest.takeWhile (· != '\x7d'))).isSome
  | _ => false

/-- Whether an escape is complete; `rest` follows its letter. -/
def escapeOk (bytes : Bool) (c : Char) (rest : List Char) : Bool :=
  let hex := fun n => (rest.take n).length == n && (rest.take n).all isHexDigit
  if c == 'x' then hex 2
  else if bytes then isAscii c
  else if c == 'u' then hex 4
  else if c == 'U' then hex 8 && hexNumber (rest.take 8) ≤ 0x10FFFF
  else c != 'N' || namesCharacter rest

/-- What follows a text, of which the opening quote has been read. -/
def textEnd? (form : TextForm) : List Char → Option (List Char)
  | [] => none
  | ['\\'] => none
  | '\\' :: c :: rest =>
    if form.raw || escapeOk form.bytes c rest then textEnd? form rest else none
  | c :: rest =>
    if c == form.quote then
      if !form.triple then some rest
      else match rest with
        | d :: e :: beyond =>
          if d == form.quote && e == form.quote then some beyond else textEnd? form (d :: e :: beyond)
        | _ => none
    else if (c == '\n' && !form.triple) || (form.bytes && !isAscii c) then none
    else textEnd? form rest

/-- The text that begins with a quote, behind the letters that say how to read it. -/
def textAhead? (letters : List Char) (cs : List Char) : Option (Bool × List Char) :=
  let known := ["", "r", "u", "b", "br", "rb"].map String.toList
  let letters := letters.map Char.toLower
  match cs with
  | q :: rest =>
    if known.contains letters && (q == '"' || q == Char.ofNat 0x27) then
      let form : TextForm :=
        { quote := q, triple := [q, q].isPrefixOf rest, raw := letters.contains 'r',
          bytes := letters.contains 'b' }
      (textEnd? form (if form.triple then rest.drop 2 else rest)).map (fun rest => (form.bytes, rest))
    else none
  | [] => none

/-- The token that the text begins with, and what follows. -/
def tokenAhead? (cs : List Char) : Option (ArgumentToken × List Char) :=
  match cs with
  | [] => none
  | c :: rest =>
    if isAsciiDigit c || (c == '.' && (rest.head?.map isAsciiDigit).getD false) then
      (numberAhead? cs).map (fun r => (.number r.1, r.2))
    else if ['.', '.', '.'].isPrefixOf cs then some (.ellipsis, cs.drop 3)
    else if "(){},:+-".toList.contains c then some (.mark c, rest)
    else
      let name := cs.takeWhile isWord
      let beyond := cs.dropWhile isWord
      match textAhead? name beyond with
      | some r => some (.text r.1, r.2)
      | none => if name.isEmpty then none else some (.word name, beyond)

/-- Blanks and notes up to the end. -/
def onlyNotes (cs : List Char) : Bool := go true cs
where
  go (blank : Bool) : List Char → Bool
    | [] => true
    | c :: rest =>
      if c == '\n' then go true rest
      else if !blank || c == ' ' || c == '\t' || c.toNat == 0x0C then go blank rest
      else c == '#' && go false rest

/-- The tokens of a text at a depth of brackets; a line ends the outermost expression. -/
def argumentTokens? (depth : Nat) (cs : List Char) : Option (List ArgumentToken) :=
  match cs with
  | [] => some []
  | c :: rest =>
    if c == ' ' || c == '\t' || c.toNat == 0x0C then argumentTokens? depth rest
    else if c == '\n' then
      if depth == 0 then (if onlyNotes rest then some [] else none) else argumentTokens? depth rest
    else if c == '#' then argumentTokens? depth (rest.dropWhile (· != '\n'))
    else if c == '\\' && rest.head? == some '\n' then argumentTokens? depth (rest.drop 1)
    else
      match tokenAhead? (c :: rest) with
      | some (token, beyond) =>
        if beyond.length ≤ rest.length then
          let depth := match token with
            | .mark '(' => depth + 1
            | .mark '\x7b' => depth + 1
            | .mark ')' => depth - 1
            | .mark '\x7d' => depth - 1
            | _ => depth
          (argumentTokens? depth beyond).map (token :: ·)
        else none
      | none => none
termination_by cs.length
decreasing_by
  · exact Nat.lt_succ_self _
  · exact Nat.lt_succ_self _
  · exact Nat.lt_succ_of_le (List.dropWhile_sublist (· != '\n')).length_le
  · exact Nat.lt_succ_of_le (by rw [List.length_drop]; exact Nat.sub_le _ _)
  · rename_i h
    exact Nat.lt_succ_of_le h

/-! ### Constants -/

/-- How a number has been put together. -/
inductive NumberForm where
  | plain
  | signed
  | sum
deriving DecidableEq

inductive Constant where
  | number (form : NumberForm) (imaginary : Bool)
  /-- A text, to which another may be added right behind it. -/
  | text (bytes : Bool) (extendable : Bool)
  | word
  | tuple (fixed : Bool)
  | collection
deriving DecidableEq

/-- Whether a constant may be the key of a map: it holds nothing that could change. -/
def Constant.isFixed : Constant → Bool
  | .tuple fixed => fixed
  | .collection => false
  | _ => true

/-- The item that is being read. -/
inductive Pending where
  | nothing
  | sign
  | value (c : Constant)
  /-- A sum of which the right side is still missing. -/
  | sum
  /-- The word `set`, which has to be called with no arguments. -/
  | call
deriving DecidableEq

inductive Bracket where
  | outermost
  | round
  | curly
  | callRound
deriving DecidableEq

/-- An open bracket with the items that are complete. -/
structure Level where
  bracket : Bracket := .outermost
  items : List Constant := []
  /-- The key of the pair that is being read. -/
  key : Option Constant := none
  /-- Whether the items are pairs, as far as it is known. -/
  pairs : Option Bool := none
  pending : Pending := .nothing

/-- Put a complete constant where an operand may stand. -/
def Level.operand (l : Level) (c : Constant) : Option Level :=
  match l.pending, c with
  | .nothing, c => some { l with pending := .value c }
  | .sign, .number .plain imaginary => some { l with pending := .value (.number .signed imaginary) }
  | .sum, .number .plain true => some { l with pending := .value (.number .sum true) }
  | .value (.text bytes true), .text more true =>
    if bytes == more then some l else none
  | _, _ => none

/-- The complete items, once a comma or a closing bracket ends the last one. -/
def Level.endItem (l : Level) : Option Level :=
  match l.pending with
  | .value c =>
    if l.bracket == .curly then
      match l.key with
      | some _ => some { l with items := l.items ++ [c], key := none, pending := .nothing }
      | none =>
        if l.pairs != some true && c.isFixed then
          some { l with items := l.items ++ [c], pairs := some false, pending := .nothing }
        else none
    else some { l with items := l.items ++ [c], pending := .nothing }
  | _ => none

/-- A comma ends an item. In round brackets it makes a tuple. -/
def Level.comma (l : Level) : Option Level :=
  l.endItem.map (fun l => if l.bracket == .curly then l else { l with pairs := some false })

/-- A colon ends a key. -/
def Level.colon (l : Level) : Option Level :=
  match l.pending, l.key with
  | .value c, none =>
    if l.bracket == .curly && l.pairs != some false && c.isFixed then
      some { l with key := some c, pairs := some true, pending := .nothing }
    else none
  | _, _ => none

/-- The items at the end of a level; there may be a comma behind the last. -/
def Level.close (l : Level) : Option Level :=
  if l.pending == .nothing && l.key.isNone then some l else l.endItem

/-- What round brackets, or the whole text, stand for: a tuple if there is a comma or nothing. -/
def Level.round (l : Level) : Option Constant :=
  match l.close, l.pairs with
  | some closed, none =>
    match closed.items with
    | [] => some (.tuple true)
    | [.text bytes _] => some (.text bytes false)
    | items => items.head?
  | some closed, some _ => some (.tuple (closed.items.all Constant.isFixed))
  | none, _ => none

/-- The word `set` alone, which may still be called behind the bracket that closes. -/
def Level.isCallable (l : Level) : Bool :=
  l.pending == .call && l.items.isEmpty && l.key.isNone && l.pairs.isNone

/-- Close round brackets inside another level. -/
def Level.closeRound (l next : Level) : Option Level :=
  if l.isCallable then (if next.pending == .nothing then some { next with pending := .call } else none)
  else l.round.bind next.operand

/-- Read a token on open brackets, the innermost first. -/
def readToken (levels : List Level) (token : ArgumentToken) : Option (List Level) :=
  match levels with
  | [] => none
  | l :: outer =>
    let put := fun c => (l.operand c).map (· :: outer)
    match token with
    | .number imaginary => put (.number .plain imaginary)
    | .text bytes => put (.text bytes true)
    | .ellipsis => put .word
    | .word name =>
      if ["None", "True", "False"].contains (String.ofList name) then put .word
      else if name == "set".toList && l.pending == .nothing then
        some ({ l with pending := .call } :: outer)
      else none
    | .mark '+' => sign l outer
    | .mark '-' => sign l outer
    | .mark '(' =>
      if l.pending == .call then
        some ({ bracket := .callRound } :: { l with pending := .nothing } :: outer)
      else nest .round
    | .mark '\x7b' => nest .curly
    | .mark ')' =>
      match l.bracket, outer with
      | .round, next :: rest => (l.closeRound next).map (· :: rest)
      | .callRound, next :: rest =>
        if l.pending == .nothing && l.items.isEmpty && l.pairs.isNone then
          (next.operand .collection).map (· :: rest) else none
      | _, _ => none
    | .mark '\x7d' =>
      match l.bracket, outer with
      | .curly, next :: rest => l.close.bind (fun _ => (next.operand .collection).map (· :: rest))
      | _, _ => none
    | .mark ',' => l.comma.map (· :: outer)
    | .mark ':' => l.colon.map (· :: outer)
    | .mark _ => none
where
  nest (b : Bracket) : Option (List Level) :=
    if 200 < levels.length then none else some ({ bracket := b } :: levels)
  sign (l : Level) (outer : List Level) : Option (List Level) :=
    match l.pending with
    | .nothing => some ({ l with pending := .sign } :: outer)
    | .value (.number form imaginary) =>
      if form == .sum || imaginary then none else some ({ l with pending := .sum } :: outer)
    | _ => none

/-- Whether a text is a constant. A line ends at a carriage return as well. -/
def isConstant (cs : List Char) : Bool :=
  if cs.any (fun c => c.toNat == 0) then false
  else
    let tokens := argumentTokens? 0 (cs.map (fun c => if c == '\r' then '\n' else c))
    let whole := tokens.bind (fun tokens => tokens.foldlM readToken [{}])
    match whole with
    | some [l] => !(l.pending == .nothing && l.items.isEmpty) && l.round.isSome
    | _ => false

/-- The arguments of a handler: what stands in parentheses behind its name, nothing if there is only
a name, and otherwise the whole text. -/
def handlerArguments (cs : List Char) : List Char :=
  match cs.dropWhile (fun c => isWord c || c == '.') with
  | [] => ['(', ')']
  | '(' :: rest =>
    if rest.getLast? == some ')' && !rest.contains '\n' then '(' :: rest else cs
  | _ => cs

/-- Whether a handler can be read. -/
def isHandler (cs : List Char) : Bool := isConstant (handlerArguments (trim cs))

end PerlCalls.Report

import PerlCalls.Pattern.Fault
import PerlCalls.Pattern.Node
import PerlCalls.Text.CharacterName
import PerlCalls.Text.Digit
import PerlCalls.Text.Identifier
import PerlCalls.Text.Whole

/-! Reading search patterns.

A pattern is first cut into tokens: single characters, and backslashes with the character after
them. A backslash without one is a fault as soon as the reader comes to stand before it. The reader
is a recursive descent over alternations, sequences and items; every call is given a depth that
the number of tokens bounds. -/
namespace PerlCalls.Pattern

open Text

/-- One or two characters of the pattern, and where they stand. -/
structure Token where
  text : List Char
  position : Nat

/-- The tokens from a position on; a backslash at the very end is a token of its own. -/
def tokens (position : Nat) : List Char → List Token
  | [] => []
  | '\\' :: c :: rest => ⟨['\\', c], position⟩ :: tokens (position + 2) rest
  | c :: rest => ⟨[c], position⟩ :: tokens (position + 1) rest

structure Cursor where
  rest : List Token
  /-- The length of the pattern. -/
  length : Nat
  flags : Flags := {}
  /-- The widths of the groups from the first on; none for a group still open. -/
  groups : List (Option Width) := []
  names : List (String × Nat) := []
  /-- Inside a look-behind: the number of groups before it, and one more. -/
  behind : Option Nat := none
  /-- Groups that a condition asks for, with the place of the first condition. -/
  conditions : List (Nat × Nat) := []

abbrev Parse (α : Type) := StateT Cursor (Except Fault) α

/-- The deepest repetition count, exclusive. -/
def maxRepeat : Nat := 4294967295

/-- The greatest number of a group, exclusive. -/
def maxGroups : Nat := 1073741823

def Token.is (t : Token) (c : Char) : Bool := t.text == [c]

def Token.char? (t : Token) : Option Char :=
  match t.text with
  | [c] => some c
  | _ => none

/-- The character after the backslash. -/
def Token.escaped? (t : Token) : Option Char :=
  match t.text with
  | ['\\', c] => some c
  | _ => none

def Token.string (t : Token) : String := String.ofList t.text

namespace Parse

def peek : Parse (Option Token) := do return (← get).rest.head?

/-- Where the next token stands. -/
def here : Parse Nat := do
  let s ← get
  return match s.rest with
    | t :: _ => t.position
    | [] => s.length

def fail {α : Type} (kind : FaultKind) (position : Nat) : Parse α :=
  throw ⟨kind, some position⟩

/-- The fault of standing before a backslash that ends the pattern. -/
def guardEnd : Parse Unit := do
  let s ← get
  match s.rest with
  | [t] => if t.is '\\' then fail .escapeAtEnd (s.length - 1) else pure ()
  | _ => pure ()

def next : Parse (Option Token) := do
  let s ← get
  match s.rest with
  | [] => return none
  | t :: rest =>
    set { s with rest := rest }
    guardEnd
    return some t

/-- Take the next token if it is the character. -/
def accept (c : Char) : Parse Bool := do
  match (← peek).filter (·.is c) with
  | some _ =>
    let _ ← next
    return true
  | none => return false

/-- At most `n` characters of a class. -/
def takeChars (p : Char → Bool) : Nat → Parse (List Char)
  | 0 => return []
  | n + 1 => do
    match ((← peek).bind Token.char?).filter p with
    | some c =>
      let _ ← next
      return c :: (← takeChars p n)
    | none => return []

/-- As many characters of a class as there are. -/
def takeAll (p : Char → Bool) : Parse (List Char) := do
  takeChars p (← get).rest.length

/-- The text up to a terminator, which has to come. -/
def takeName (terminator : Char) (what : String) (taken : List Char) :
    Nat → Parse (List Char)
  | 0 => throw ⟨.endOfPattern, none⟩
  | n + 1 => do
    match ← next with
    | none =>
      if taken.isEmpty then fail (.missing what) (← here)
      else fail (.unterminatedName terminator) ((← here) - taken.length)
    | some t =>
      if t.is terminator then
        if taken.isEmpty then fail (.missing what) ((← here) - 1) else return taken
      else takeName terminator what (taken ++ t.text) n

def takeUntil (terminator : Char) (what : String) : Parse String := do
  return String.ofList (← takeName terminator what [] ((← get).rest.length + 1))

end Parse

open Parse

def isOctalDigit (c : Char) : Bool := '0' ≤ c && c ≤ '7'

def octalNumber (cs : List Char) : Nat := cs.foldl (fun n c => 8 * n + digitValue c) 0

/-- The characters with an escape of their own. -/
def controlEscape? : Char → Option Nat
  | 'a' => some 7
  | 'b' => some 8
  | 'f' => some 12
  | 'n' => some 10
  | 'r' => some 13
  | 't' => some 9
  | 'v' => some 11
  | '\\' => some 92
  | _ => none

def categoryEscape? : Char → Option SetItem
  | 'd' => some (.category .digit false)
  | 'D' => some (.category .digit true)
  | 's' => some (.category .space false)
  | 'S' => some (.category .space true)
  | 'w' => some (.category .word false)
  | 'W' => some (.category .word true)
  | _ => none

def anchorEscape? : Char → Option Anchor
  | 'A' => some .textStart
  | 'b' => some .boundary
  | 'B' => some .nonBoundary
  | 'Z' => some .textEnd
  | _ => none

/-- The fault of an escape that ends here and is `length` characters long. -/
def failEscape {α : Type} (kind : FaultKind) (length : Nat) : Parse α := do
  fail kind ((← here) - length)

/-- Exactly `n` digits in base sixteen after the escape letter. -/
def hexEscape (letter : Char) (n : Nat) : Parse (List Char) := do
  let digits ← takeChars isHexDigit n
  let text := '\\' :: letter :: digits
  if digits.length == n then return digits
  else failEscape (.incompleteEscape (String.ofList text)) text.length

/-- Escapes that mean the same inside and outside of sets: by number, by name, or punctuation. -/
def commonEscape (c : Char) : Parse Nat := do
  if c == 'x' then return hexNumber (← hexEscape c 2)
  else if c == 'u' then return hexNumber (← hexEscape c 4)
  else if c == 'U' then
    let digits ← hexEscape c 8
    if hexNumber digits < 0x110000 then return hexNumber digits
    else if 0x80000000 ≤ hexNumber digits then throw ⟨.characterTooLarge, none⟩
    else failEscape (.badEscape (String.ofList ('\\' :: c :: digits))) 10
  else if c == 'N' then
    if ← accept '\x7b' then
      let name ← takeUntil '\x7d' "character name"
      match characterNamed? name.toList with
      | some n => return n
      | none => failEscape (.undefinedCharacterName name) (name.length + 4)
    else fail (.missing "\x7b") (← here)
  else if isAsciiLetter c || isAsciiDigit c then
    failEscape (.badEscape (String.ofList ['\\', c])) 2
  else return c.toNat

/-- An escape inside a set. -/
def setEscape (c : Char) : Parse SetItem := do
  match controlEscape? c, categoryEscape? c with
  | some n, _ => return .char n
  | none, some item => return item
  | none, none =>
    if isOctalDigit c then
      let digits := c :: (← takeChars isOctalDigit 2)
      let n := octalNumber digits
      if n ≤ 255 then return .char n
      else failEscape (.octalTooLarge (String.ofList ('\\' :: digits))) (digits.length + 1)
    else return .char (← commonEscape c)

/-- A group may be referred to once it is closed, and not from the look-behind that holds it. -/
def checkBehind (group : Nat) : Parse Unit := do
  let s ← get
  match s.behind with
  | none => pure ()
  | some limit =>
    match s.groups[group - 1]? with
    | some (some _) =>
      if limit ≤ group then fail .lookbehindGroupReference (← here) else pure ()
    | _ => fail .openGroupReference (← here)

/-- A reference to a group by number, written in `length` characters. -/
def groupReference (group length : Nat) : Parse Node := do
  match (← get).groups[group - 1]? with
  | none => failEscape (.invalidGroupReference group) (length - 1)
  | some none => failEscape .openGroupReference length
  | some (some _) =>
    checkBehind group
    return .reference group

/-- An escape outside of sets. -/
def escape (c : Char) : Parse Node := do
  match anchorEscape? c, categoryEscape? c, controlEscape? c with
  | some a, _, _ => return .anchor a
  | none, some item, _ => return .set false [item]
  | none, none, some n => return .char n
  | none, none, none =>
    if c == '0' then
      return .char (octalNumber (c :: (← takeChars isOctalDigit 2)))
    else if isAsciiDigit c then
      match ← takeChars isAsciiDigit 1 with
      | [] => groupReference (digitValue c) 2
      | second =>
        let two := c :: second
        let third ← if two.all isOctalDigit then takeChars isOctalDigit 1 else pure []
        if third.isEmpty then groupReference (decimalValue two) 3
        else
          let digits := two ++ third
          let n := octalNumber digits
          if n ≤ 255 then return .char n
          else failEscape (.octalTooLarge (String.ofList ('\\' :: digits))) 4
    else return .char (← commonEscape c)

/-- One end of a range, or a member. -/
def setMember (t : Token) : Parse SetItem :=
  match t.escaped?, t.char? with
  | some c, _ => setEscape c
  | none, some c => return .char c.toNat
  | none, none => return .char 0

/-- The members of a set whose bracket stands at `start`. -/
def setItems (start : Nat) (items : List SetItem) : Nat → Parse (List SetItem)
  | 0 => fail .unterminatedSet start
  | depth + 1 => do
    match ← next with
    | none => fail .unterminatedSet start
    | some this =>
      if this.is ']' && !items.isEmpty then return items
      else
        let first ← setMember this
        if ← accept '-' then
          match ← next with
          | none => fail .unterminatedSet start
          | some that =>
            if that.is ']' then return items ++ [first, .char '-'.toNat]
            else
              let last ← setMember that
              let bad : Parse (List SetItem) :=
                failEscape (.badRange this.string that.string) (this.text.length + 1 + that.text.length)
              match first, last with
              | .char lo, .char hi =>
                if hi < lo then bad else setItems start (items ++ [.range lo hi]) depth
              | _, _ => bad
        else setItems start (items ++ [first]) depth

def characterSet (start : Nat) : Parse Node := do
  let negated ← accept '^'
  return .set negated (← setItems start [] ((← get).rest.length + 1)).eraseDups

/-- A bound of a repetition. -/
def repeatBound (digits : List Char) : Parse Nat :=
  if digitLimit < digits.length then throw ⟨.number (.tooLong digits.length), none⟩
  else if maxRepeat ≤ decimalValue digits then throw ⟨.repeatTooLarge, none⟩
  else return decimalValue digits

/-- The bounds of a repetition in braces; none if the brace is a plain character. -/
def braceBounds : Parse (Option (Nat × Option Nat)) := do
  let saved ← get
  let start ← here
  if (saved.rest.head?.map (·.is '\x7d')).getD false then return none
  else
    let lo ← takeAll isAsciiDigit
    let hi ← if ← accept ',' then takeAll isAsciiDigit else pure lo
    if ← accept '\x7d' then
      let least ← repeatBound lo
      if hi.isEmpty then return some (least, none)
      else
        let most ← repeatBound hi
        if most < least then fail .minAboveMax start else return some (least, some most)
    else
      set saved
      return none

/-- The letters of flags; the second component is set for those that choose a character type. -/
def flagOf? : Char → Option (Flags × Bool)
  | 'i' => some ({ ignoreCase := true }, false)
  | 'm' => some ({ multiline := true }, false)
  | 's' => some ({ dotAll := true }, false)
  | 'x' => some ({ verbose := true }, false)
  | 'a' => some ({ ascii := true }, true)
  | 'u' => some ({ unicode := true }, true)
  | 'L' => some ({}, true)
  | 't' => some ({ template := true }, false)
  | _ => none

/-- The fault of a character that is no flag where one is due. -/
def failFlag {α : Type} (t : Token) (wanted : String) : Parse α := do
  failEscape (if t.char?.any isLetter then .unknownFlag else .missing wanted) t.text.length

/-- Flags that are turned off, up to the colon. -/
def flagsOff (off : Flags) (t : Token) : Nat → Parse Flags
  | 0 => throw ⟨.endOfPattern, none⟩
  | depth + 1 => do
    match t.char?.bind flagOf? with
    | none => failFlag t "flag"
    | some (flag, isType) =>
      if isType then fail .turnedOffTypeFlags (← here)
      else
        let off := off.union flag
        match ← next with
        | none => fail (.missing ":") (← here)
        | some t =>
          if t.is ':' then return off
          else if (t.char?.bind flagOf?).isNone then failFlag t ":"
          else flagsOff off t depth

/-- Flags that are turned on, with the token that ends them. -/
def flagsOn (before : Flags) (c : Char) : Nat → Parse (Flags × Token)
  | 0 => throw ⟨.endOfPattern, none⟩
  | depth + 1 => do
    match flagOf? c with
    | none => throw ⟨.endOfPattern, none⟩
    | some (flag, isType) =>
      let on := before.union flag
      if c == 'L' then fail .localeFlag (← here)
      else if isType && on.ascii && on.unicode then fail .clashingTypeFlags (← here)
      else
        match ← next with
        | none => fail (.missing "-, : or )") (← here)
        | some t =>
          if t.is ')' || t.is '-' || t.is ':' then return (on, t)
          else match t.char? with
            | some c =>
              if (flagOf? c).isSome then flagsOn on c depth
              else failFlag t "-, : or )"
            | none => failFlag t "-, : or )"

/-- Flags in a group: for the whole pattern, or turned on and off for the group. -/
def groupFlags (first : Token) : Parse (Option (Flags × Flags)) := do
  let depth := (← get).rest.length + 1
  let (on, closing) ← match first.char? with
    | some '-' => pure (({} : Flags), first)
    | some c => flagsOn {} c depth
    | none => throw ⟨.endOfPattern, none⟩
  if closing.is ')' then
    modify (fun s => { s with flags := s.flags.union on })
    return none
  else if on.template then fail .globalFlagOn ((← here) - 1)
  else if closing.is '-' then
    match ← next with
    | none => fail (.missing "flag") (← here)
    | some t =>
      let off ← flagsOff {} t depth
      if off.template then fail .globalFlagOff ((← here) - 1)
      else if on.overlaps off then fail .flagOnAndOff ((← here) - 1)
      else return some (on, off)
  else return some (on, {})

/-- Open a group and give it the next number. -/
def openGroup (name : Option String) : Parse Nat := do
  let s ← get
  let number := s.groups.length + 1
  match name with
  | none => set { s with groups := s.groups ++ [none] }
  | some name =>
    match s.names.lookup name with
    | some earlier =>
      failEscape (.redefinedGroup name number earlier) (name.length + 1)
    | none => set { s with groups := s.groups ++ [none], names := s.names ++ [(name, number)] }
  return number

/-- The width of a group by number. -/
def Cursor.widthOf (s : Cursor) (group : Nat) : Width :=
  match s.groups[group - 1]? with
  | some (some w) => w
  | _ => ⟨0, 0⟩

def closeGroup (number : Nat) (body : Node) : Parse Unit :=
  modify (fun s => { s with groups := s.groups.set (number - 1) (some (body.width s.widthOf)) })

/-- The items of a sequence, as one node. -/
def sequence : List Node → Node
  | [] => .empty
  | [node] => node
  | node :: rest => .seq node (sequence rest)

def alternation : List Node → Node
  | [] => .empty
  | [node] => node
  | node :: rest => .alt node (alternation rest)

/-- The white space that a verbose pattern may hold. -/
def isFiller (c : Char) : Bool := [' ', '\t', '\n', '\r', '\x0b', '\x0c'].contains c

/-- Skip to the end of the line. -/
def skipLine : Nat → Parse Unit
  | 0 => pure ()
  | depth + 1 => do
    match ← next with
    | none => pure ()
    | some t => if t.is '\n' then pure () else skipLine depth

/-- Skip a comment in a group that starts at `start`. -/
def skipComment (start : Nat) : Nat → Parse Unit
  | 0 => fail .unterminatedComment start
  | depth + 1 => do
    match ← next with
    | none => fail .unterminatedComment start
    | some t => if t.is ')' then pure () else skipComment start depth

/-- The mark behind a repetition sign, if there is one. -/
def greedMark : Parse Greed := do
  if ← accept '?' then return .lazy
  if ← accept '+' then return .possessive
  return .greedy

/-- Repeat the last item; the repetition sign stands at `start`. -/
def repeatLast (items : List Node) (start least : Nat) (most : Option Nat) : Parse (List Node) := do
  match items.getLast? with
  | none => fail .nothingToRepeat start
  | some (.anchor _) => fail .nothingToRepeat start
  | some (.loop ..) => fail .multipleRepeat start
  | some item =>
    return items.dropLast ++ [.loop least most (← greedMark) item]

/-- The closing parenthesis of a group that starts at `start`. -/
def expectClose (start : Nat) : Parse Unit := do
  if ← accept ')' then pure () else fail .unterminatedGroup start

/-- A reference to a group by name. -/
def namedReference : Parse Node := do
  let name ← takeUntil ')' "group name"
  let length := name.length + 1
  if !isIdentifier name.toList then failEscape (.badGroupName name) length
  else
    let s ← get
    match s.names.lookup name with
    | none => failEscape (.unknownGroupName name) length
    | some group =>
      match s.groups[group - 1]? with
      | some (some _) =>
        checkBehind group
        return .reference group
      | _ => failEscape .openGroupReference length

/-- The group that a condition asks for. -/
def conditionGroup : Parse Nat := do
  let name ← takeUntil ')' "group name"
  let length := name.length + 1
  let s ← get
  let group ← if isIdentifier name.toList then
      match s.names.lookup name with
      | none => failEscape (.unknownGroupName name) length
      | some group => pure group
    else match wholeOfText 10 name.toList with
      | .ok (.ofNat group) =>
        if group == 0 then failEscape .badGroupNumber length
        else if maxGroups ≤ group then failEscape (.invalidGroupReference group) length
        else do
          let place := (← here) - length
          if (s.conditions.lookup group).isNone then
            set { s with conditions := s.conditions ++ [(group, place)] }
          pure group
      | _ => failEscape (.badGroupName name) length
  checkBehind group
  return group

/-- What the opening of a group says about it. -/
inductive GroupKind where
  | capture (name : Option String)
  | plain
  | atomic
  | flagged (on off : Flags)
  | ahead (negated : Bool)
  | behind (negated : Bool)
  | condition (group : Nat)
  | comment
  /-- Flags for the whole pattern. -/
  | globalFlags
  | item (node : Node)

/-- Read the opening of a group after its parenthesis, which stands at `start`. -/
def groupKind (start : Nat) : Parse GroupKind := do
  if !(← accept '?') then return .capture none
  else
    match ← next with
    | none => fail .endOfPattern (← here)
    | some t =>
      match t.char? with
      | some 'P' =>
        if ← accept '<' then
          let name ← takeUntil '>' "group name"
          if isIdentifier name.toList then return .capture (some name)
          else failEscape (.badGroupName name) (name.length + 1)
        else if ← accept '=' then return .item (← namedReference)
        else match ← next with
          | none => fail .endOfPattern (← here)
          | some t => failEscape (.unknownExtension ("?P" ++ t.string)) (t.text.length + 2)
      | some ':' => return .plain
      | some '#' =>
        skipComment start ((← get).rest.length + 1)
        return .comment
      | some '=' => return .ahead false
      | some '!' => return .ahead true
      | some '<' =>
        match ← next with
        | none => fail .endOfPattern (← here)
        | some t =>
          if t.is '=' then return .behind false
          else if t.is '!' then return .behind true
          else failEscape (.unknownExtension ("?<" ++ t.string)) (t.text.length + 2)
      | some '(' => return .condition (← conditionGroup)
      | some '>' => return .atomic
      | _ =>
        if t.is '-' || (t.char?.bind flagOf?).isSome then
          match ← groupFlags t with
          | none => return .globalFlags
          | some (on, off) => return .flagged on off
        else failEscape (.unknownExtension ("?" ++ t.string)) (t.text.length + 1)

mutual

/-- Branches with bars between them. The flag `top` marks the pattern itself. -/
def branches (verbose top isFirst : Bool) (done : List Node) : Nat → Parse Node
  | 0 => throw ⟨.endOfPattern, none⟩
  | depth + 1 => do
    let branch ← items verbose (top && isFirst) [] depth
    if ← accept '|' then
      let s ← get
      branches (if top then s.flags.verbose else verbose) top false (done ++ [branch]) depth
    else return alternation (done ++ [branch])

/-- The items of a sequence up to its end. -/
def items (verbose atStart : Bool) (done : List Node) : Nat → Parse Node
  | 0 => throw ⟨.endOfPattern, none⟩
  | depth + 1 => do
    match ← peek with
    | none => return sequence done
    | some t =>
      if t.is '|' || t.is ')' then return sequence done
      else
        let _ ← next
        match t.escaped?, t.char? with
        | some c, _ => items verbose atStart (done ++ [← escape c]) depth
        | none, none => items verbose atStart done depth
        | none, some c =>
          if verbose && isFiller c then items verbose atStart done depth
          else if verbose && c == '#' then
            skipLine ((← get).rest.length + 1)
            items verbose atStart done depth
          else if c == '.' then items verbose atStart (done ++ [.any]) depth
          else if c == '^' then items verbose atStart (done ++ [.anchor .lineStart]) depth
          else if c == '$' then items verbose atStart (done ++ [.anchor .lineEnd]) depth
          else if c == '[' then
            items verbose atStart (done ++ [← characterSet t.position]) depth
          else if c == '?' then
            items verbose atStart (← repeatLast done t.position 0 (some 1)) depth
          else if c == '*' then items verbose atStart (← repeatLast done t.position 0 none) depth
          else if c == '+' then items verbose atStart (← repeatLast done t.position 1 none) depth
          else if c == '\x7b' then
            match ← braceBounds with
            | none => items verbose atStart (done ++ [.char c.toNat]) depth
            | some (least, most) =>
              items verbose atStart (← repeatLast done t.position least most) depth
          else if c == '(' then
            match ← groupKind t.position with
            | .comment => items verbose atStart done depth
            | .globalFlags =>
              let s ← get
              if atStart && done.isEmpty then items s.flags.verbose atStart done depth
              else fail .lateGlobalFlags t.position
            | .item node => items verbose atStart (done ++ [node]) depth
            | .capture name =>
              let number ← openGroup name
              let body ← branches verbose false true [] depth
              expectClose t.position
              closeGroup number body
              items verbose atStart (done ++ [.group (some number) body]) depth
            | .plain =>
              let body ← branches verbose false true [] depth
              expectClose t.position
              items verbose atStart (done ++ [.group none body]) depth
            | .atomic =>
              let body ← branches verbose false true [] depth
              expectClose t.position
              items verbose atStart (done ++ [.atomic body]) depth
            | .flagged on off =>
              let inner := (verbose || on.verbose) && !off.verbose
              let body ← branches inner false true [] depth
              expectClose t.position
              items verbose atStart (done ++ [.flagged on off body]) depth
            | .ahead negated =>
              let body ← branches verbose false true [] depth
              expectClose t.position
              items verbose atStart (done ++ [.lookahead negated body]) depth
            | .behind negated =>
              let before ← get
              let outer := before.behind
              modify (fun s => { s with behind := some (outer.getD (s.groups.length + 1)) })
              let body ← branches verbose false true [] depth
              modify (fun s => { s with behind := outer })
              expectClose t.position
              let s ← get
              let width := body.width s.widthOf
              items verbose atStart (done ++ [.lookbehind negated width body]) depth
            | .condition group =>
              let yes ← items verbose false [] depth
              let no ← if ← accept '|' then
                  let no ← items verbose false [] depth
                  if ((← peek).map (·.is '|')).getD false then fail .tooManyBranches (← here)
                  else pure no
                else pure .empty
              expectClose t.position
              items verbose atStart (done ++ [.conditional group yes no]) depth
          else items verbose atStart (done ++ [.char c.toNat]) depth

end

/-- What keeps a tree from being searched for, from the outside in: a look-behind that does not take
a fixed number of characters, or a repetition where there may be none. -/
def Node.fault? (template : Bool) : Node → Option FaultKind
  | .lookbehind _ width body =>
    if maxRepeat < width.least then some .farLookbehind
    else if width.least != width.most then some .variableLookbehind
    else body.fault? template
  | .seq a b | .alt a b | .conditional _ a b =>
    match a.fault? template with
    | some kind => some kind
    | none => b.fault? template
  | .loop _ _ greed body => if template then some (.templateRepeat greed) else body.fault? template
  | .group _ body | .flagged _ _ body | .atomic body | .lookahead _ body => body.fault? template
  | _ => none

/-- A whole pattern: its tree and the flags set for all of it. -/
def whole (depth : Nat) : Parse (Node × Flags) := do
  guardEnd
  let node ← branches false true true [] depth
  let s ← get
  if s.flags.ascii && s.flags.unicode then throw ⟨.clashingTypes, none⟩
  else if !s.rest.isEmpty then fail .unbalancedParenthesis (← here)
  else
    match s.conditions.find? (fun c => s.groups.length < c.1) with
    | some (group, place) => fail (.invalidGroupReference group) place
    | none =>
      match node.fault? s.flags.template with
      | some kind => throw ⟨kind, none⟩
      | none => return (node, s.flags)

end PerlCalls.Pattern

namespace PerlCalls

/-- A search pattern that has been read. -/
structure Pattern where
  node : Pattern.Node
  flags : Pattern.Flags

/-- Read a pattern. Every step takes a token, goes into a group or ends one, so thrice the number of
tokens bounds the depth. -/
def Pattern.ofString (s : String) : Except Pattern.Fault Pattern := do
  let cs := s.toList
  let ts := Pattern.tokens 0 cs
  let ((node, flags), _) ← (Pattern.whole (3 * ts.length + 3)).run { rest := ts, length := cs.length }
  return ⟨node, flags⟩

/-- The same pattern without regard to letter case. -/
def Pattern.ignoringCase (p : Pattern) : Pattern := { p with flags := { p.flags with ignoreCase := true } }

end PerlCalls

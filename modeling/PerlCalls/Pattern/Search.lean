import PerlCalls.Pattern.Parser
import PerlCalls.Text.Blank
import PerlCalls.Text.Case

/-! Searching a text for a pattern.

A match is looked for at every place of the text in turn. At one place the alternatives are tried in
the order of the pattern, and what follows a node decides whether the node's first way of matching
stands: every node is given the rest of the match as a continuation. A repetition takes no further
turn from the place where its last turn began. -/
namespace PerlCalls.Pattern

open Text

/-- What a group holds, and the number of characters up to its end. -/
structure Capture where
  text : List Char
  finish : Nat

/-- A place in a text, and what the groups hold. -/
structure Place where
  /-- What is behind, nearest character first. -/
  before : List Char
  after : List Char
  /-- The number of characters behind. -/
  index : Nat
  captures : List (Nat × Capture) := []

def Place.capture? (p : Place) (group : Nat) : Option (List Char) :=
  (p.captures.lookup group).map (·.text)

/-- Begin a group: what it held is given up, unless that reaches this place. -/
def Place.enter (p : Place) (group : Nat) : Place :=
  { p with captures := p.captures.filter (fun c => c.1 != group || p.index ≤ c.2.finish) }

/-- Let a group hold the text between two places. -/
def Place.capture (start finish : Place) (group : Nat) : Place :=
  let text := start.after.take (finish.index - start.index)
  { finish with
    captures := (group, ⟨text, finish.index⟩) :: finish.captures.filter (·.1 != group) }

/-- The place behind the next character, which is `c`. -/
def Place.pass (p : Place) (c : Char) (rest : List Char) : Place :=
  { p with before := c :: p.before, after := rest, index := p.index + 1 }

/-- Step over `n` characters. -/
def Place.forward (p : Place) : Nat → Place
  | 0 => p
  | n + 1 => match p.after with
    | [] => p
    | c :: rest => (p.pass c rest).forward n

/-- Step back over `n` characters, if there are so many. -/
def Place.back? (p : Place) : Nat → Option Place
  | 0 => some p
  | n + 1 => match p.before with
    | [] => none
    | c :: rest =>
      { p with before := rest, after := c :: p.after, index := p.index - 1 : Place }.back? n

/-- The rest of a match: where it ends, if it goes on. -/
abbrev Continuation := Place → Option Place

/-! ### Characters -/

def Category.has (kind : Category) (flags : Flags) (c : Char) : Bool :=
  (!flags.ascii || isAscii c) &&
  match kind with
  | .digit => isDigit c
  | .space => isBlank c && !(flags.ascii && 0x1C ≤ c.toNat && c.toNat ≤ 0x1F)
  | .word => isWord c

/-- The lower-case characters taken for `c`, and the one it has itself. -/
def foldedForms (flags : Flags) (c : Char) : List Char :=
  if flags.ascii then [if isAscii c then lowerChar c else c] else lowerForms c

def SetItem.has (item : SetItem) (flags : Flags) (c : Char) : Bool :=
  match item with
  | .category kind negated => kind.has flags c != negated
  | .char n =>
    if flags.ignoreCase then
      (foldedForms flags c).any (fun low => (raised low).any (fun d => d.toNat == n))
    else c.toNat == n
  | .range lo hi =>
    let inside := fun (d : Char) => lo ≤ d.toNat && d.toNat ≤ hi
    if flags.ignoreCase then (foldedForms flags c).any (fun low => (raised low).any inside)
    else inside c
where
  /-- The characters that have this lower-case form. -/
  raised (low : Char) : List Char :=
    if flags.ascii then
      if 'a' ≤ low && low ≤ 'z' then [low, Char.ofNat (low.toNat - 32)] else [low]
    else raisedForms low

/-- The last code point that takes sixteen bits. -/
def lastOfFirstPlane : Nat := 0xFFFF

/-- Whether one of the members has the character. With letter case aside, a single character beyond
sixteen bits that stands beside other members is compared with the lower-case form only. -/
def setHas (items : List SetItem) (flags : Flags) (c : Char) : Bool :=
  match items with
  | [item] => item.has flags c
  | _ => items.any (fun item => match item with
    | .char n =>
      if flags.ignoreCase && lastOfFirstPlane < n then
        (if flags.ascii then c else lowerChar c).toNat == n
      else item.has flags c
    | _ => item.has flags c)

/-! ### Places -/

def isWordFor (flags : Flags) (c : Char) : Bool := Category.word.has flags c

/-- A word begins or ends here. -/
def atBoundary (flags : Flags) (p : Place) : Bool :=
  p.before.head?.any (isWordFor flags) != p.after.head?.any (isWordFor flags)

def Anchor.holds (a : Anchor) (flags : Flags) (p : Place) : Bool :=
  match a with
  | .textStart => p.before.isEmpty
  | .textEnd => p.after.isEmpty
  | .lineStart => p.before.isEmpty || (flags.multiline && p.before.head? == some '\n')
  | .lineEnd =>
    p.after.isEmpty || p.after == ['\n'] || (flags.multiline && p.after.head? == some '\n')
  | .boundary => atBoundary flags p
  | .nonBoundary => !atBoundary flags p && !(p.before.isEmpty && p.after.isEmpty)

/-- Take one character that passes the test. -/
def takeOne (test : Char → Bool) (p : Place) (go : Continuation) : Option Place :=
  match p.after with
  | [] => none
  | c :: rest => if test c then go (p.pass c rest) else none

/-- Take the given text, letter case aside if the flags say so. -/
def takeText (flags : Flags) (text : List Char) (p : Place) (go : Continuation) : Option Place :=
  let ahead := p.after.take text.length
  let same := fun (a b : Char) =>
    if flags.ignoreCase then
      if flags.ascii then a == b || (isAscii a && isAscii b && lowerChar a == lowerChar b)
      else lowerChar a == lowerChar b
    else a == b
  if ahead.length == text.length && (ahead.zip text).all (fun q => same q.1 q.2)
  then go (p.forward text.length)
  else none

/-! ### Repetitions -/

/-- Of a repetition: how often its body still has to match, how often it may, and where its last
optional turn began. -/
structure Turns where
  due : Nat
  room : Option Nat
  last : Option Nat := none

def Turns.forced (t : Turns) : Turns := { t with due := t.due - 1, room := t.room.map (· - 1) }

def Turns.mayGoOn (t : Turns) (p : Place) : Bool :=
  t.room != some 0 && t.last != some p.index

def Turns.optional (t : Turns) (p : Place) : Turns :=
  { t with room := t.room.map (· - 1), last := some p.index }

/-- Turns of `body`, as many as go, or as few; at most `n` of them. -/
def takeTurns (isLazy : Bool) (body : Place → Continuation → Option Place) (go : Continuation) :
    Nat → Turns → Continuation
  | 0, _, p => go p
  | n + 1, t, p =>
    if 0 < t.due then body p (takeTurns isLazy body go n t.forced)
    else
      let again := fun (_ : Unit) =>
        if t.mayGoOn p then body p (takeTurns isLazy body go n (t.optional p)) else none
      if isLazy then
        match go p with
        | some q => some q
        | none => again ()
      else
        match again () with
        | some q => some q
        | none => go p

/-- Turns of `body`, each of them for good; at most `n` of them. -/
def takeForGood (body : Place → Continuation → Option Place) : Nat → Turns → Continuation
  | 0, _, p => some p
  | n + 1, t, p =>
    if 0 < t.due then (body p some).bind (takeForGood body n t.forced)
    else if t.mayGoOn p then
      match body p some with
      | some q => takeForGood body n (t.optional p) q
      | none => some p
    else some p

/-- More turns than a repetition can take from here. -/
def turnLimit (least : Nat) (p : Place) : Nat := least + p.after.length + 2

/-! ### Nodes -/

/-- Where a match of the node from `p` on ends, if `go` accepts the place after it. -/
def Node.run (flags : Flags) : Node → Place → Continuation → Option Place
  | .empty, p, go => go p
  | .seq a b, p, go => a.run flags p (fun q => b.run flags q go)
  | .alt a b, p, go =>
    match a.run flags p go with
    | some q => some q
    | none => b.run flags p go
  | .char n, p, go => takeOne ((SetItem.char n).has flags) p go
  | .any, p, go => takeOne (fun c => flags.dotAll || c != '\n') p go
  | .set negated items, p, go => takeOne (fun c => setHas items flags c != negated) p go
  | .anchor a, p, go => if a.holds flags p then go p else none
  | .loop least most greed body, p, go =>
    let turns : Turns := { due := least, room := most }
    match greed with
    | .greedy => takeTurns false (body.run flags) go (turnLimit least p) turns p
    | .lazy => takeTurns true (body.run flags) go (turnLimit least p) turns p
    | .possessive =>
      (takeForGood (body.run flags) (turnLimit least p) turns p).bind go
  | .group number body, p, go =>
    match number with
    | none => body.run flags p go
    | some n => body.run flags (p.enter n) (fun q => go (p.capture q n))
  | .flagged on off body, p, go => body.run (flags.change on off) p go
  | .atomic body, p, go => (body.run flags p some).bind go
  | .reference n, p, go =>
    match p.capture? n with
    | none => none
    | some text => takeText flags text p go
  | .lookahead negated body, p, go =>
    match body.run flags p some with
    | some q => if negated then none else go { p with captures := q.captures }
    | none => if negated then go p else none
  | .lookbehind negated width body, p, go =>
    match (p.back? width.least).bind (fun q => body.run flags q some) with
    | some q => if negated then none else go { p with captures := q.captures }
    | none => if negated then go p else none
  | .conditional n yes no, p, go =>
    if (p.capture? n).isSome then yes.run flags p go else no.run flags p go

/-- Whether the node matches from some place on; `index` characters are behind. -/
def Node.foundFrom (flags : Flags) (node : Node) (before : List Char) (index : Nat) :
    List Char → Bool
  | [] => (node.run flags { before := before, after := [], index := index } some).isSome
  | c :: rest =>
    (node.run flags { before := before, after := c :: rest, index := index } some).isSome ||
      node.foundFrom flags (c :: before) (index + 1) rest

end PerlCalls.Pattern

namespace PerlCalls

/-- Whether the pattern matches somewhere in the text. -/
def Pattern.found (p : Pattern) (text : String) : Bool := p.node.foundFrom p.flags [] 0 text.toList

/-- One of the patterns is found in the text. -/
def anyFound (patterns : List Pattern) (text : String) : Bool := patterns.any (·.found text)

end PerlCalls

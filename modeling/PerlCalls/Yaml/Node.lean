import PerlCalls.Yaml.Token

/-! A YAML document as a tree of scalars, lists and maps.

The reader takes a list of tokens and gives back those that it did not use. Where a node may be left
out, an empty plain scalar stands for it. -/
namespace PerlCalls.Yaml

/-- What stands before a node: a name under which it is known, and its tag with the handle
expanded. -/
structure Label where
  anchor : Option String := none
  tag : Option String := none
deriving DecidableEq

def Label.isEmpty (l : Label) : Bool := l.anchor.isNone && l.tag.isNone

inductive Node where
  | scalar (label : Label) (text : String) (plain : Bool)
  | list (label : Label) (items : List Node)
  | map (label : Label) (entries : List (Node × Node))
  /-- The node that is known under a name. -/
  | alias (name : String)

/-- The node that is not there. -/
def Node.absent : Node := .scalar {} "" true

/-- What the handles of tags stand for. -/
abbrev Handles := List (String × String)

def defaultHandles : Handles := [("!", "!"), ("!!", "tag:yaml.org,2002:")]

def expandTag (handles : Handles) (tag : TagName) : Option String :=
  match tag.handle with
  | none => some tag.suffix
  | some handle => (handles.lookup handle).map (· ++ tag.suffix)

/-- Nothing, or something to go on with. -/
abbrev Parsed (α : Type) := Option (α × List Token)

/-- The next token is one of these. -/
def comesOneOf (ts : List Token) (those : List Token) : Bool :=
  match ts with
  | t :: _ => those.contains t
  | [] => false

/-- An anchor and a tag in any order, or only one of them, or none. -/
def label? (handles : Handles) (ts : List Token) : Parsed Label :=
  match ts with
  | .anchor name :: .tag tag :: rest =>
    (expandTag handles tag).map (fun tag => (⟨some name, some tag⟩, rest))
  | .tag tag :: .anchor name :: rest =>
    (expandTag handles tag).map (fun tag => (⟨some name, some tag⟩, rest))
  | .anchor name :: rest => some (⟨some name, none⟩, rest)
  | .tag tag :: rest => (expandTag handles tag).map (fun tag => (⟨none, some tag⟩, rest))
  | _ => some ({}, ts)

section
variable (handles : Handles)

mutual

/-- A node. Only outside of brackets may it be laid out by indentation (`block`); the value of a key
may be a list at the indentation of the key (`flush`). -/
def node (block flush : Bool) (ts : List Token) : Nat → Parsed Node
  | 0 => none
  | n + 1 =>
    match ts with
    | .alias name :: rest => some (.alias name, rest)
    | _ =>
      match label? handles ts with
      | none => none
      | some (label, rest) => content label block flush rest n

/-- A node behind its label, which may be all of it. -/
def content (label : Label) (block flush : Bool) (ts : List Token) : Nat → Parsed Node
  | 0 => none
  | n + 1 =>
    let bare := if label.isEmpty then none else some (.scalar label "" true, ts)
    match ts with
    | .dash :: _ => if flush then (flushItems ts n).map (fun r => (.list label r.1, r.2)) else bare
    | .scalar text plain :: rest => some (.scalar label text plain, rest)
    | .openList :: rest => (flowItems true rest n).map (fun r => (.list label r.1, r.2))
    | .openMap :: rest => (flowEntries true rest n).map (fun r => (.map label r.1, r.2))
    | .blockList :: rest =>
      if block then (blockItems rest n).map (fun r => (.list label r.1, r.2)) else bare
    | .blockMap :: rest =>
      if block then (blockEntries rest n).map (fun r => (.map label r.1, r.2)) else bare
    | _ => bare

/-- A node, or its absence before one of the given tokens. -/
def nodeUnless (those : List Token) (block flush : Bool) (ts : List Token) : Nat → Parsed Node
  | 0 => none
  | n + 1 => if comesOneOf ts those then some (.absent, ts) else node block flush ts n

/-- The items of an indented list, up to its end. -/
def blockItems (ts : List Token) : Nat → Parsed (List Node)
  | 0 => none
  | n + 1 =>
    match ts with
    | .dash :: rest =>
      match nodeUnless [.dash, .blockEnd] true false rest n with
      | none => none
      | some (item, rest) => (blockItems rest n).map (fun r => (item :: r.1, r.2))
    | .blockEnd :: rest => some ([], rest)
    | _ => none

/-- The items of a list that is not indented itself. -/
def flushItems (ts : List Token) : Nat → Parsed (List Node)
  | 0 => none
  | n + 1 =>
    match ts with
    | .dash :: rest =>
      match nodeUnless [.dash, .key, .value, .blockEnd] true false rest n with
      | none => none
      | some (item, rest) => (flushItems rest n).map (fun r => (item :: r.1, r.2))
    | _ => some ([], ts)

/-- The entries of an indented map, up to its end. -/
def blockEntries (ts : List Token) : Nat → Parsed (List (Node × Node))
  | 0 => none
  | n + 1 =>
    match ts with
    | .blockEnd :: rest => some ([], rest)
    | .key :: rest =>
      match nodeUnless [.key, .value, .blockEnd] true true rest n with
      | none => none
      | some (key, rest) =>
        match blockValue rest n with
        | none => none
        | some (value, rest) => (blockEntries rest n).map (fun r => ((key, value) :: r.1, r.2))
    | _ => none

/-- The value of a key in an indented map. -/
def blockValue (ts : List Token) : Nat → Parsed Node
  | 0 => none
  | n + 1 =>
    match ts with
    | .value :: rest => nodeUnless [.key, .value, .blockEnd] true true rest n
    | _ => some (.absent, ts)

/-- The items of a bracketed list. -/
def flowItems (isFirst : Bool) (ts : List Token) : Nat → Parsed (List Node)
  | 0 => none
  | n + 1 =>
    match ts with
    | .closeList :: rest => some ([], rest)
    | _ =>
      match afterComma isFirst ts with
      | none => none
      | some (.closeList :: rest) => some ([], rest)
      | some (.key :: rest) =>
        match flowPair [.comma, .closeList] rest n with
        | none => none
        | some (pair, rest) => (flowItems false rest n).map (fun r => (.map {} [pair] :: r.1, r.2))
      | some rest =>
        match node false false rest n with
        | none => none
        | some (item, rest) => (flowItems false rest n).map (fun r => (item :: r.1, r.2))

/-- A key and its value inside brackets; the key's token has been taken. -/
def flowPair (ends : List Token) (ts : List Token) : Nat → Parsed (Node × Node)
  | 0 => none
  | n + 1 =>
    match nodeUnless (.value :: ends) false false ts n with
    | none => none
    | some (key, .value :: rest) =>
      (nodeUnless ends false false rest n).map (fun r => ((key, r.1), r.2))
    | some (key, rest) => some ((key, .absent), rest)

/-- The entries of a bracketed map. -/
def flowEntries (isFirst : Bool) (ts : List Token) : Nat → Parsed (List (Node × Node))
  | 0 => none
  | n + 1 =>
    match ts with
    | .closeMap :: rest => some ([], rest)
    | _ =>
      match afterComma isFirst ts with
      | none => none
      | some (.closeMap :: rest) => some ([], rest)
      | some (.key :: rest) =>
        match flowPair [.comma, .closeMap] rest n with
        | none => none
        | some (pair, rest) => (flowEntries false rest n).map (fun r => (pair :: r.1, r.2))
      | some rest =>
        match node false false rest n with
        | none => none
        | some (key, rest) =>
          (flowEntries false rest n).map (fun r => ((key, Node.absent) :: r.1, r.2))

/-- Past the comma that every item but the first needs. -/
def afterComma (isFirst : Bool) (ts : List Token) : Option (List Token) :=
  if isFirst then some ts
  else match ts with
    | .comma :: rest => some rest
    | _ => none

end

end

/-- What is left after a document: end markers, and nothing else. -/
def endsStream (ts : List Token) : Bool := ts.all (· == .documentEnd)

/-- The only document, from its first token on. -/
def wholeNode (handles : Handles) (ts : List Token) : Option Node :=
  match node handles true false ts (5 * ts.length + 5) with
  | some (root, rest) => if endsStream rest then some root else none
  | none => none

/-- The directives before a document. A version, which has to begin with one, and each handle may be
given once. -/
structure Prolog where
  hasVersion : Bool := false
  handles : Handles := []

def Prolog.add (p : Prolog) : Directive → Option Prolog
  | .version major => if p.hasVersion || major != 1 then none else some { p with hasVersion := true }
  | .handle handle expansion =>
    if (p.handles.lookup handle).isSome then none
    else some { p with handles := (handle, expansion) :: p.handles }
  | .other => some p

/-- The directives ahead, and what follows them. -/
def prolog? (p : Prolog) : List Token → Parsed Prolog
  | .directive d :: rest => (p.add d).bind (fun p => prolog? p rest)
  | ts => some (p, ts)

/-- The document that the tokens hold: none for a fault, an absent node for an empty one. -/
def document? (ts : List Token) : Option Node :=
  match ts with
  | [] => some .absent
  | .directive _ :: _ | .documentStart :: _ =>
    match prolog? {} ts with
    | some (p, .documentStart :: rest) =>
      if endsStream rest then some .absent else wholeNode (p.handles ++ defaultHandles) rest
    | _ => none
  | _ => wholeNode defaultHandles ts

end PerlCalls.Yaml

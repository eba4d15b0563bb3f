import PerlCalls.Yaml.Scalar
import PerlCalls.Yaml.Tree

/-! The value of a YAML document.

A key that comes twice keeps its first place and its last value. A key may be no collection. The
merge key brings in the entries of one map or of several, before the entries that stand beside it.

A document is first checked as a whole, the nodes that are nearer to the root before those that are
further from it; then its value is made. -/
namespace PerlCalls.Yaml

open Input

/-- The kinds that have a tag of their own. -/
def taggedKinds : List (String × Kind) :=
  [ ("null", .null), ("bool", .truth), ("int", .whole), ("float", .fractional),
    ("timestamp", .date), ("binary", .bytes), ("str", .text), ("seq", .list), ("map", .map),
    ("set", .set), ("pairs", .pairs), ("omap", .pairs), ("merge", .merge), ("value", .default) ]

def kindOfTag? (tag : String) : Option Kind :=
  (taggedKinds.find? (fun e => tag == "tag:yaml.org,2002:" ++ e.1)).map Prod.snd

/-- The kind that a tag gives; without one, or with one that says nothing, the usual one. -/
def kindOr (usual : Kind) : Option String → Option Kind
  | none => some usual
  | some tag => if tag == "!" then some usual else kindOfTag? tag

namespace Tree

/-- The kind of a node, if it has a tag that is known. -/
def kind? : Tree → Option Kind
  | .scalar none text plain => some (if plain then plainKind text else .text)
  | .scalar tag text _ => kindOr (plainKind text) tag
  | .list tag _ => kindOr .list tag
  | .map tag _ => kindOr .map tag
  | .again node => node.kind?

/-- Whether a node is written as a map. -/
def isMap : Tree → Bool
  | .map .. => true
  | .again node => node.isMap
  | _ => false

def isMerge (t : Tree) : Bool :=
  match t with
  | .scalar .. => t.kind? == some .merge
  | _ => false

/-! ### Merging -/

mutual

/-- The entries that a map or several bring into another. Of several the first counts most, so it
comes last. -/
def merged : Tree → Except Fault (List (Tree × Tree))
  | .map _ entries => do
    return (← broughtIn entries) ++ entries.filter (fun e => !e.1.isMerge)
  | .list _ items => mergedItems items
  | .again node => node.merged
  | .scalar .. => .error .malformed

def mergedItems : List Tree → Except Fault (List (Tree × Tree))
  | [] => .ok []
  | item :: rest => do
    let more ← mergedItems rest
    if item.isMap then return more ++ (← item.merged) else throw .malformed

/-- What the merge keys among the entries bring in. -/
def broughtIn : List (Tree × Tree) → Except Fault (List (Tree × Tree))
  | [] => .ok []
  | (key, value) :: rest => do
    let more ← broughtIn rest
    if key.isMerge then return (← value.merged) ++ more else return more

end

/-- The entries of a map, with those of its merge keys first. -/
def flattened (entries : List (Tree × Tree)) : Except Fault (List (Tree × Tree)) := do
  return (← broughtIn entries) ++ entries.filter (fun e => !e.1.isMerge)

/-- The entries of a node that is written as a map. -/
def entries : Tree → List (Tree × Tree)
  | .map _ entries => entries
  | .again node => node.entries
  | _ => []

/-! ### Checking -/

/-- The kinds that hold other nodes. -/
def isCollectionKind (k : Kind) : Bool := [.list, .map, .set, .pairs].contains k

/-- A part of a collection. -/
structure Part where
  node : Tree
  isKey : Bool

def keyAndItem (e : Tree × Tree) : List Part := [⟨e.1, true⟩, ⟨e.2, false⟩]

/-- The key and the value of a pair. -/
def pairParts (t : Tree) : Except Fault (List Part) :=
  match t.isMap, t.entries with
  | true, [(key, value)] => .ok [⟨key, false⟩, ⟨value, false⟩]
  | _, _ => .error .malformed

/-- The parts of a collection, which has to be written as its kind asks. -/
def parts (t : Tree) : Except Fault (List Part) :=
  match t.kind?, t with
  | some .list, .list _ items => .ok (items.map (⟨·, false⟩))
  | some .pairs, .list _ items => do return (← items.mapM pairParts).flatten
  | some .map, .map _ entries => do return (← flattened entries).flatMap keyAndItem
  | some .set, .map _ entries => do return (← flattened entries).flatMap keyAndItem
  | _, _ => .error .malformed

/-- Check a part; if it is a collection, its own parts are still to be checked. A node that stands
somewhere else as well is checked there. -/
def Part.check (p : Part) : Except Fault (Option Tree) :=
  match p.node.kind? with
  | none => .error .malformed
  | some kind =>
    if isCollectionKind kind then
      if p.isKey then .error .malformed
      else match p.node with
        | .again _ => .ok none
        | node => .ok (some node)
    else match p.node with
      | .scalar _ text _ =>
        if p.isKey && kind == .default then .ok none else (scalarValue kind text).map (fun _ => none)
      | .again _ => .ok none
      | _ => .error .malformed

/-- Check collections, and then the collections in them, down to a depth. -/
def checkLevels : Nat → List Tree → Except Fault Unit
  | 0, _ => .ok ()
  | _, [] => .ok ()
  | n + 1, nodes => do
    let next ← nodes.mapM (fun t => do (← t.parts).mapM Part.check)
    checkLevels n (next.flatten.filterMap id)

/-! ### Values -/

/-- Whether two keys are the same text. -/
def sameKey : Value → Value → Bool
  | .text a, .text b => a == b
  | _, _ => false

/-- Give a key a value. -/
def setEntry (entries : List (Value × Value)) (key value : Value) : List (Value × Value) :=
  if entries.any (fun e => sameKey e.1 key) then
    entries.map (fun e => if sameKey e.1 key then (e.1, value) else e)
  else entries ++ [(key, value)]

/-- The value of a scalar that has been checked. -/
def ofScalar (t : Tree) (text : String) : Value :=
  match t.kind? with
  | some .default => .text text
  | some kind => ((scalarValue kind text).toOption).getD .null
  | none => .null

/-- The value of a node that has been checked, down to a depth. Every step goes to a node inside, so the
depth of the node is enough. -/
def value (t : Tree) : Nat → Value
  | 0 => .null
  | n + 1 =>
    match t with
    | .again node => value node n
    | .scalar _ text _ => ofScalar t text
    | .list _ items => .list (items.map (fun item => value item n))
    | .map _ entries =>
      let pairs := (((flattened entries).toOption).getD []).map (fun e => (value e.1 n, value e.2 n))
      let made := pairs.foldl (fun done e => setEntry done e.1 e.2) []
      if t.kind? == some .set then .set (made.map Prod.fst) else .map made

end Tree

/-- The value of a text, if it is a single document of YAML. -/
def parse (text : List Char) : Except Fault Value := do
  let ts ← tokens text
  let root ← orMalformed ((document? ts).bind Node.tree?)
  let first ← Tree.Part.check ⟨root, false⟩
  Tree.checkLevels (ts.length + 1) first.toList
  return root.value root.depth

end PerlCalls.Yaml

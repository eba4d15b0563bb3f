import PerlCalls.Yaml.Node

/-! The tree of a document in which aliases have found their nodes.

Every anchor names one node, and an alias stands after its anchor. An alias inside the collection
that it names is answered by an empty collection of that kind. -/
namespace PerlCalls.Yaml

inductive Tree where
  | scalar (tag : Option String) (text : String) (plain : Bool)
  | list (tag : Option String) (items : List Tree)
  | map (tag : Option String) (entries : List (Tree × Tree))
  /-- A node that stands somewhere else as well. -/
  | again (node : Tree)

mutual

/-- How many nodes lie one inside the other. -/
def Tree.depth : Tree → Nat
  | .scalar .. => 1
  | .list _ items => depthOfItems items + 1
  | .map _ entries => depthOfEntries entries + 1
  | .again node => node.depth + 1

def depthOfItems : List Tree → Nat
  | [] => 0
  | item :: rest => max item.depth (depthOfItems rest)

def depthOfEntries : List (Tree × Tree) → Nat
  | [] => 0
  | (key, value) :: rest => max (max key.depth value.depth) (depthOfEntries rest)

end

/-- The nodes that have a name, the last first. -/
abbrev Anchors := List (String × Tree)

/-- Give a node its name, if it has one. -/
def Anchors.enter (known : Anchors) (anchor : Option String) (t : Tree) : Anchors :=
  match anchor with
  | some name => (name, t) :: known
  | none => known

/-- No other node has the name. -/
def Anchors.isFree (known : Anchors) (anchor : Option String) : Bool :=
  anchor.all (fun name => (known.lookup name).isNone)

mutual

/-- The tree of a node, and the names that are known after it. -/
def Node.resolve (known : Anchors) : Node → Option (Tree × Anchors)
  | .alias name => (known.lookup name).map (fun t => (.again t, known))
  | .scalar label text plain =>
    let t := Tree.scalar label.tag text plain
    if known.isFree label.anchor then some (t, known.enter label.anchor t) else none
  | .list label items =>
    if known.isFree label.anchor then
      match resolveItems (known.enter label.anchor (.list label.tag [])) items with
      | some (items, known) =>
        let t := Tree.list label.tag items
        some (t, known.enter label.anchor t)
      | none => none
    else none
  | .map label entries =>
    if known.isFree label.anchor then
      match resolveEntries (known.enter label.anchor (.map label.tag [])) entries with
      | some (entries, known) =>
        let t := Tree.map label.tag entries
        some (t, known.enter label.anchor t)
      | none => none
    else none

def resolveItems (known : Anchors) : List Node → Option (List Tree × Anchors)
  | [] => some ([], known)
  | item :: rest =>
    match item.resolve known with
    | some (item, known) => (resolveItems known rest).map (fun r => (item :: r.1, r.2))
    | none => none

def resolveEntries (known : Anchors) : List (Node × Node) → Option (List (Tree × Tree) × Anchors)
  | [] => some ([], known)
  | (key, value) :: rest =>
    match key.resolve known with
    | some (key, known) =>
      match value.resolve known with
      | some (value, known) =>
        (resolveEntries known rest).map (fun r => ((key, value) :: r.1, r.2))
      | none => none
    | none => none

end

/-- The tree of a document. -/
def Node.tree? (root : Node) : Option Tree := (root.resolve []).map Prod.fst

end PerlCalls.Yaml

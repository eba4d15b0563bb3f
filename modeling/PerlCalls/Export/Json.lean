import PerlCalls.Export.Dot
import PerlCalls.Text.Digit
import PerlCalls.Text.Whole

/-! The subgraph as a JSON document: one item a line, two blanks a level, ASCII only. A document with a
number that has too many digits cannot be written. -/
namespace PerlCalls.Export

open PerlCalls.Graph
open Text

inductive Json where
  | null
  | bool (b : Bool)
  | int (n : Int)
  | text (s : String)
  | list (items : List Json)
  | object (fields : List (String × Json))

/-- A UTF-16 unit as an escape. -/
def escapeUnit (n : Nat) : List Char := ['\\', 'u'] ++ hexText 4 n

def escapeJsonChar (c : Char) : List Char :=
  if c == '"' then ['\\', '"']
  else if c == '\\' then ['\\', '\\']
  else if c == '\n' then ['\\', 'n']
  else if c == '\r' then ['\\', 'r']
  else if c == '\t' then ['\\', 't']
  else if c == '\x0c' then ['\\', 'f']
  else if c == '\x08' then ['\\', 'b']
  else if 0x20 ≤ c.toNat && c.toNat ≤ 0x7E then [c]
  else if c.toNat < 0x10000 then escapeUnit c.toNat
  else
    let n := c.toNat - 0x10000
    escapeUnit (0xD800 + n / 0x400) ++ escapeUnit (0xDC00 + n % 0x400)

def jsonString (s : String) : List Char := '"' :: s.toList.flatMap escapeJsonChar ++ ['"']

/-- A new line at a level. -/
def lineAt (level : Nat) : List Char := '\n' :: List.replicate (2 * level) ' '

mutual

def Json.render (level : Nat) : Json → List Char
  | .null => "null".toList
  | .bool b => (if b then "true" else "false").toList
  | .int n => (toString n).toList
  | .text s => jsonString s
  | .list [] => "[]".toList
  | .list (item :: items) =>
    '[' :: lineAt (level + 1) ++ item.render (level + 1) ++ renderItems (level + 1) items ++
      lineAt level ++ [']']
  | .object [] => "\x7b\x7d".toList
  | .object ((key, value) :: fields) =>
    '\x7b' :: lineAt (level + 1) ++ jsonString key ++ ": ".toList ++ value.render (level + 1) ++
      renderFields (level + 1) fields ++ lineAt level ++ ['\x7d']

/-- The items after the first. -/
def renderItems (level : Nat) : List Json → List Char
  | [] => []
  | item :: items => ',' :: lineAt level ++ item.render level ++ renderItems level items

/-- The fields after the first. -/
def renderFields (level : Nat) : List (String × Json) → List Char
  | [] => []
  | (key, value) :: fields =>
    ',' :: lineAt level ++ jsonString key ++ ": ".toList ++ value.render level ++
      renderFields level fields

end

mutual

/-- The numbers in a document, in order. -/
def Json.numbers : Json → List Int
  | .int n => [n]
  | .list items => numbersOfItems items
  | .object fields => numbersOfFields fields
  | _ => []

def numbersOfItems : List Json → List Int
  | [] => []
  | item :: items => item.numbers ++ numbersOfItems items

def numbersOfFields : List (String × Json) → List Int
  | [] => []
  | (_, value) :: fields => value.numbers ++ numbersOfFields fields

end

/-- The number has no more digits than may be written. -/
def isShort (n : Int) : Bool := n.natAbs < Nat.pow 10 digitLimit

/-- What the document tells of a node. -/
structure NodeRow where
  id : NodeId
  file : String
  name : String
  line : Option Int
  isStart : Bool

structure EdgeRow where
  source : NodeId
  target : NodeId
  weight : Int

def nodeRow (g : CallGraph) (t : Traversal) (id : NodeId) : NodeRow :=
  let parts := splitQualified id
  { id := id
    file := parts.1
    name := parts.2
    line := (g.definitions.find? id).map Definition.line
    isStart := t.isStart id }

def edgeRow (g : CallGraph) (e : Edge) : EdgeRow :=
  ⟨e.caller, e.callee, (g.invokes.weight? e.caller e.callee).getD 0⟩

def nodeRows (g : CallGraph) (t : Traversal) : List NodeRow := t.visited.elems.map (nodeRow g t)

def edgeRows (g : CallGraph) (t : Traversal) : List EdgeRow := t.edges.elems.map (edgeRow g)

def NodeRow.json (n : NodeRow) : Json :=
  .object [("id", .text n.id), ("file", .text n.file), ("name", .text n.name),
    ("line", match n.line with
      | some line => .int line
      | none => .null),
    ("is_start", .bool n.isStart)]

def EdgeRow.json (e : EdgeRow) : Json :=
  .object [("source", .text e.source), ("target", .text e.target), ("weight", .int e.weight)]

def graphJson (g : CallGraph) (t : Traversal) (options : Options) : Json :=
  let nodes := nodeRows g t
  let edges := edgeRows g t
  .object
    [ ("metadata", .object
        [("graph_name", .text options.graphName), ("clustering", .bool options.clustered)]),
      ("statistics", .object
        [("total_nodes", .int nodes.length), ("total_edges", .int edges.length),
          ("start_nodes", .int t.starts.length)]),
      ("nodes", .list (nodes.map NodeRow.json)),
      ("edges", .list (edges.map EdgeRow.json)) ]

/-- The JSON text of a traversal. -/
def jsonText (g : CallGraph) (t : Traversal) (options : Options) : List Char :=
  (graphJson g t options).render 0 ++ ['\n']

/-- The text of a traversal, if all of its numbers can be written. -/
def jsonText? (g : CallGraph) (t : Traversal) (options : Options) : Option (List Char) :=
  if (graphJson g t options).numbers.all isShort then some (jsonText g t options) else none

end PerlCalls.Export

import PerlCalls.Graph.Traversal
import PerlCalls.Text.Blank
import PerlCalls.Text.Lines

/-! The subgraph as a DOT document.

A document is a list of statements and a list of edges; its text is the lines of each in turn. In a
clustered document the nodes of consecutive equal files stand in one subgraph. Identifiers are
quoted; in an unclustered document a node's label is a record of its file and its name. -/
namespace PerlCalls.Export

open PerlCalls.Graph
open Text

/-- How the subgraph is to be written. -/
structure Options where
  format : String := "dot"
  clustered : Bool := false
  graphName : String := "perl_call_graph"
deriving DecidableEq

/-! ### Escapes -/

def escapeIdChar (c : Char) : List Char :=
  if c == '\\' then ['\\', '\\']
  else if c == '"' then ['\\', '"']
  else if c == '\n' then ['\\', 'n']
  else [c]

/-- A text as it stands between double quotes. -/
def escapeIdChars (cs : List Char) : List Char := cs.flatMap escapeIdChar

/-- The characters that mean something in a record, and white space, which a record collapses. -/
def isRecordSpecial (c : Char) : Bool :=
  ['|', '\x7b', '\x7d', '<', '>'].contains c || isBlank c

def escapeRecordChar (c : Char) : List Char := if isRecordSpecial c then ['\\', c] else [c]

/-- A text as a field of a record that stands between double quotes. -/
def escapeRecordChars (cs : List Char) : List Char := (escapeIdChars cs).flatMap escapeRecordChar

def escapeId (s : String) : String := String.ofList (escapeIdChars s.toList)

def escapeRecord (s : String) : String := String.ofList (escapeRecordChars s.toList)

/-! ### Documents -/

inductive Statement where
  | openCluster (file : String)
  | closeCluster
  | node (id : NodeId) (isStart : Bool)
deriving DecidableEq

structure Document where
  name : String
  clustered : Bool
  statements : List Statement
  edges : List Edge

/-- The file of a node. -/
def fileOf (id : NodeId) : String := (splitQualified id).1

/-- The nodes in clusters; `current` is the file of the cluster that is open. -/
def clusterStatements (isStart : NodeId → Bool) (current : Option String) :
    List NodeId → List Statement
  | [] => match current with
    | some _ => [.closeCluster]
    | none => []
  | id :: rest =>
    let file := fileOf id
    let opening := match current with
      | none => [Statement.openCluster file]
      | some open_ => if open_ == file then [] else [.closeCluster, .openCluster file]
    opening ++ .node id (isStart id) :: clusterStatements isStart (some file) rest

def Document.ofTraversal (t : Traversal) (options : Options) : Document where
  name := options.graphName
  clustered := options.clustered
  statements :=
    if options.clustered then clusterStatements t.isStart none t.visited.elems
    else t.visited.elems.map (fun id => .node id (t.isStart id))
  edges := t.edges.elems

/-! ### Text -/

/-- The column after the identifiers of nodes and of callers. -/
def nodeColumn : Nat := 40

def padRight (width : Nat) (cs : List Char) : List Char :=
  cs ++ List.replicate (width - cs.length) ' '

def quoteId (id : NodeId) : List Char := '"' :: escapeIdChars id.toList ++ ['"']

def clusterHeader (file : String) : List (List Char) :=
  let label := escapeIdChars file.toList
  [ [],
    "    subgraph \"cluster_".toList ++ label ++ "\"".toList,
    "        \x7b".toList,
    "        label     = \"".toList ++ label ++ "\";".toList,
    "        style     = \"bold\";".toList,
    "        fontname  = \"Times-Bold\";".toList,
    "        fontsize  = 48;".toList,
    "        fontcolor = \"red\";".toList,
    [] ]

/-- A node's label: its name in a cluster, else the record of its file and its name. -/
def nodeLabel (clustered : Bool) (id : NodeId) : List Char :=
  let parts := splitQualified id
  if clustered then escapeIdChars parts.2.toList
  else escapeRecordChars parts.1.toList ++ " | ".toList ++ escapeRecordChars parts.2.toList

def nodeLine (clustered : Bool) (id : NodeId) (isStart : Bool) : List Char :=
  List.replicate (if clustered then 8 else 4) ' ' ++ padRight nodeColumn (quoteId id) ++
    " [label = \"".toList ++ nodeLabel clustered id ++ "\"".toList ++
    (if isStart then ", color = green".toList else []) ++ "];".toList

def Statement.lines (clustered : Bool) : Statement → List (List Char)
  | .openCluster file => clusterHeader file
  | .closeCluster => ["        \x7d".toList]
  | .node id isStart => [nodeLine clustered id isStart]

def edgeLine (e : Edge) : List Char :=
  "    ".toList ++ padRight nodeColumn (quoteId e.caller) ++ " -> ".toList ++ quoteId e.callee ++
    ";".toList

def preamble (name : String) : List (List Char) :=
  [ "digraph ".toList ++ quoteId name,
    "    \x7b".toList,
    [],
    "    rankdir     = LR;   // layout from left to right".toList,
    "    concentrate = true; // concentrate overlapping lines".toList,
    "    ratio       = 0.7;".toList,
    "    fontsize    = 24;".toList,
    [],
    "    node [ shape=Mrecord ];".toList,
    [],
    [],
    "    // nodes".toList ]

def Document.lines (d : Document) : List (List Char) :=
  preamble d.name ++ d.statements.flatMap (Statement.lines d.clustered) ++
    [[], [], "    // edges".toList] ++ d.edges.map edgeLine ++ [[], "    \x7d".toList, []]

def Document.text (d : Document) : List Char := joinWith ['\n'] d.lines

/-- The DOT text of a traversal. -/
def dotText (t : Traversal) (options : Options) : List Char := (Document.ofTraversal t options).text

end PerlCalls.Export

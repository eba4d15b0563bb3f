import PerlCalls.Data.SortedMap
import PerlCalls.Graph.Definition

/-! The call graph: who calls whom how often, indexed both ways.

`addEdge` keeps the two indexes in step. -/
namespace PerlCalls.Graph

/-- For each node its neighbours, with the weight of the edge to each. -/
abbrev Adjacency := SortedMap NodeId (SortedMap NodeId Int)

namespace Adjacency

/-- Add to the weight of an edge. -/
def add (m : Adjacency) (source target : NodeId) (weight : Int) : Adjacency :=
  m.alter source (fun inner =>
    (inner.getD SortedMap.empty).alter target (fun old => old.getD 0 + weight))

/-- The neighbours of a node, sorted. -/
def neighbours (m : Adjacency) (node : NodeId) : List NodeId :=
  match m.find? node with
  | some inner => inner.keys
  | none => []

def weight? (m : Adjacency) (source target : NodeId) : Option Int :=
  (m.find? source).bind (·.find? target)

/-- Every node that is somebody's neighbour, as often as it is one. -/
def targets (m : Adjacency) : List NodeId := m.values.flatMap SortedMap.keys

end Adjacency

structure CallGraph where
  /-- Definitions by identifier. -/
  definitions : SortedMap NodeId Definition := SortedMap.empty
  /-- Callees of each caller. -/
  invokes : Adjacency := SortedMap.empty
  /-- Callers of each callee. -/
  invokedBy : Adjacency := SortedMap.empty
  /-- Calls of names that nobody defines. -/
  external : SortedMap String Int := SortedMap.empty
  /-- Calls of names that the user wants left out. -/
  ignored : SortedMap String Int := SortedMap.empty
  ambiguous : List AmbiguousCall := []

namespace CallGraph

def addEdge (g : CallGraph) (caller callee : NodeId) (weight : Int) : CallGraph :=
  { g with
    invokes := g.invokes.add caller callee weight
    invokedBy := g.invokedBy.add callee caller weight }

/-- Every node that calls or is called. -/
def nodes (g : CallGraph) : SortedSet NodeId :=
  (SortedSet.ofList g.invokes.keys).addAll g.invokedBy.keys

def edgeCount (g : CallGraph) : Nat := g.invokes.targets.length

def callers (g : CallGraph) (node : NodeId) : List NodeId := g.invokedBy.neighbours node

def callees (g : CallGraph) (node : NodeId) : List NodeId := g.invokes.neighbours node

/-- The nodes that nobody calls. -/
def roots (g : CallGraph) : List NodeId := g.nodes.elems.filter (fun n => (g.callers n).isEmpty)

/-- A later definition of an identifier replaces an earlier one. -/
def define (g : CallGraph) (d : Definition) : CallGraph :=
  { g with definitions := g.definitions.insert d.id d }

end CallGraph

end PerlCalls.Graph

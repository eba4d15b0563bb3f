import PerlCalls.Graph.Traversal
import PerlCalls.Scan.Tally

/-! The numbers of a run. -/
namespace PerlCalls.Run

open PerlCalls.Graph
open Scan

structure Stats where
  files : Int
  definitions : Int
  callCandidates : Int
  resolvedEdges : Int
  unresolvedCalls : Int
  ignoredCalls : Int
  ambiguousCalls : Int
  graphNodes : Int
  startNodes : Int := 0
  visitedNodes : Int := 0
  traversedEdges : Int := 0
deriving DecidableEq

/-- Implicit definitions do not count. -/
def Stats.ofRun (tally : Tally) (g : CallGraph) (t : Traversal) : Stats where
  files := tally.files.length
  definitions := (tally.definitionList.filter (fun d => !d.implicit)).length
  callCandidates := tally.calls.size
  resolvedEdges := g.edgeCount
  unresolvedCalls := totalCount g.external
  ignoredCalls := totalCount g.ignored
  ambiguousCalls := g.ambiguous.length
  graphNodes := g.nodes.size
  startNodes := t.starts.length
  visitedNodes := t.visited.size
  traversedEdges := t.edges.size

end PerlCalls.Run

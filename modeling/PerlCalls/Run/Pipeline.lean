import PerlCalls.Export.Render
import PerlCalls.Run.Settings
import PerlCalls.Run.Stats

/-! A whole run over source files: scan, resolve, traverse. -/
namespace PerlCalls.Run

open PerlCalls.Graph
open Files Scan Export

/-- The subgraph around the given start nodes, and a note on its size. -/
def traverseNoted (g : CallGraph) (starts : List NodeId) : Traversal × List LogRecord :=
  let t := g.traverse starts
  (t, [.traversed t.starts.length t.visited.size t.edges.size])

/-- The notes on a graph that has been built: one for each ambiguous call in the order of the calls,
and one on its size. -/
def buildNotes (inCallOrder g : CallGraph) : List LogRecord :=
  inCallOrder.ambiguous.map (fun a => .ambiguous a.caller a.callee a.files) ++
    [.resolved g.edgeCount g.external.size g.ambiguous.length]

structure Result where
  tally : Tally
  graph : CallGraph
  traversal : Traversal
  stats : Stats

def Result.drawing (r : Result) : Drawing := ⟨r.graph, r.traversal⟩

def Settings.scan (s : Settings) : Scan.Settings := { stripPaths := s.stripPaths, extent := s.extent }

/-- What a tally leads to. -/
def ofTally (s : Settings) (tally : Tally) : Result × List LogRecord :=
  let collected := CallGraph.collect (anyFound s.ignorePatterns) tally.definitionList tally.callList
  let graph := collected.sortAmbiguous
  let (traversal, traversed) := traverseNoted graph (graph.startNodes (s.startPattern.map Pattern.found))
  ({ tally := tally, graph := graph, traversal := traversal, stats := Stats.ofRun tally graph traversal },
    buildNotes collected graph ++ traversed)

/-- Run over the files in order; the first that cannot be read ends the run. -/
def run (disk : Disk) (s : Settings) (paths : List String) :
    List LogRecord × Except InputError Result :=
  let progress := ({} : Progress).scanFiles s.scan disk paths
  match progress.stopped with
  | some e => (progress.log, .error e)
  | none =>
    let (result, notes) := ofTally s progress.tally
    (progress.log ++ notes, .ok result)

end PerlCalls.Run

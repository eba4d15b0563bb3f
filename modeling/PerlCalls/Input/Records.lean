import PerlCalls.Export.Dot
import PerlCalls.Graph.Definition
import PerlCalls.Input.Check
import PerlCalls.Run.Stats
import PerlCalls.Scan.Context

/-! The records of a call graph, read from untyped values. -/
namespace PerlCalls.Input

open PerlCalls.Graph
open Scan Export Run

def readDefinition (r : Record) : Checked Definition :=
  Checked.make Definition.mk
    |>.feed (required r "name" readText)
    |>.feed (required r "file" readText)
    |>.feed (required r "line" readInt)
    |>.feed (optional r "implicit" readBool false)

def readCall (r : Record) : Checked Call :=
  Checked.make Call.mk
    |>.feed (required r "caller" readText)
    |>.feed (required r "file" readText)
    |>.feed (required r "callee" readText)
    |>.feed (optional r "count" readInt 1)

def readAmbiguousCall (r : Record) : Checked AmbiguousCall :=
  Checked.make AmbiguousCall.mk
    |>.feed (required r "caller" readText)
    |>.feed (required r "callee" readText)
    |>.feed (required r "candidate_files" (readList readText))

def readContext (r : Record) : Checked Context :=
  Checked.make Context.mk
    |>.feed (required r "file" readText)
    |>.feed (optional r "subroutine" readText mainScope)
    |>.feed (optional r "in_pod" readBool false)
    |>.feed (optional r "after_end" readBool false)
    |>.feed (optional r "body_open" readBool false)
    |>.feed (optional r "depth" readInt 0)

def readOptions (r : Record) : Checked Options :=
  Checked.make Options.mk
    |>.feed (optional r "format" readText "dot")
    |>.feed (optional r "clustering" readBool false)
    |>.feed (optional r "graph_name" readText "perl_call_graph")

def readStats (r : Record) : Checked Stats :=
  Checked.make Stats.mk
    |>.feed (required r "files" readInt)
    |>.feed (required r "definitions" readInt)
    |>.feed (required r "call_candidates" readInt)
    |>.feed (required r "resolved_edges" readInt)
    |>.feed (required r "unresolved_calls" readInt)
    |>.feed (required r "ignored_calls" readInt)
    |>.feed (required r "ambiguous_calls" readInt)
    |>.feed (required r "graph_nodes" readInt)
    |>.feed (optional r "start_nodes" readInt 0)
    |>.feed (optional r "visited_nodes" readInt 0)
    |>.feed (optional r "traversed_edges" readInt 0)

/-- The start nodes that a traversal is made with. -/
def readStarts (r : Record) : Checked (List NodeId) :=
  optional r "start_nodes" (readList readText) []

end PerlCalls.Input

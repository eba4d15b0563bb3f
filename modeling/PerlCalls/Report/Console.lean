import PerlCalls.Graph.Definition
import PerlCalls.Input.Refusal
import PerlCalls.Report.Table
import PerlCalls.Run.Stats

/-! What a run tells its user: a summary, ambiguous calls, what has been written, and errors.

All of this is a list of items, texts in markup and tables, and does not depend on how they are shown.
Showing them is left to a console, which may refuse an item; `Console.ofWidth` is the one that runs. -/
namespace PerlCalls.Report

open PerlCalls.Graph
open Run Text

inductive Item where
  /-- A text in markup. -/
  | message (text : String)
  | table (t : Table)

/-- Where items are shown: what a text in markup and a table look like there. -/
structure Console where
  print : String → Except Refusal (List Char)
  draw : Table → Except Refusal (List Char)

/-- What has been shown, and the refusal that has ended it. -/
structure Printed where
  text : List Char := []
  refusal : Option Refusal := none

namespace Console

def display (c : Console) : Item → Except Refusal (List Char)
  | .message text => c.print text
  | .table t => c.draw t

/-- Items in order, up to the first that is refused. -/
def displayAll (c : Console) : List Item → Printed
  | [] => {}
  | item :: rest =>
    match c.display item with
    | .error refusal => { refusal := some refusal }
    | .ok text =>
      let later := c.displayAll rest
      { later with text := text ++ later.text }

end Console

/-! ### Items -/

/-- The numbers of a run in three groups. -/
def summaryTable (s : Stats) : Table where
  title := "📊 Call Graph Summary"
  box := roundedBox
  columns := [⟨"Metric", .left⟩, ⟨"Count", .right⟩]
  rows :=
    [ ["Files Scanned", toString s.files],
      ["Subroutines Defined", toString s.definitions],
      ["Call Candidates", toString s.callCandidates],
      ["", ""],
      ["Resolved Edges", toString s.resolvedEdges],
      ["Unresolved Calls", toString s.unresolvedCalls],
      ["Ignored Calls", toString s.ignoredCalls],
      ["Ambiguous Calls", toString s.ambiguousCalls],
      ["", ""],
      ["Start Nodes", toString s.startNodes],
      ["Nodes Plotted", s!"{s.visitedNodes}/{s.graphNodes}"],
      ["Edges Plotted", toString s.traversedEdges] ]

def ambiguousMessages (calls : List AmbiguousCall) : List String :=
  if calls.isEmpty then ["\n✅ [green]No ambiguous calls[/green]"]
  else
    s!"\n⚠️  [bold yellow]Ambiguous Calls ({calls.length})[/bold yellow]" ::
    calls.map (fun c =>
      s!"   {c.caller} → {c.callee}() [dim]defined in " ++ ", ".intercalate c.files ++ "[/dim]")

def outputMessage (format path : String) : String := s!"📁 {format} graph written to {path}"

def errorMessage (message : String) : String := s!"❌ [bold red]Error:[/bold red] {message}"

/-- A quiet run gives no summary. -/
def summaryItems (quiet : Bool) (s : Stats) : List Item := if quiet then [] else [.table (summaryTable s)]

def ambiguousItems (calls : List AmbiguousCall) : List Item := (ambiguousMessages calls).map .message

/-- Nor does it say what it has written. -/
def writtenItems (quiet : Bool) (format path : String) : List Item :=
  if quiet then [] else [.message (outputMessage format path)]

def errorItem (message : String) : Item := .message (errorMessage message)

/-- The declarations found, by file and name. -/
def definitionsTable (names : Nat) (ds : List Definition) : Table where
  title := s!"Subroutines ({names} names)"
  box := heavyHeadBox
  columns := [⟨"Name", .left⟩, ⟨"File", .left⟩, ⟨"Line", .right⟩]
  rows := ds.map (fun d => [d.name, d.file, toString d.line])

/-! ### Consoles of a width -/

/-- Lines, each with its end. -/
def linesText (lines : List (List Char)) : List Char := lines.flatMap (· ++ ['\n'])

/-- How a text with a fault is refused. -/
def MarkupFault.refusal : MarkupFault → Refusal
  | .unmatched tag => ⟨.markup, "closing tag '[" ++ String.ofList tag ++ "]' doesn't match any open tag"⟩
  | .handler arguments => ⟨.markup, "error parsing " ++ quoted (String.ofList arguments)⟩
  | .number fault => ⟨.value, fault.message⟩

/-- A console of so many cells, on which texts are wrapped. One without cells shows nothing. -/
def Console.ofWidth (width : Nat) : Console where
  print text := ((do
    let marked ← markup text.toList
    if width == 0 then return [] else marked.lines width .fold .none).mapError MarkupFault.refusal).map
      linesText
  draw t := if width == 0 then .ok [] else
    ((t.lines width).mapError MarkupFault.refusal).map linesText

end PerlCalls.Report

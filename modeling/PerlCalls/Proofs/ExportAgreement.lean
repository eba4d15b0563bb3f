import Mathlib
import PerlCalls.Proofs.DotReading
import PerlCalls.Proofs.JsonReading
import PerlCalls.Proofs.Maps

/-! The two exports of a traversal show the same drawing.

`Json.plot?` takes from a JSON value what a drawing shows. Read back from their texts, the DOT
document and the JSON document give one and the same `Plot`: the name of the graph, the nodes with
their highlights and the edges, in order. A drawing determines the traversal up to starts that were
never visited, so the DOT text does too (`exports_agree`). -/
namespace PerlCalls.Export

open PerlCalls.Graph

/-! ### Drawings in JSON -/

def Json.field? (name : String) : Json → Option Json
  | .object fields => fields.lookup name
  | _ => none

def Json.text? : Json → Option String
  | .text s => some s
  | _ => none

def Json.bool? : Json → Option Bool
  | .bool b => some b
  | _ => none

def Json.list? : Json → Option (List Json)
  | .list items => some items
  | _ => none

def Json.textField? (name : String) (j : Json) : Option String := (j.field? name).bind Json.text?

def Json.node? (j : Json) : Option (NodeId × Bool) := do
  let id ← j.textField? "id"
  let isStart ← (j.field? "is_start").bind Json.bool?
  return (id, isStart)

def Json.edge? (j : Json) : Option Edge := do
  let source ← j.textField? "source"
  let target ← j.textField? "target"
  return ⟨source, target⟩

/-- What the JSON document of a traversal shows. -/
def Json.plot? (j : Json) : Option Plot := do
  let name ← (j.field? "metadata").bind (Json.textField? "graph_name")
  let nodes ← ((j.field? "nodes").bind Json.list?).bind (List.mapM Json.node?)
  let edges ← ((j.field? "edges").bind Json.list?).bind (List.mapM Json.edge?)
  return ⟨name, nodes, edges⟩

theorem NodeRow.node?_json (n : NodeRow) : n.json.node? = some (n.id, n.isStart) := rfl

theorem EdgeRow.edge?_json (e : EdgeRow) : e.json.edge? = some ⟨e.source, e.target⟩ := rfl

/-- Rows that are each read back are read back together. -/
theorem mapM_json {α β : Type} {json : α → Json} {read : Json → Option β} {shown : α → β}
    (h : ∀ row, read (json row) = some (shown row)) (rows : List α) :
    (rows.map json).mapM read = some (rows.map shown) := by
  induction rows with
  | nil => rfl
  | cons row rows ih =>
    rw [List.map_cons, List.mapM_cons, h row, ih]
    rfl

theorem plot?_graphJson (g : CallGraph) (t : Traversal) (options : Options) :
    (graphJson g t options).plot? = some (Plot.ofTraversal t options) := by
  have hname : ((graphJson g t options).field? "metadata").bind (Json.textField? "graph_name") =
      some options.graphName := rfl
  have hnodes : ((graphJson g t options).field? "nodes").bind Json.list? =
      some ((nodeRows g t).map NodeRow.json) := rfl
  have hedges : ((graphJson g t options).field? "edges").bind Json.list? =
      some ((edgeRows g t).map EdgeRow.json) := rfl
  rw [Json.plot?, hname, hnodes, hedges]
  simp only [Option.bind_eq_bind, Option.bind_some]
  rw [mapM_json NodeRow.node?_json, mapM_json EdgeRow.edge?_json, nodeRows, edgeRows, List.map_map,
    List.map_map]
  simp [Function.comp_def, nodeRow, edgeRow, Plot.ofTraversal]

/-! ### Equal drawings -/

theorem clusterStatements_congr {isStart isStart' : NodeId → Bool} (ids : List NodeId)
    (h : ∀ id ∈ ids, isStart id = isStart' id) (current : Option String) :
    clusterStatements isStart current ids = clusterStatements isStart' current ids := by
  induction ids generalizing current with
  | nil => rfl
  | cons id rest ih =>
    have hrest := ih (fun n hn => h n (List.mem_cons_of_mem id hn)) (some (fileOf id))
    cases current <;> simp only [clusterStatements, hrest, h id (List.mem_cons_self ..)]

theorem dotText_congr {t t' : Traversal} {options : Options} (hvisited : t.visited = t'.visited)
    (hedges : t.edges = t'.edges) (hstart : ∀ id ∈ t.visited.elems, t.isStart id = t'.isStart id) :
    dotText t options = dotText t' options := by
  rw [dotText, dotText, Document.ofTraversal, Document.ofTraversal, ← hvisited, ← hedges,
    clusterStatements_congr t.visited.elems hstart,
    List.map_congr_left fun id hid => congrArg (Statement.node id) (hstart id hid)]

/-- The drawing tells what was visited, which of it is a start, and what was walked along. -/
theorem eq_of_plot_eq {t t' : Traversal} {options : Options}
    (h : Plot.ofTraversal t options = Plot.ofTraversal t' options) :
    t.visited = t'.visited ∧ t.edges = t'.edges ∧
      ∀ id ∈ t.visited.elems, t.isStart id = t'.isStart id := by
  obtain ⟨-, hnodes, hedges⟩ := (Plot.mk.injEq ..).mp h
  have hvisited : t.visited = t'.visited := by
    apply SortedSet.elems_inj
    simpa [Function.comp_def] using congrArg (List.map Prod.fst) hnodes
  refine ⟨hvisited, SortedSet.elems_inj hedges, ?_⟩
  rw [← hvisited] at hnodes
  intro id hid
  exact (Prod.mk.inj (List.map_inj_left.mp hnodes id hid)).2

/-- **The exports of a traversal agree.** Read back, its DOT text and its JSON text give the same
drawing; and two traversals have the same DOT text exactly if they visited the same nodes, walked
along the same edges, and started at the same of these nodes. -/
theorem exports_agree (g : CallGraph) (t : Traversal) (options : Options) :
    readDot (dotText t options) = some (Plot.ofTraversal t options) ∧
      (readJson (jsonText g t options)).bind Json.plot? = some (Plot.ofTraversal t options) ∧
      ∀ t' : Traversal, dotText t options = dotText t' options ↔
        t.visited = t'.visited ∧ t.edges = t'.edges ∧
          ∀ id ∈ t.visited.elems, t.isStart id = t'.isStart id := by
  refine ⟨readDot_dotText t options, ?_, fun t' => ⟨fun htext => ?_, ?_⟩⟩
  · rw [jsonText, readJson_render, Option.bind_some, plot?_graphJson]
  · have hread := readDot_dotText t options
    rw [htext, readDot_dotText t' options] at hread
    exact eq_of_plot_eq (Option.some.inj hread).symm
  · rintro ⟨hvisited, hedges, hstart⟩
    exact dotText_congr hvisited hedges hstart

end PerlCalls.Export

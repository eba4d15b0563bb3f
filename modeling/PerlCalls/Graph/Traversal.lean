import PerlCalls.Graph.CallGraph

/-! The part of a call graph around its start nodes.

From each start node one walk goes up to its callers, their callers and so on, and one goes down to
its callees. All walks share one set of visited nodes: a node met before is not walked from again,
a start node excepted, from which both walks always set out. The edges walked along are kept, seen
from caller to callee. -/
namespace PerlCalls.Graph

inductive Direction where
  | up
  | down
deriving DecidableEq

/-- The index that a walk follows. -/
def CallGraph.index (g : CallGraph) : Direction → Adjacency
  | .up => g.invokedBy
  | .down => g.invokes

/-- The edge between a node and a neighbour found in a direction. -/
def Direction.edge (d : Direction) (node neighbour : NodeId) : Edge :=
  match d with
  | .up => ⟨neighbour, node⟩
  | .down => ⟨node, neighbour⟩

/-- What the walks have come by. -/
structure Reached where
  visited : SortedSet NodeId := SortedMap.empty
  edges : SortedSet Edge := SortedMap.empty

/-- The targets of an index that are not visited yet. -/
def unvisited (m : Adjacency) (visited : SortedSet NodeId) : List NodeId :=
  m.targets.filter (fun n => !visited.contains n)

theorem mem_targets_of_mem_neighbours {m : Adjacency} {node n : NodeId}
    (h : n ∈ m.neighbours node) : n ∈ m.targets := by
  simp only [Adjacency.neighbours] at h
  split at h
  · rename_i inner hfind
    refine List.mem_flatMap.mpr ⟨inner, ?_, h⟩
    exact List.mem_map.mpr ⟨(node, inner), SortedMap.mem_entries_iff.mpr hfind, rfl⟩
  · cases h

theorem length_filter_lt {α : Type} {p q : α → Bool} {x : α} :
    {l : List α} → (∀ y, q y = true → p y = true) → x ∈ l → p x = true → q x = false →
      (l.filter q).length < (l.filter p).length
  | [], _, hx, _, _ => by cases hx
  | y :: l, himp, hx, hp, hq => by
    have hle : (l.filter q).length ≤ (l.filter p).length := by
      rw [← List.countP_eq_length_filter, ← List.countP_eq_length_filter]
      exact List.countP_mono_left (fun y _ h => himp y h)
    rcases List.mem_cons.mp hx with rfl | hx
    · simp only [List.filter_cons, hp, hq, if_true]
      exact Nat.lt_succ_of_le hle
    · have ih := length_filter_lt himp hx hp hq
      cases hqy : q y with
      | true => simp [hqy, himp y hqy, ih]
      | false =>
        cases hpy : p y with
        | true => simp only [List.filter_cons, hqy, hpy, if_true]; exact Nat.lt_succ_of_lt ih
        | false => simp [hqy, hpy, ih]

theorem unvisited_length_lt {m : Adjacency} {visited : SortedSet NodeId} {node n : NodeId}
    {fresh : List NodeId} (hn : n ∈ m.neighbours node) (hfresh : n ∈ fresh)
    (hnew : visited.contains n = false) :
    (unvisited m (visited.addAll fresh)).length < (unvisited m visited).length := by
  refine length_filter_lt (x := n) (fun y hy => ?_) (mem_targets_of_mem_neighbours hn) ?_ ?_
  · cases hv : visited.contains y with
    | false => rfl
    | true =>
      have hc := (SortedSet.contains_addAll visited y fresh).mpr (Or.inr hv)
      simp [hc] at hy
  · simp [hnew]
  · have hc := (SortedSet.contains_addAll visited n fresh).mpr (Or.inl hfresh)
    simp [hc]

/-- The neighbours of a node that the walk has not met. -/
def freshNeighbours (m : Adjacency) (visited : SortedSet NodeId) (node : NodeId) : List NodeId :=
  (m.neighbours node).filter (fun n => !visited.contains n)

/-- Walk from the pending nodes until no unvisited node is left to walk from. -/
def walk (m : Adjacency) (d : Direction) (pending : List NodeId) (r : Reached) : Reached :=
  match pending with
  | [] => r
  | node :: rest =>
    let fresh := freshNeighbours m r.visited node
    walk m d (fresh ++ rest)
      { visited := r.visited.addAll fresh
        edges := r.edges.addAll ((m.neighbours node).map (d.edge node)) }
termination_by ((unvisited m r.visited).length, pending.length)
decreasing_by
  cases hf : freshNeighbours m r.visited node with
  | nil =>
    apply Prod.Lex.right
    simp
  | cons n ns =>
    apply Prod.Lex.left
    have hmem : n ∈ freshNeighbours m r.visited node := by simp [hf]
    have hn := List.mem_filter.mp hmem
    exact unvisited_length_lt hn.1 (hf ▸ hmem) (by simpa using hn.2)

/-- All that a walk from `origin` in one direction adds. -/
def CallGraph.expand (g : CallGraph) (origin : NodeId) (d : Direction) (r : Reached) : Reached :=
  walk (g.index d) d [origin] r

/-- Both walks from one start node. -/
def CallGraph.expandStart (g : CallGraph) (r : Reached) (node : NodeId) : Reached :=
  g.expand node .down (g.expand node .up { r with visited := r.visited.add node })

/-- The start nodes, and the subgraph around them. -/
structure Traversal where
  starts : List NodeId := []
  visited : SortedSet NodeId := SortedMap.empty
  edges : SortedSet Edge := SortedMap.empty

def Traversal.isStart (t : Traversal) (node : NodeId) : Bool := t.starts.contains node

/-- A start node is listed once, at its first mention. -/
def Traversal.addStart (t : Traversal) (node : NodeId) : Traversal :=
  if t.isStart node then t else { t with starts := t.starts ++ [node] }

/-- The nodes that `selects` accepts, or without a selection the roots. -/
def CallGraph.startNodes (g : CallGraph) : Option (NodeId → Bool) → List NodeId
  | some selects => g.nodes.elems.filter selects
  | none => g.roots

/-- The traversal from the given nodes, in increasing order. -/
def CallGraph.traverse (g : CallGraph) (starts : List NodeId) : Traversal :=
  let sorted := (SortedSet.ofList starts).elems
  let reached := sorted.foldl g.expandStart {}
  { starts := sorted, visited := reached.visited, edges := reached.edges }

end PerlCalls.Graph

import Mathlib
import PerlCalls.Graph.Traversal
import PerlCalls.Proofs.Edges

/-! The two indexes of a graph say the same thing, one from each end of an edge.

`CallGraph.edgeList` lists the edges of an index. In a graph that holds a list of added edges, both
indexes list each pair that has been added, and list it once (`Holds.mem_edgeList_iff`,
`nodup_edgeList`), so they are of one size. `ofEdges_mirrored` collects what any sequence of
additions leaves behind. -/
namespace PerlCalls.Graph

namespace Adjacency

theorem neighbours_increase (m : Adjacency) (node : NodeId) :
    (m.neighbours node).Pairwise (· < ·) := by
  rw [neighbours]
  cases m.find? node with
  | none => exact List.Pairwise.nil
  | some inner => exact inner.keys_increase.imp compare_eq_lt_iff.mp

theorem length_targets (m : Adjacency) : m.targets.length = (m.values.map SortedMap.size).sum := by
  rw [targets, List.length_flatMap]
  congr 2
  funext inner
  exact List.length_map ..

end Adjacency

/-- The edges of the index that a walk follows. -/
def CallGraph.edgeList (g : CallGraph) (d : Direction) : List Edge :=
  (g.index d).entries.flatMap (fun entry => entry.2.keys.map (d.edge entry.1))

theorem Direction.edge_inj (d : Direction) {a b a' b' : NodeId} :
    d.edge a b = d.edge a' b' ↔ a = a' ∧ b = b' := by
  cases d <;> simp [Direction.edge, and_comm]

section Listed
variable (g : CallGraph) (d : Direction)

theorem length_edgeList : (g.edgeList d).length = (g.index d).targets.length := by
  rw [CallGraph.edgeList, Adjacency.targets, SortedMap.values, List.flatMap_map, List.length_flatMap,
    List.length_flatMap]
  simp only [List.length_map]

theorem mem_edgeList_iff {e : Edge} :
    e ∈ g.edgeList d ↔ ∃ a, ∃ b ∈ (g.index d).neighbours a, d.edge a b = e := by
  simp only [CallGraph.edgeList, List.mem_flatMap, List.mem_map, Prod.exists,
    SortedMap.mem_entries_iff]
  refine exists_congr fun a => ?_
  rw [Adjacency.neighbours]
  cases (g.index d).find? a <;> simp

/-- Different keys, and under each key different neighbours, make different edges. -/
theorem nodup_edgeList : (g.edgeList d).Nodup := by
  have hne : ∀ {a b : NodeId}, compare a b = .lt → a ≠ b := fun h => (compare_eq_lt_iff.mp h).ne
  refine List.nodup_flatMap.mpr ⟨fun entry _ => ?_, (g.index d).increasing.imp fun hlt => ?_⟩
  · have hkeys : entry.2.keys.Nodup := entry.2.keys_increase.imp hne
    exact hkeys.map fun b b' h => (d.edge_inj.mp h).2
  · intro e he he'
    obtain ⟨b, -, rfl⟩ := List.mem_map.mp he
    obtain ⟨b', -, h⟩ := List.mem_map.mp he'
    exact hne hlt (d.edge_inj.mp h).1.symm

end Listed

namespace Holds

variable {g : CallGraph} {es : List (Edge × Int)}

theorem mem_edgeList_iff (h : Holds g es) (d : Direction) (e : Edge) :
    e ∈ g.edgeList d ↔ Inserted es e.caller e.callee := by
  rw [Graph.mem_edgeList_iff]
  cases d with
  | up =>
    constructor
    · rintro ⟨b, a, ha, rfl⟩
      exact (h.mem_callers_iff a b).mp ha
    · exact fun he => ⟨e.callee, e.caller, (h.mem_callers_iff _ _).mpr he, rfl⟩
  | down =>
    constructor
    · rintro ⟨a, b, hb, rfl⟩
      exact (h.mem_callees_iff a b).mp hb
    · exact fun he => ⟨e.caller, e.callee, (h.mem_callees_iff _ _).mpr he, rfl⟩

/-- Either index has as many edges as different pairs have been added. -/
theorem length_targets (h : Holds g es) (d : Direction) :
    (g.index d).targets.length = (es.map Prod.fst).toFinset.card := by
  rw [← length_edgeList, ← List.toFinset_card_of_nodup (nodup_edgeList g d)]
  congr 1
  ext e
  simp [h.mem_edgeList_iff, Inserted]

/-- No key is left without a neighbour. -/
theorem index_nonempty (h : Holds g es) (d : Direction) {node : NodeId} {inner : SortedMap NodeId Int}
    (hfind : (g.index d).find? node = some inner) : inner.size ≠ 0 := by
  have hkey : (g.index d).contains node = true := by rw [SortedMap.contains, hfind]; rfl
  have hneighbour : ∃ b, b ∈ (g.index d).neighbours node := by
    cases d with
    | up => exact ((h.callee node).mp hkey).imp fun a ha => (h.mem_callers_iff a node).mpr ha
    | down => exact ((h.caller node).mp hkey).imp fun b hb => (h.mem_callees_iff node b).mpr hb
  obtain ⟨b, hb⟩ := hneighbour
  rw [Adjacency.neighbours, hfind] at hb
  have hpos : 0 < (inner.entries.map Prod.fst).length := List.length_pos_of_mem hb
  rw [List.length_map] at hpos
  exact hpos.ne'

theorem mem_nodes_iff_end (h : Holds g es) (n : NodeId) :
    g.nodes.contains n = true ↔ ∃ e ∈ es, n = e.1.caller ∨ n = e.1.callee := by
  rw [h.mem_nodes_iff]
  constructor
  · rintro (⟨b, w, he⟩ | ⟨a, w, he⟩)
    · exact ⟨_, he, Or.inl rfl⟩
    · exact ⟨_, he, Or.inr rfl⟩
  · rintro ⟨⟨e, w⟩, he, rfl | rfl⟩
    · exact Or.inl ⟨e.callee, w, he⟩
    · exact Or.inr ⟨e.caller, w, he⟩

/-- The roots are the nodes that have never been added as a callee. -/
theorem mem_roots_iff_node (h : Holds g es) (n : NodeId) :
    n ∈ g.roots ↔ g.nodes.contains n = true ∧ ∀ a, ¬Inserted es a n := by
  rw [CallGraph.roots, List.mem_filter, SortedSet.mem_elems_iff, List.isEmpty_iff,
    List.eq_nil_iff_forall_not_mem]
  simp only [h.mem_callers_iff]

end Holds

/-- What a graph tells after the edges of a list have been added to an empty one. -/
structure Mirrored (g : CallGraph) (es : List (Edge × Int)) : Prop where
  /-- Under a pair stands the sum of all weights that have been added for it, if there are any. -/
  weight : ∀ a b w, g.invokes.weight? a b = some w ↔
    Inserted es a b ∧ w = ((es.filter (fun e => e.1 = ⟨a, b⟩)).map Prod.snd).sum
  mirror : ∀ a b w, g.invokes.weight? a b = some w ↔ g.invokedBy.weight? b a = some w
  nonempty : ∀ d node inner, (g.index d).find? node = some inner → inner.size ≠ 0
  edgeCount : g.edgeCount = (es.map Prod.fst).toFinset.card
  edgeCount_mirror : g.edgeCount = (g.invokedBy.values.map SortedMap.size).sum
  nodes : ∀ n, g.nodes.contains n = true ↔ ∃ e ∈ es, n = e.1.caller ∨ n = e.1.callee
  callers : ∀ n, (g.callers n).Pairwise (· < ·) ∧ ∀ a, a ∈ g.callers n ↔ Inserted es a n
  callees : ∀ n, (g.callees n).Pairwise (· < ·) ∧ ∀ b, b ∈ g.callees n ↔ Inserted es n b
  roots : g.roots.Pairwise (· < ·) ∧
    ∀ n, n ∈ g.roots ↔ g.nodes.contains n = true ∧ ∀ a, ¬Inserted es a n

/-- **The two indexes mirror each other after any sequence of additions**, with any nodes and any
weights, and all that the graph answers can be read off the sequence. -/
theorem ofEdges_mirrored (es : List (Edge × Int)) : Mirrored (CallGraph.ofEdges es) es := by
  have h : Holds (CallGraph.ofEdges es) es := Holds.ofEdges es
  have hweight : ∀ a b w, (CallGraph.ofEdges es).invokes.weight? a b = some w ↔
      Inserted es a b ∧ w = ((es.filter (fun e => e.1 = ⟨a, b⟩)).map Prod.snd).sum := by
    intro a b w
    rw [h.forward, inserted_iff_sumOf?, exists_sumOf?_iff, sumOf?]
    by_cases hex : ∃ e ∈ es, e.1 = ⟨a, b⟩
    · simp [hex, eq_comm]
    · simp [hex]
  exact {
    weight := hweight
    mirror := fun a b w => by rw [h.forward, h.backward]
    nonempty := fun d _ _ hfind => h.index_nonempty d hfind
    edgeCount := h.length_targets .down
    edgeCount_mirror := by
      rw [← Adjacency.length_targets]
      exact (h.length_targets .down).trans (h.length_targets .up).symm
    nodes := h.mem_nodes_iff_end
    callers := fun n => ⟨Adjacency.neighbours_increase _ n, fun a => h.mem_callers_iff a n⟩
    callees := fun n => ⟨Adjacency.neighbours_increase _ n, h.mem_callees_iff n⟩
    roots := ⟨((SortedSet.elems_increase _).imp compare_eq_lt_iff.mp).filter _, h.mem_roots_iff_node⟩ }

end PerlCalls.Graph

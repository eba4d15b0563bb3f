import Mathlib
import PerlCalls.Graph.CallGraph
import PerlCalls.Proofs.Maps

/-! What the two indexes of a graph hold after any number of edges have been added.

`Holds g es` says that `g` knows exactly the edges of the list `es`: under each pair, in both
indexes, the sum of the weights added for it, and no key besides. Adding an edge to the graph adds
it to the list (`Holds.addEdge`), so a graph made of edges holds them (`Holds.ofEdges`). What the
graph answers about neighbours, nodes and roots follows from the list alone. -/
namespace PerlCalls.Graph

namespace Adjacency

theorem weight?_add (m : Adjacency) (s t a b : NodeId) (w : Int) :
    (m.add s t w).weight? a b =
      if a = s ∧ b = t then some ((m.weight? s t).getD 0 + w) else m.weight? a b := by
  simp only [weight?, add, SortedMap.find?_alter]
  by_cases ha : a = s
  · subst ha
    simp only [if_true, Option.bind_some, SortedMap.find?_alter, true_and]
    cases m.find? a <;> simp
  · simp [ha]

theorem contains_add (m : Adjacency) (s t a : NodeId) (w : Int) :
    (m.add s t w).contains a = true ↔ a = s ∨ m.contains a = true := by
  simp only [SortedMap.contains, add, SortedMap.find?_alter]
  by_cases ha : a = s <;> simp [ha]

theorem mem_neighbours_iff (m : Adjacency) (a b : NodeId) :
    b ∈ m.neighbours a ↔ ∃ w, m.weight? a b = some w := by
  simp only [neighbours, weight?]
  cases m.find? a with
  | none => simp
  | some inner => exact SortedMap.mem_keys_iff

end Adjacency

/-- The graph of a list of weighted edges, added in order. -/
def CallGraph.ofEdges (es : List (Edge × Int)) : CallGraph :=
  es.foldl (fun g e => g.addEdge e.1.caller e.1.callee e.2) {}

/-- An edge has been added from `a` to `b`, with whatever weight. -/
def Inserted (es : List (Edge × Int)) (a b : NodeId) : Prop := ∃ w, (⟨a, b⟩, w) ∈ es

theorem inserted_iff_sumOf? (es : List (Edge × Int)) (a b : NodeId) :
    Inserted es a b ↔ ∃ w, sumOf? es (fun e => e.1 = ⟨a, b⟩) Prod.snd = some w := by
  rw [exists_sumOf?_iff]
  constructor
  · rintro ⟨w, hw⟩
    exact ⟨_, hw, rfl⟩
  · rintro ⟨⟨e, w⟩, he, rfl⟩
    exact ⟨w, he⟩

/-- The graph holds exactly the edges of the list. -/
structure Holds (g : CallGraph) (es : List (Edge × Int)) : Prop where
  forward : ∀ a b, g.invokes.weight? a b = sumOf? es (fun e => e.1 = ⟨a, b⟩) Prod.snd
  backward : ∀ a b, g.invokedBy.weight? b a = sumOf? es (fun e => e.1 = ⟨a, b⟩) Prod.snd
  caller : ∀ a, g.invokes.contains a = true ↔ ∃ b, Inserted es a b
  callee : ∀ b, g.invokedBy.contains b = true ↔ ∃ a, Inserted es a b

namespace Holds

theorem nil : Holds {} [] where
  forward _ _ := (sumOf?_nil ..).symm
  backward _ _ := (sumOf?_nil ..).symm
  caller _ := by simp [SortedMap.contains, Inserted]
  callee _ := by simp [SortedMap.contains, Inserted]

variable {g g' : CallGraph} {es : List (Edge × Int)}

/-- Nothing but the two indexes matters. -/
theorem of_indexes (h : Holds g es) (hforward : g'.invokes = g.invokes)
    (hbackward : g'.invokedBy = g.invokedBy) : Holds g' es where
  forward a b := by rw [hforward, h.forward]
  backward a b := by rw [hbackward, h.backward]
  caller a := by rw [hforward, h.caller]
  callee b := by rw [hbackward, h.callee]

theorem inserted_concat (es : List (Edge × Int)) (e : Edge) (w : Int) (a b : NodeId) :
    Inserted (es ++ [(e, w)]) a b ↔ e = ⟨a, b⟩ ∨ Inserted es a b := by
  simp only [Inserted, List.mem_append, List.mem_singleton, Prod.mk.injEq]
  constructor
  · rintro ⟨v, hv | ⟨rfl, -⟩⟩
    · exact Or.inr ⟨v, hv⟩
    · exact Or.inl rfl
  · rintro (rfl | ⟨v, hv⟩)
    · exact ⟨w, Or.inr ⟨rfl, rfl⟩⟩
    · exact ⟨v, Or.inl hv⟩

theorem addEdge (h : Holds g es) (e : Edge) (w : Int) :
    Holds (g.addEdge e.caller e.callee w) (es ++ [(e, w)]) where
  forward a b := by
    show (g.invokes.add e.caller e.callee w).weight? a b = _
    rw [Adjacency.weight?_add, sumOf?_concat]
    by_cases he : e = ⟨a, b⟩
    · subst he
      simp [h.forward]
    · have hne : ¬(a = e.caller ∧ b = e.callee) := by
        rintro ⟨rfl, rfl⟩
        exact he rfl
      rw [if_neg hne, if_neg he, h.forward]
  backward a b := by
    show (g.invokedBy.add e.callee e.caller w).weight? b a = _
    rw [Adjacency.weight?_add, sumOf?_concat]
    by_cases he : e = ⟨a, b⟩
    · subst he
      simp [h.backward]
    · have hne : ¬(b = e.callee ∧ a = e.caller) := by
        rintro ⟨rfl, rfl⟩
        exact he rfl
      rw [if_neg hne, if_neg he, h.backward]
  caller a := by
    show (g.invokes.add e.caller e.callee w).contains a = true ↔ _
    rw [Adjacency.contains_add, h.caller]
    simp only [inserted_concat, exists_or]
    refine or_congr_left ⟨?_, ?_⟩
    · rintro rfl
      exact ⟨e.callee, rfl⟩
    · rintro ⟨b, rfl⟩
      rfl
  callee b := by
    show (g.invokedBy.add e.callee e.caller w).contains b = true ↔ _
    rw [Adjacency.contains_add, h.callee]
    simp only [inserted_concat, exists_or]
    refine or_congr_left ⟨?_, ?_⟩
    · rintro rfl
      exact ⟨e.caller, rfl⟩
    · rintro ⟨a, rfl⟩
      rfl

theorem ofEdges (es : List (Edge × Int)) : Holds (CallGraph.ofEdges es) es := by
  induction es using List.reverseRecOn with
  | nil => exact nil
  | append_singleton es e ih =>
    rw [CallGraph.ofEdges, List.foldl_concat, ← CallGraph.ofEdges]
    exact ih.addEdge e.1 e.2

/-! ### What the graph answers -/

theorem mem_callees_iff (h : Holds g es) (a b : NodeId) : b ∈ g.callees a ↔ Inserted es a b := by
  rw [CallGraph.callees, Adjacency.mem_neighbours_iff, h.forward, inserted_iff_sumOf?]

theorem mem_callers_iff (h : Holds g es) (a b : NodeId) : a ∈ g.callers b ↔ Inserted es a b := by
  rw [CallGraph.callers, Adjacency.mem_neighbours_iff, h.backward, inserted_iff_sumOf?]

/-- The nodes are the ends of the edges. -/
theorem mem_nodes_iff (h : Holds g es) (n : NodeId) :
    g.nodes.contains n = true ↔ (∃ b, Inserted es n b) ∨ ∃ a, Inserted es a n := by
  rw [CallGraph.nodes, SortedSet.contains_addAll, ← SortedSet.mem_elems_iff,
    SortedSet.mem_elems_ofList, ← SortedMap.contains_iff_mem_keys, ← SortedMap.contains_iff_mem_keys,
    h.caller, h.callee, or_comm]

theorem mem_roots_iff (h : Holds g es) (n : NodeId) :
    n ∈ g.roots ↔ (∃ b, Inserted es n b) ∧ ∀ a, ¬Inserted es a n := by
  rw [CallGraph.roots, List.mem_filter, SortedSet.mem_elems_iff, h.mem_nodes_iff,
    List.isEmpty_iff, List.eq_nil_iff_forall_not_mem]
  simp only [h.mem_callers_iff]
  constructor
  · rintro ⟨hout | ⟨a, hin⟩, hnone⟩
    · exact ⟨hout, hnone⟩
    · exact absurd hin (hnone a)
  · rintro ⟨hout, hnone⟩
    exact ⟨Or.inl hout, hnone⟩

end Holds

end PerlCalls.Graph

import Mathlib
import PerlCalls.Proofs.Expansion

/-! The traversal without a selection: everything below the roots.

A root has no callers, so its upward walk adds nothing (`expand_up_of_root`). Its downward walk stops
at nodes that an earlier root has led to; all that lies below those has been visited as well, so
nothing is missed (`Below.expandStart`). `traverse_roots` puts the roots together. -/
namespace PerlCalls.Graph

variable {g : CallGraph} {es : List (Edge × Int)}

theorem mem_starts_traverse (g : CallGraph) (starts : List NodeId) (n : NodeId) :
    n ∈ (g.traverse starts).starts ↔ n ∈ starts :=
  SortedSet.mem_elems_ofList starts n

theorem starts_traverse_increase (g : CallGraph) (starts : List NodeId) :
    (g.traverse starts).starts.Pairwise (· < ·) :=
  (SortedSet.elems_increase _).imp compare_eq_lt_iff.mp

/-- A walk up from a node without callers adds nothing. -/
theorem expand_up_of_root {n : NodeId} (hroot : g.callers n = []) (r : Reached) :
    g.expand n .up r = r := by
  have hnone : g.invokedBy.neighbours n = [] := hroot
  rw [CallGraph.expand, walk]
  simp only [CallGraph.index, freshNeighbours, hnone, List.filter_nil, List.map_nil, List.nil_append]
  rw [walk]
  rfl

/-- Where all that lies below a visited node is visited, a walk down from `s` leads to all that lies
below `s`. -/
theorem visited_expand_down (hg : Holds g es) {r : Reached}
    (hclosed : ∀ a b, r.visited.contains a = true → Inserted es a b → r.visited.contains b = true)
    (s n : NodeId) :
    (g.expand s .down { r with visited := r.visited.add s }).visited.contains n = true ↔
      Relation.ReflTransGen (Inserted es) s n ∨ r.visited.contains n = true := by
  have hdown : ∀ a b, r.visited.contains a = true → b ∈ (g.index .down).neighbours a →
      r.visited.contains b = true :=
    fun a b ha hb => hclosed a b ha ((hg.mem_callees_iff a b).mp hb)
  rw [visited_expand_closed hdown, hg.leads_down_iff]

/-- A walk down from `s` goes along the edges from `s` and from the nodes it adds. -/
theorem edges_expand_down (hg : Holds g es) (r : Reached) (s : NodeId) (e : Edge) :
    (g.expand s .down { r with visited := r.visited.add s }).edges.contains e = true ↔
      r.edges.contains e = true ∨ Inserted es e.caller e.callee ∧ (e.caller = s ∨
        (g.expand s .down { r with visited := r.visited.add s }).visited.contains e.caller = true ∧
          r.visited.contains e.caller = false) := by
  rw [CallGraph.expand, edges_walk]
  refine or_congr_right ⟨?_, ?_⟩
  · rintro ⟨k, hk, b, hb, rfl⟩
    refine ⟨(hg.mem_callees_iff k b).mp hb, ?_⟩
    rcases hk with hk | ⟨hk, hnew⟩
    · exact Or.inl (List.mem_singleton.mp hk)
    · rw [SortedSet.contains_add, Bool.or_eq_false_iff] at hnew
      exact Or.inr ⟨hk, hnew.2⟩
  · rintro ⟨hedge, hcaller⟩
    refine ⟨e.caller, ?_, e.callee, (hg.mem_callees_iff _ _).mpr hedge, rfl⟩
    by_cases hs : e.caller = s
    · exact Or.inl (List.mem_singleton.mpr hs)
    · obtain ⟨hk, hnew⟩ := hcaller.resolve_left hs
      refine Or.inr ⟨hk, ?_⟩
      rw [SortedSet.contains_add, Bool.or_eq_false_iff]
      exact ⟨decide_eq_false hs, hnew⟩

/-! ### From root to root -/

/-- What has been reached is all that lies below the starts, with every edge that leaves it. -/
structure Below (es : List (Edge × Int)) (starts : List NodeId) (r : Reached) : Prop where
  visited : ∀ n, r.visited.contains n = true ↔
    ∃ s ∈ starts, Relation.ReflTransGen (Inserted es) s n
  edges : ∀ e : Edge, r.edges.contains e = true ↔
    Inserted es e.caller e.callee ∧ r.visited.contains e.caller = true

namespace Below

theorem nil (es : List (Edge × Int)) : Below es [] {} where
  visited _ := by simp [SortedMap.contains]
  edges _ := by simp [SortedMap.contains]

theorem closed {starts : List NodeId} {r : Reached} (h : Below es starts r) (a b : NodeId)
    (ha : r.visited.contains a = true) (hab : Inserted es a b) : r.visited.contains b = true := by
  obtain ⟨s, hs, hpath⟩ := (h.visited a).mp ha
  exact (h.visited b).mpr ⟨s, hs, hpath.tail hab⟩

/-- A root adds all that lies below it, whatever of that has been visited before. -/
theorem expandStart (hg : Holds g es) {starts : List NodeId} {r : Reached} (h : Below es starts r)
    {s : NodeId} (hroot : g.callers s = []) : Below es (starts ++ [s]) (g.expandStart r s) := by
  rw [CallGraph.expandStart, expand_up_of_root hroot]
  have hvisited := visited_expand_down hg h.closed s
  constructor
  · intro n
    rw [hvisited, h.visited, or_comm]
    simp only [List.mem_append, List.mem_singleton, or_and_right, exists_or, exists_eq_left]
  · intro e
    rw [edges_expand_down hg, h.edges, hvisited, ← and_or_left]
    refine and_congr_right fun _ => ?_
    constructor
    · rintro (hold | rfl | ⟨hreached, -⟩)
      · exact Or.inr hold
      · exact Or.inl .refl
      · exact hreached
    · intro hreached
      by_cases hold : r.visited.contains e.caller = true
      · exact Or.inl hold
      · exact Or.inr (Or.inr ⟨hreached, Bool.not_eq_true _ ▸ hold⟩)

theorem foldl_expandStart (hg : Holds g es) (roots : List NodeId)
    (hroots : ∀ s ∈ roots, g.callers s = []) : Below es roots (roots.foldl g.expandStart {}) := by
  induction roots using List.reverseRecOn with
  | nil => exact nil es
  | append_singleton roots s ih =>
    rw [List.foldl_concat]
    have hbefore := ih fun s' hs' => hroots s' (List.mem_append_left _ hs')
    exact hbefore.expandStart hg (hroots s (List.mem_append_right _ (List.mem_singleton.mpr rfl)))

end Below

/-- **Without a selection the traversal is exactly what lies below the roots.** Its starts are the
nodes without a caller, in increasing order; it visits the nodes that calls lead to from one of them,
in any number of steps; it keeps every edge whose caller it visits. -/
theorem traverse_roots (es : List (Edge × Int)) :
    let g := CallGraph.ofEdges es
    let t := g.traverse (g.startNodes none)
    t.starts.Pairwise (· < ·) ∧
      (∀ n, n ∈ t.starts ↔ g.nodes.contains n = true ∧ ∀ a, ¬Inserted es a n) ∧
      (∀ n, t.visited.contains n = true ↔
        ∃ s ∈ t.starts, Relation.ReflTransGen (Inserted es) s n) ∧
      ∀ e : Edge, t.edges.contains e = true ↔
        Inserted es e.caller e.callee ∧ t.visited.contains e.caller = true := by
  intro g t
  have hg : Holds g es := Holds.ofEdges es
  have hroots : ∀ n, n ∈ t.starts ↔ n ∈ g.roots := mem_starts_traverse g g.roots
  have hbelow : Below es t.starts (t.starts.foldl g.expandStart {}) := by
    refine Below.foldl_expandStart hg t.starts fun s hs => ?_
    have hnone := ((hg.mem_roots_iff s).mp ((hroots s).mp hs)).2
    exact List.eq_nil_iff_forall_not_mem.mpr fun a ha => hnone a ((hg.mem_callers_iff a s).mp ha)
  refine ⟨starts_traverse_increase g g.roots, fun n => ?_, hbelow.visited, hbelow.edges⟩
  rw [hroots, hg.mem_roots_iff, hg.mem_nodes_iff]
  constructor
  · rintro ⟨hout, hnone⟩
    exact ⟨Or.inl hout, hnone⟩
  · rintro ⟨hout | ⟨a, hin⟩, hnone⟩
    · exact ⟨hout, hnone⟩
    · exact absurd hin (hnone a)

end PerlCalls.Graph

import Mathlib
import PerlCalls.Proofs.Surroundings

/-! The traversal from a single start node.

The walk up comes first and finds nothing in its way, so it visits all that lies above the start and
keeps every edge that leads there (`visited_up`, `edges_up`). The walk down then stops at the nodes above
the start: it visits what paths of calls lead to that have no inner node there (`freshPath_iff`). Only
where the start lies on a cycle is there such a node on a path from it (`outside_of_acyclic`).
`traverse_single` says what both walks leave behind. -/
namespace PerlCalls.Graph

/-- An edge of the graph leads from `a` to `b`. -/
def CallGraph.Calls (g : CallGraph) (a b : NodeId) : Prop := b ∈ g.callees a

/-- The nodes from which calls lead to `s`, itself included. -/
def CallGraph.above (g : CallGraph) (s : NodeId) : Set NodeId :=
  {n | Relation.ReflTransGen g.Calls n s}

/-- A path of calls leads from `a` to `b`, all of whose inner nodes lie outside `avoided`. -/
def CallGraph.ReachesOutside (g : CallGraph) (avoided : Set NodeId) (a b : NodeId) : Prop :=
  ∃ inner : List NodeId, (a :: (inner ++ [b])).IsChain g.Calls ∧ ∀ k ∈ inner, k ∉ avoided

variable {g : CallGraph} {avoided : Set NodeId} {a b k s n : NodeId}

/-! ### Paths with inner nodes -/

namespace CallGraph.ReachesOutside

theorem single (h : g.Calls a b) : g.ReachesOutside avoided a b :=
  ⟨[], List.isChain_pair.mpr h, fun _ hk => absurd hk List.not_mem_nil⟩

theorem tail (h : g.ReachesOutside avoided a k) (hk : k ∉ avoided) (hkb : g.Calls k b) :
    g.ReachesOutside avoided a b := by
  obtain ⟨inner, hchain, hinner⟩ := h
  refine ⟨inner ++ [k], ?_, fun j hj => ?_⟩
  · rw [List.append_assoc, List.singleton_append, List.isChain_cons_append_cons_cons]
    exact ⟨hchain, hkb, List.isChain_singleton b⟩
  · rcases List.mem_append.mp hj with hj | hj
    · exact hinner j hj
    · exact List.mem_singleton.mp hj ▸ hk

theorem transGen (h : g.ReachesOutside avoided a b) : Relation.TransGen g.Calls a b := by
  obtain ⟨inner, hchain, -⟩ := h
  induction inner generalizing a with
  | nil => exact .single (List.isChain_pair.mp hchain)
  | cons k inner ih =>
    obtain ⟨hak, hrest⟩ := List.isChain_cons_cons.mp hchain
    exact .head hak (ih hrest)

end CallGraph.ReachesOutside

/-- A walk that has visited what is to be avoided takes the paths without inner nodes there. -/
theorem freshPath_iff {visited : SortedSet NodeId}
    (hvisited : ∀ k, visited.contains k = true ↔ k ∈ avoided) :
    FreshPath g.invokes visited a b ↔ b ∉ avoided ∧ g.ReachesOutside avoided a b := by
  have hfresh : ∀ k, visited.contains k = false ↔ k ∉ avoided := fun k => by
    rw [← hvisited, Bool.not_eq_true]
  constructor
  · intro h
    refine ⟨(hfresh b).mp h.unvisited, ?_⟩
    induction h with
    | single hstep => exact .single hstep.1
    | @tail k b hk hstep ih => exact ih.tail ((hfresh k).mp (FreshPath.unvisited hk)) hstep.1
  · rintro ⟨hb, inner, hchain, hinner⟩
    induction inner generalizing a with
    | nil => exact .single ⟨List.isChain_pair.mp hchain, (hfresh b).mpr hb⟩
    | cons k inner ih =>
      obtain ⟨hak, hrest⟩ := List.isChain_cons_cons.mp hchain
      have hk := (hfresh k).mpr (hinner k (List.mem_cons_self ..))
      exact .head ⟨hak, hk⟩ (ih hrest fun j hj => hinner j (List.mem_cons_of_mem _ hj))

/-! ### The walks -/

/-- The end of an edge from which a walk goes along it. -/
def Direction.origin : Direction → Edge → NodeId
  | .up, e => e.callee
  | .down, e => e.caller

namespace CallGraph.IsMirrored

theorem leads_up_iff (hg : g.IsMirrored) : g.Leads .up s n ↔ n ∈ g.above s := by
  have hstep : (fun a b => b ∈ (g.index .up).neighbours a) = Function.swap g.Calls :=
    funext₂ fun a b => propext (hg b a).symm
  rw [CallGraph.Leads, hstep, Relation.reflTransGen_swap]
  rfl

theorem mem_neighbours_iff (hg : g.IsMirrored) (d : Direction) (e : Edge) (p : NodeId → Prop) :
    (∃ k, p k ∧ ∃ b ∈ (g.index d).neighbours k, d.edge k b = e) ↔
      g.Calls e.caller e.callee ∧ p (d.origin e) := by
  constructor
  · rintro ⟨k, hk, b, hb, rfl⟩
    exact ⟨hg.calls hb, by cases d <;> exact hk⟩
  · rintro ⟨hcalls, hk⟩
    cases d with
    | up => exact ⟨e.callee, hk, e.caller, (hg e.caller e.callee).mp hcalls, rfl⟩
    | down => exact ⟨e.caller, hk, e.callee, hcalls, rfl⟩

/-- A walk goes along the edges of the graph from its origin and from the nodes it adds. -/
theorem edges_expand (hg : g.IsMirrored) (d : Direction) (s : NodeId) (r : Reached) (e : Edge) :
    (g.expand s d r).edges.contains e = true ↔ r.edges.contains e = true ∨
      g.Calls e.caller e.callee ∧ (d.origin e = s ∨
        (g.expand s d r).visited.contains (d.origin e) = true ∧
          r.visited.contains (d.origin e) = false) := by
  rw [CallGraph.expand, edges_walk, hg.mem_neighbours_iff d e, List.mem_singleton]

/-- The first walk up visits all that lies above its start. -/
theorem visited_up (hg : g.IsMirrored) (s n : NodeId) :
    (g.expand s .up { visited := SortedSet.add SortedMap.empty s }).visited.contains n = true ↔
      n ∈ g.above s := by
  have hnone : ∀ k, ({} : Reached).visited.contains k ≠ true := by simp [SortedMap.contains]
  rw [← hg.leads_up_iff]
  exact (visited_expand_closed (r := {}) (fun a _ ha => absurd ha (hnone a)) s n).trans
    (or_iff_left (hnone n))

/-- It keeps all edges that lead there. -/
theorem edges_up (hg : g.IsMirrored) (s : NodeId) (e : Edge) :
    (g.expand s .up { visited := SortedSet.add SortedMap.empty s }).edges.contains e = true ↔
      g.Calls e.caller e.callee ∧ e.callee ∈ g.above s := by
  have hnone : ¬({} : Reached).edges.contains e = true := by simp [SortedMap.contains]
  have hnew : (SortedSet.add SortedMap.empty s).contains e.callee = false ↔ e.callee ≠ s := by
    rw [SortedSet.contains_add]
    simp [SortedMap.contains]
  rw [hg.edges_expand, or_iff_right hnone]
  refine and_congr_right fun _ => ?_
  show e.callee = s ∨ _ ∧ (SortedSet.add SortedMap.empty s).contains e.callee = false ↔ _
  rw [hnew]
  constructor
  · rintro (rfl | ⟨hreached, -⟩)
    · exact .refl
    · exact (hg.visited_up s _).mp hreached
  · intro habove
    by_cases hs : e.callee = s
    · exact Or.inl hs
    · exact Or.inr ⟨(hg.visited_up s _).mpr habove, hs⟩

end CallGraph.IsMirrored

/-! ### Both walks -/

/-- From a start on no cycle no path of calls goes through a node above it. -/
theorem outside_of_acyclic (hacyclic : ¬Relation.TransGen g.Calls s s)
    (h : Relation.TransGen g.Calls s n) : g.ReachesOutside (g.above s) s n := by
  induction h with
  | single hcalls => exact .single hcalls
  | @tail k n hk hcalls ih => exact ih.tail (fun habove => hacyclic (hk.trans_left habove)) hcalls

theorem mem_above_iff : n ∈ g.above s ↔ n = s ∨ Relation.TransGen g.Calls n s := by
  show Relation.ReflTransGen g.Calls n s ↔ _
  rw [Relation.reflTransGen_iff_eq_or_transGen, eq_comm]

/-- **A single start visits all that lies above it, and below it what can be reached without going
through what lies above.** The edges are those that lead to a node above the start, and those that leave
the start or a visited node not above it. On a cycle the walk up takes nodes away from the walk down;
where the start lies on no cycle, all its callers and callees are visited, direct and indirect. -/
theorem traverse_single (g : CallGraph) (hg : g.IsMirrored) (s : NodeId) :
    let t := g.traverse [s]
    (∀ n, t.visited.contains n = true ↔ n ∈ g.above s ∨ g.ReachesOutside (g.above s) s n) ∧
      (∀ e, t.edges.contains e = true ↔ g.Calls e.caller e.callee ∧
        (e.callee ∈ g.above s ∨
          e.caller = s ∨ t.visited.contains e.caller = true ∧ e.caller ∉ g.above s)) ∧
      (¬Relation.TransGen g.Calls s s → ∀ n, t.visited.contains n = true ↔
        n = s ∨ Relation.TransGen g.Calls n s ∨ Relation.TransGen g.Calls s n) := by
  intro t
  let r := g.expand s .up { visited := SortedSet.add SortedMap.empty s }
  have ht : t.visited = (g.expand s .down r).visited ∧ t.edges = (g.expand s .down r).edges := ⟨rfl, rfl⟩
  have habove : ∀ n, r.visited.contains n = true ↔ n ∈ g.above s := hg.visited_up s
  have hvisited : ∀ n, t.visited.contains n = true ↔
      n ∈ g.above s ∨ g.ReachesOutside (g.above s) s n := by
    intro n
    rw [ht.1, CallGraph.expand, visited_walk, habove]
    simp only [List.mem_singleton, exists_eq_left]
    rw [show (g.index .down) = g.invokes from rfl, freshPath_iff habove]
    tauto
  refine ⟨hvisited, fun e => ?_, fun hacyclic n => ?_⟩
  · rw [ht.2, hg.edges_expand, hg.edges_up, ← and_or_left, ← ht.1]
    refine and_congr_right fun _ => or_congr_right (or_congr_right (and_congr_right fun _ => ?_))
    show r.visited.contains e.caller = false ↔ _
    rw [← habove, Bool.not_eq_true]
  · rw [hvisited, mem_above_iff, or_assoc]
    exact or_congr_right (or_congr_right ⟨CallGraph.ReachesOutside.transGen, outside_of_acyclic hacyclic⟩)

/-- On a cycle the walk down is cut short: `c` lies below `a`, but only behind `b`, which also lies above
`a`. From `c`, on no cycle, all its callers are visited. -/
theorem traverse_single_crossingCalls :
    let g := CallGraph.ofEdges crossingCalls
    g.IsMirrored ∧ (Relation.TransGen g.Calls "a" "c" ∧ ¬g.ReachesOutside (g.above "a") "a" "c") ∧
      (¬Relation.TransGen g.Calls "c" "c" ∧ ∀ n, (g.traverse ["c"]).visited.contains n = true ↔
        n = "c" ∨ Relation.TransGen g.Calls n "c" ∨ Relation.TransGen g.Calls "c" n) := by
  intro g
  have hg : g.IsMirrored := (Holds.ofEdges crossingCalls).isMirrored
  have hcut : (g.traverse ["a"]).visited.contains "c" = false := by cbv
  have hab : "b" ∈ g.callees "a" := by decide +kernel
  have hbc : "c" ∈ g.callees "b" := by decide +kernel
  have hlast : ∀ n, ¬g.Calls "c" n := by
    intro n hn
    have hnone : g.callees "c" = [] := by decide +kernel
    rw [CallGraph.Calls, hnone] at hn
    cases hn
  have hacyclic : ¬Relation.TransGen g.Calls "c" "c" := fun h => by
    obtain ⟨n, hn, -⟩ := Relation.TransGen.head'_iff.mp h
    exact hlast n hn
  obtain ⟨hvisited, -⟩ := traverse_single g hg "a"
  obtain ⟨-, -, hall⟩ := traverse_single g hg "c"
  refine ⟨hg, ⟨.tail (.single hab) hbc, fun hreaches => ?_⟩, hacyclic, hall hacyclic⟩
  exact Bool.false_ne_true (hcut.symm.trans ((hvisited "c").mpr (Or.inr hreaches)))

end PerlCalls.Graph

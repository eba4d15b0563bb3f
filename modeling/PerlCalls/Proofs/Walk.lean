import Mathlib
import PerlCalls.Graph.Traversal
import PerlCalls.Proofs.Maps

/-! What a walk reaches.

A walk that starts from pending nodes with some nodes already visited adds exactly the nodes that
lie at the end of a path from a pending node, of at least one step, that meets no visited node after
its beginning (`visited_walk`). It walks along exactly the edges from the pending nodes and from the
nodes it adds (`edges_walk`). Both hold of any index, any set of visited nodes and any set of edges
to begin with, so nothing depends on the order in which neighbours are taken. -/
namespace PerlCalls.Graph

/-- A step of a walk to a node that has not been visited. -/
def FreshStep (m : Adjacency) (visited : SortedSet NodeId) (a b : NodeId) : Prop :=
  b ∈ m.neighbours a ∧ visited.contains b = false

/-- A path of fresh steps, at least one. -/
abbrev FreshPath (m : Adjacency) (visited : SortedSet NodeId) : NodeId → NodeId → Prop :=
  Relation.TransGen (FreshStep m visited)

variable {m : Adjacency} {visited : SortedSet NodeId} {node n : NodeId}

theorem FreshPath.unvisited {a b : NodeId} (h : FreshPath m visited a b) :
    visited.contains b = false := by
  cases h with
  | single h => exact h.2
  | tail _ h => exact h.2

theorem mem_freshNeighbours_iff : n ∈ freshNeighbours m visited node ↔ FreshStep m visited node n := by
  simp [freshNeighbours, FreshStep]

/-- With more nodes visited fewer steps are fresh. -/
theorem FreshPath.of_subset {visited' : SortedSet NodeId} {a b : NodeId}
    (hsub : ∀ k, visited.contains k = true → visited'.contains k = true)
    (h : FreshPath m visited' a b) : FreshPath m visited a b := by
  refine Relation.TransGen.mono (fun a b hstep => ⟨hstep.1, ?_⟩) a b h
  rw [← Bool.not_eq_true]
  exact fun hb => Bool.false_ne_true (hstep.2.symm.trans (hsub b hb))

/-- Once the fresh neighbours of a node are visited, what lay beyond the node lies beyond them. -/
theorem FreshPath.addAll {rest : List NodeId} {p : NodeId} (hp : p ∈ node :: rest)
    (h : FreshPath m visited p n) :
    (visited.addAll (freshNeighbours m visited node)).contains n = true ∨
      ∃ q ∈ freshNeighbours m visited node ++ rest,
        FreshPath m (visited.addAll (freshNeighbours m visited node)) q n := by
  induction h with
  | @single b hstep =>
    cases hb : (visited.addAll (freshNeighbours m visited node)).contains b with
    | true => exact Or.inl rfl
    | false =>
      refine Or.inr ⟨p, ?_, .single ⟨hstep.1, hb⟩⟩
      rcases List.mem_cons.mp hp with rfl | hp
      · -- the neighbours of `node` itself have just been visited
        have hadded := (SortedSet.contains_addAll visited b (freshNeighbours m visited p)).mpr
          (Or.inl (mem_freshNeighbours_iff.mpr hstep))
        rw [hb] at hadded
        cases hadded
      · exact List.mem_append_right _ hp
  | @tail k b hpath hstep ih =>
    cases hb : (visited.addAll (freshNeighbours m visited node)).contains b with
    | true => exact Or.inl rfl
    | false =>
      have hstep' : FreshStep m (visited.addAll (freshNeighbours m visited node)) k b :=
        ⟨hstep.1, hb⟩
      rcases ih with hk | ⟨q, hq, hqk⟩
      · rcases (SortedSet.contains_addAll ..).mp hk with hfresh | hold
        · exact Or.inr ⟨k, List.mem_append_left _ hfresh, .single hstep'⟩
        · rw [FreshPath.unvisited hpath] at hold
          cases hold
      · exact Or.inr ⟨q, hq, hqk.tail hstep'⟩

/-- **A walk visits exactly what fresh paths lead to.** -/
theorem visited_walk (m : Adjacency) (d : Direction) (pending : List NodeId) (r : Reached)
    (n : NodeId) :
    (walk m d pending r).visited.contains n = true ↔
      r.visited.contains n = true ∨ ∃ p ∈ pending, FreshPath m r.visited p n := by
  fun_induction walk m d pending r with
  | case1 r => simp
  | case2 r node rest fresh ih =>
    rw [ih, SortedSet.contains_addAll]
    constructor
    · rintro ((hfresh | hold) | ⟨p, hp, hpath⟩)
      · exact Or.inr ⟨node, List.mem_cons_self .., .single (mem_freshNeighbours_iff.mp hfresh)⟩
      · exact Or.inl hold
      · have hpath' : FreshPath m r.visited p n :=
          FreshPath.of_subset (fun k hk => (SortedSet.contains_addAll ..).mpr (Or.inr hk)) hpath
        rcases List.mem_append.mp hp with hp | hp
        · exact Or.inr ⟨node, List.mem_cons_self .., .head (mem_freshNeighbours_iff.mp hp) hpath'⟩
        · exact Or.inr ⟨p, List.mem_cons_of_mem _ hp, hpath'⟩
    · rintro (hold | ⟨p, hp, hpath⟩)
      · exact Or.inl (Or.inr hold)
      · rw [← SortedSet.contains_addAll]
        exact FreshPath.addAll hp hpath

/-- **A walk goes along exactly the edges from the pending nodes and from the nodes it adds.** -/
theorem edges_walk (m : Adjacency) (d : Direction) (pending : List NodeId) (r : Reached) (e : Edge) :
    (walk m d pending r).edges.contains e = true ↔
      r.edges.contains e = true ∨
        ∃ k, (k ∈ pending ∨
            (walk m d pending r).visited.contains k = true ∧ r.visited.contains k = false) ∧
          ∃ b ∈ m.neighbours k, d.edge k b = e := by
  fun_induction walk m d pending r with
  | case1 r => simp
  | case2 r node rest fresh ih =>
    -- the fresh neighbours are both pending and visited now: their edges are those of added nodes
    have hadded : ∀ k, k ∈ fresh ∨ (r.visited.addAll fresh).contains k = false ↔
        k ∈ fresh ∨ r.visited.contains k = false := by
      intro k
      rw [← Bool.not_eq_true, SortedSet.contains_addAll, ← Bool.not_eq_true]
      tauto
    have hvisited : ∀ k ∈ fresh, (walk m d (fresh ++ rest)
        { visited := r.visited.addAll fresh
          edges := r.edges.addAll ((m.neighbours node).map (d.edge node)) }).visited.contains k = true ∧
        r.visited.contains k = false := by
      intro k hk
      refine ⟨?_, (mem_freshNeighbours_iff.mp hk).2⟩
      rw [visited_walk, SortedSet.contains_addAll]
      exact Or.inl (Or.inl hk)
    rw [ih, SortedSet.contains_addAll, List.mem_map]
    constructor
    · rintro ((hnode | hold) | ⟨k, hk, hedge⟩)
      · exact Or.inr ⟨node, Or.inl (List.mem_cons_self ..), hnode⟩
      · exact Or.inl hold
      · refine Or.inr ⟨k, ?_, hedge⟩
        rcases hk with hk | ⟨hk, hnew⟩
        · rcases List.mem_append.mp hk with hk | hk
          · exact Or.inr (hvisited k hk)
          · exact Or.inl (List.mem_cons_of_mem _ hk)
        · rcases (hadded k).mp (Or.inr hnew) with hfresh | hnew
          · exact Or.inr (hvisited k hfresh)
          · exact Or.inr ⟨hk, hnew⟩
    · rintro (hold | ⟨k, hk, hedge⟩)
      · exact Or.inl (Or.inr hold)
      · rcases hk with hk | ⟨hk, hnew⟩
        · rcases List.mem_cons.mp hk with rfl | hk
          · exact Or.inl (Or.inl hedge)
          · exact Or.inr ⟨k, Or.inl (List.mem_append_right _ hk), hedge⟩
        · rcases (hadded k).mpr (Or.inr hnew) with hfresh | hnew
          · exact Or.inr ⟨k, Or.inl (List.mem_append_left _ hfresh), hedge⟩
          · exact Or.inr ⟨k, Or.inr ⟨hk, hnew⟩, hedge⟩

end PerlCalls.Graph

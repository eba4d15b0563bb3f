import Mathlib
import PerlCalls.Export.Json
import PerlCalls.Proofs.Expansion
import PerlCalls.Proofs.Roots

/-! A traversal surrounds its starts.

A walk keeps every edge of the paths that it takes, so what it adds is joined to its start by kept edges
that all point one way (`joined_expand`). `Surrounds` carries this from start to start, together with
what can be said of each kept edge. A start that has had its turn is walked from in both directions
already, and a second turn adds nothing (`expandStart_of_passed`). The traversal, which takes every start
once, is therefore the one that gives each its turn as often as it is named (`foldl_takeTurn`).
`traverse_surrounds` puts these together. -/
namespace PerlCalls.Graph

variable {g : CallGraph}

/-- The two indexes know the same edges. -/
def CallGraph.IsMirrored (g : CallGraph) : Prop := ∀ a b, b ∈ g.callees a ↔ a ∈ g.callers b

theorem Holds.isMirrored {es : List (Edge × Int)} (h : Holds g es) : g.IsMirrored := fun a b => by
  rw [h.mem_callees_iff, h.mem_callers_iff]

/-- A step of a walk goes along an edge of the graph. -/
theorem CallGraph.IsMirrored.calls (hg : g.IsMirrored) {d : Direction} {a b : NodeId}
    (h : b ∈ (g.index d).neighbours a) : (d.edge a b).callee ∈ g.callees (d.edge a b).caller := by
  cases d with
  | up => exact (hg b a).mpr h
  | down => exact h

/-! ### Paths of kept edges -/

/-- The edge from `a` to `b` has been walked along. -/
def Walked (edges : SortedSet Edge) (a b : NodeId) : Prop := edges.contains ⟨a, b⟩ = true

/-- Edges that have been walked along lead from one of the two nodes to the other. -/
def Joined (edges : SortedSet Edge) (a b : NodeId) : Prop :=
  Relation.TransGen (Walked edges) a b ∨ Relation.TransGen (Walked edges) b a

theorem Within.joined {r r' : Reached} (h : Within r r') {a b : NodeId} (hab : Joined r.edges a b) :
    Joined r'.edges a b := by
  have hkept : Walked r.edges ≤ Walked r'.edges := fun _ _ hedge => h.edges _ hedge
  exact hab.imp (Relation.TransGen.mono hkept a b) (Relation.TransGen.mono hkept b a)

/-- A walk keeps the edges of the fresh paths that it takes: it goes on from each node on them. -/
theorem walked_expand {d : Direction} {r : Reached} {s n : NodeId}
    (h : FreshPath (g.index d) r.visited s n) :
    Relation.TransGen (fun a b => (g.expand s d r).edges.contains (d.edge a b) = true) s n := by
  induction h with
  | single hstep => exact .single (passed_expand (Or.inl rfl) _ hstep.1).2
  | @tail k n hk hstep ih =>
    have hreached : (g.expand s d r).visited.contains k = true :=
      (visited_walk ..).mpr (Or.inr ⟨s, List.mem_singleton.mpr rfl, hk⟩)
    exact ih.tail (passed_expand (Or.inr ⟨hreached, FreshPath.unvisited hk⟩) _ hstep.1).2

theorem joined_expand {d : Direction} {r : Reached} {s n : NodeId}
    (h : FreshPath (g.index d) r.visited s n) : Joined (g.expand s d r).edges n s := by
  have hpath := walked_expand h
  cases d with
  | up => exact Or.inl (Relation.transGen_swap.mp hpath)
  | down => exact Or.inr hpath

/-! ### From start to start -/

/-- What has been reached is joined to a start, and the edges are edges of the graph between nodes that
have been reached. -/
structure Surrounds (g : CallGraph) (starts : List NodeId) (r : Reached) : Prop where
  joined : ∀ n, r.visited.contains n = true → n ∈ starts ∨ ∃ s ∈ starts, Joined r.edges n s
  edges : ∀ e, r.edges.contains e = true → e.callee ∈ g.callees e.caller ∧
    r.visited.contains e.caller = true ∧ r.visited.contains e.callee = true

namespace Surrounds

variable {starts : List NodeId} {r : Reached} {s : NodeId}

theorem nil (g : CallGraph) : Surrounds g [] {} where
  joined _ h := by simp [SortedMap.contains] at h
  edges _ h := by simp [SortedMap.contains] at h

theorem addStart (h : Surrounds g starts r) (s : NodeId) :
    Surrounds g (starts ++ [s]) { r with visited := r.visited.add s } where
  joined n hn := by
    rw [SortedSet.contains_add, Bool.or_eq_true, decide_eq_true_eq] at hn
    rcases hn with rfl | hn
    · exact Or.inl (List.mem_append_right _ (List.mem_singleton.mpr rfl))
    · exact (h.joined n hn).imp (List.mem_append_left _)
        fun ⟨s', hs', hjoined⟩ => ⟨s', List.mem_append_left _ hs', hjoined⟩
  edges e he := by
    obtain ⟨hcalls, hcaller, hcallee⟩ := h.edges e he
    have hwithin := Within.addStart r s
    exact ⟨hcalls, hwithin.visited _ hcaller, hwithin.visited _ hcallee⟩

theorem expand (hg : g.IsMirrored) (h : Surrounds g starts r) (hs : s ∈ starts)
    (hvisited : r.visited.contains s = true) (d : Direction) :
    Surrounds g starts (g.expand s d r) where
  joined n hn := by
    cases hold : r.visited.contains n with
    | true =>
      exact (h.joined n hold).imp_right fun ⟨s', hs', hjoined⟩ =>
        ⟨s', hs', (Within.expand g s d r).joined hjoined⟩
    | false => exact Or.inr ⟨s, hs, joined_expand (freshPath_of_expand hn hold)⟩
  edges e he := by
    have hwithin := Within.expand g s d r
    rcases (edges_walk ..).mp he with hold | ⟨k, hk, b, hb, rfl⟩
    · obtain ⟨hcalls, hcaller, hcallee⟩ := h.edges e hold
      exact ⟨hcalls, hwithin.visited _ hcaller, hwithin.visited _ hcallee⟩
    · have hk : k = s ∨ (g.expand s d r).visited.contains k = true ∧ r.visited.contains k = false :=
        hk.imp_left List.mem_singleton.mp
      have hnode : (g.expand s d r).visited.contains k = true :=
        hk.elim (fun heq => heq ▸ hwithin.visited s hvisited) And.left
      have hneighbour := (passed_expand hk b hb).1
      refine ⟨hg.calls hb, ?_⟩
      cases d with
      | up => exact ⟨hneighbour, hnode⟩
      | down => exact ⟨hnode, hneighbour⟩

theorem expandStart (hg : g.IsMirrored) (h : Surrounds g starts r) (s : NodeId) :
    Surrounds g (starts ++ [s]) (g.expandStart r s) := by
  have hs : s ∈ starts ++ [s] := List.mem_append_right _ (List.mem_singleton.mpr rfl)
  have hvisited : (r.visited.add s).contains s = true := by
    rw [SortedSet.contains_add, decide_eq_true rfl, Bool.true_or]
  have hup := (h.addStart s).expand hg hs hvisited .up
  exact hup.expand hg hs ((Within.expand ..).visited s hvisited) .down

theorem foldl_expandStart (hg : g.IsMirrored) (starts : List NodeId) :
    Surrounds g starts (starts.foldl g.expandStart {}) := by
  induction starts using List.reverseRecOn with
  | nil => exact nil g
  | append_singleton starts s ih =>
    rw [List.foldl_concat]
    exact ih.expandStart hg s

end Surrounds

/-! ### Turns -/

/-- Where the walks have gone on from a node already, another walk from it adds nothing. -/
theorem expand_of_passed {d : Direction} {r : Reached} {s : NodeId} (h : r.Passed g d s) :
    g.expand s d r = r := by
  have hfresh : freshNeighbours (g.index d) r.visited s = [] := by
    refine List.filter_eq_nil_iff.mpr fun b hb => ?_
    simp [(h b hb).1]
  have hedges : r.edges.addAll (((g.index d).neighbours s).map (d.edge s)) = r.edges := by
    refine SortedSet.addAll_of_contains fun e he => ?_
    obtain ⟨b, hb, rfl⟩ := List.mem_map.mp he
    exact (h b hb).2
  rw [CallGraph.expand, walk, hfresh, hedges, List.nil_append, walk]
  rfl

theorem expandStart_of_passed {r : Reached} {s : NodeId} (hvisited : r.visited.contains s = true)
    (h : ∀ d, r.Passed g d s) : g.expandStart r s = r := by
  have hall : r.visited.addAll [s] = r.visited :=
    SortedSet.addAll_of_contains fun k hk => List.mem_singleton.mp hk ▸ hvisited
  have hadd : r.visited.add s = r.visited := hall
  rw [CallGraph.expandStart, hadd, expand_of_passed (h .up), expand_of_passed (h .down)]

/-- The turn of a start node: it is listed at its first mention, and both walks set out from it. -/
def CallGraph.takeTurn (g : CallGraph) (t : Traversal) (node : NodeId) : Traversal :=
  let r := g.expandStart ⟨t.visited, t.edges⟩ node
  { t.addStart node with visited := r.visited, edges := r.edges }

/-- Every start has its turn as often as it is named, in increasing order. -/
def CallGraph.traverseInTurn (g : CallGraph) (starts : List NodeId) : Traversal :=
  (starts.mergeSort (fun a b => decide (a ≤ b))).foldl g.takeTurn {}

/-- A traversal depends only on which nodes are starts. -/
theorem traverse_congr (g : CallGraph) {starts starts' : List NodeId}
    (h : ∀ n, n ∈ starts ↔ n ∈ starts') : g.traverse starts = g.traverse starts' := by
  rw [CallGraph.traverse, SortedSet.ofList_congr h, ← CallGraph.traverse]

/-- A start that has had its turn is given another one. -/
theorem takeTurn_again (g : CallGraph) {starts : List NodeId} {s : NodeId} (hs : s ∈ starts) :
    g.takeTurn (g.traverse starts) s = g.traverse starts := by
  have hstart : (g.traverse starts).isStart s = true :=
    List.contains_iff_mem.mpr ((mem_starts_traverse g starts s).mpr hs)
  obtain ⟨hvisited, hpassed⟩ :=
    passed_foldl_expandStart g {} ((SortedSet.mem_elems_ofList starts s).mpr hs)
  have hagain : g.expandStart ⟨(g.traverse starts).visited, (g.traverse starts).edges⟩ s =
      ⟨(g.traverse starts).visited, (g.traverse starts).edges⟩ :=
    expandStart_of_passed hvisited hpassed
  rw [CallGraph.takeTurn, Traversal.addStart, if_pos hstart, hagain]

/-- A start that comes after all others is given its turn. -/
theorem takeTurn_last (g : CallGraph) {starts : List NodeId} {s : NodeId} (h : ∀ a ∈ starts, a < s) :
    g.takeTurn (g.traverse starts) s = g.traverse (starts ++ [s]) := by
  have hsorted : (SortedSet.ofList (starts ++ [s])).elems = (SortedSet.ofList starts).elems ++ [s] := by
    refine SortedMap.eq_of_increase (SortedSet.elems_increase _) ?_ fun k => ?_
    · refine List.pairwise_append.mpr
        ⟨SortedSet.elems_increase _, List.pairwise_singleton _ s, fun a ha b hb => ?_⟩
      rw [List.mem_singleton.mp hb]
      exact compare_eq_lt_iff.mpr (h a ((SortedSet.mem_elems_ofList starts a).mp ha))
    · simp only [List.mem_append, SortedSet.mem_elems_ofList]
  have hstart : ¬(g.traverse starts).isStart s = true := fun hs =>
    lt_irrefl s (h s ((mem_starts_traverse g starts s).mp (List.contains_iff_mem.mp hs)))
  rw [CallGraph.takeTurn, Traversal.addStart, if_neg hstart]
  simp only [CallGraph.traverse, hsorted, List.foldl_concat]

/-- In increasing order, a start that is named again comes right after itself, or new ones do after all
others. -/
theorem foldl_takeTurn (g : CallGraph) {starts : List NodeId} (hsorted : starts.Pairwise (· ≤ ·)) :
    starts.foldl g.takeTurn {} = g.traverse starts := by
  induction starts using List.reverseRecOn with
  | nil => rfl
  | append_singleton starts s ih =>
    obtain ⟨hbefore, -, hlast⟩ := List.pairwise_append.mp hsorted
    rw [List.foldl_concat, ih hbefore]
    by_cases hs : s ∈ starts
    · rw [takeTurn_again g hs]
      refine traverse_congr g fun n => ?_
      rw [List.mem_append, List.mem_singleton]
      exact ⟨Or.inl, fun hn => hn.elim id fun heq => heq ▸ hs⟩
    · refine takeTurn_last g fun a ha => ?_
      exact lt_of_le_of_ne (hlast a ha s (List.mem_singleton.mpr rfl)) fun heq => hs (heq ▸ ha)

theorem traverseInTurn_eq (g : CallGraph) (starts : List NodeId) :
    g.traverseInTurn starts = g.traverse starts := by
  have hsorted : (starts.mergeSort (fun a b => decide (a ≤ b))).Pairwise (· ≤ ·) :=
    (List.pairwise_mergeSort (by simpa using fun a b c => le_trans) (by simpa using le_total)
      starts).imp of_decide_eq_true
  rw [CallGraph.traverseInTurn, foldl_takeTurn g hsorted]
  exact traverse_congr g fun n => (List.mergeSort_perm ..).mem_iff

/-- **A traversal holds what surrounds its starts.** A node that it visits is a start, or edges that it
has walked along lead from it to a start or to it from one. Each of these edges is an edge of the graph,
so its exported row bears the weight it has there, and both its ends are visited. Every edge at a start
is walked along. The starts are listed in increasing order, each once; neither the order in which they
are named nor how often each is matters, although each name is a turn of its own. -/
theorem traverse_surrounds (g : CallGraph) (hg : g.IsMirrored) (starts : List NodeId) :
    let t := g.traverse starts
    (∀ n, t.visited.contains n = true → n ∈ starts ∨ ∃ s ∈ starts, Joined t.edges n s) ∧
      (∀ e, t.edges.contains e = true → e.callee ∈ g.callees e.caller ∧
        t.visited.contains e.caller = true ∧ t.visited.contains e.callee = true) ∧
      (∀ row ∈ Export.edgeRows g t, g.invokes.weight? row.source row.target = some row.weight) ∧
      (∀ s ∈ starts, t.visited.contains s = true) ∧
      (∀ a b, b ∈ g.callees a → a ∈ starts ∨ b ∈ starts → t.edges.contains ⟨a, b⟩ = true) ∧
      (t.starts.Pairwise (· < ·) ∧ ∀ n, n ∈ t.starts ↔ n ∈ starts) ∧
      (∀ starts', (∀ n, n ∈ starts' ↔ n ∈ starts) → g.traverse starts' = t) ∧
      g.traverseInTurn starts = t := by
  intro t
  have hmem : ∀ n, n ∈ t.starts ↔ n ∈ starts := mem_starts_traverse g starts
  have h : Surrounds g t.starts ⟨t.visited, t.edges⟩ := .foldl_expandStart hg t.starts
  have hpassed : ∀ s ∈ starts, t.visited.contains s = true ∧
      ∀ d, Reached.Passed ⟨t.visited, t.edges⟩ g d s :=
    fun s hs => passed_foldl_expandStart g {} ((hmem s).mpr hs)
  refine ⟨fun n hn => ?_, h.edges, fun row hrow => ?_, fun s hs => (hpassed s hs).1,
    fun a b hb hend => ?_, ⟨starts_traverse_increase g starts, hmem⟩,
    fun starts' hsame => traverse_congr g hsame, traverseInTurn_eq g starts⟩
  · simpa only [hmem] using h.joined n hn
  · obtain ⟨e, he, rfl⟩ := List.mem_map.mp hrow
    obtain ⟨w, hw⟩ := (Adjacency.mem_neighbours_iff ..).mp
      (h.edges e (SortedSet.mem_elems_iff.mp he)).1
    simp [Export.edgeRow, hw]
  · rcases hend with ha | hb'
    · exact ((hpassed a ha).2 .down b hb).2
    · exact ((hpassed b hb').2 .up a ((hg a b).mp hb)).2

/-- `a` and `b` call each other, and `b` and `d` call `c`. -/
def crossingCalls : List (Edge × Int) :=
  [(⟨"a", "b"⟩, 1), (⟨"b", "a"⟩, 2), (⟨"b", "c"⟩, 1), (⟨"d", "c"⟩, 3)]

/-- The walks of two starts meet on a cycle, and one of the starts is named twice. -/
theorem traverse_surrounds_crossingCalls :
    let g := CallGraph.ofEdges crossingCalls
    let t := g.traverse ["c", "b", "c"]
    g.IsMirrored ∧ (t.visited.contains "d" = true ∧ ∃ s ∈ ["c", "b", "c"], Joined t.edges "d" s) ∧
      t.edges.contains ⟨"b", "a"⟩ = true ∧ g.traverse ["b", "c"] = t ∧
      g.traverseInTurn ["c", "b", "c"] = t := by
  intro g t
  have hg : g.IsMirrored := (Holds.ofEdges crossingCalls).isMirrored
  have hvisited : t.visited.contains "d" = true := by cbv
  obtain ⟨hjoined, -, -, -, hedges, -, hsame, hturns⟩ := traverse_surrounds g hg ["c", "b", "c"]
  refine ⟨hg, ⟨hvisited, (hjoined "d" hvisited).resolve_left (by decide)⟩, ?_, ?_, hturns⟩
  · exact hedges "b" "a" (by decide +kernel) (Or.inl (by decide))
  · exact hsame ["b", "c"] (by simp)

end PerlCalls.Graph

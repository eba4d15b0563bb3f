import Mathlib
import PerlCalls.Proofs.Expansion

/-! Depth-first search.

A walk may take its nodes in any order. Two searches that go depth first are compared with it: `descend`
goes down from each unvisited neighbour before it takes the next one, by recursion, and `Search.step` does
so one turn at a time, with a stack of nodes that have not handed out all their neighbours. Both take the
neighbours of a node in whatever order they are given (`NeighbourOrder`).

What a search has reached and what its pending neighbours will lead it to are together the same after
every turn (`Search.reaches_step`, `Search.traces_step`). Whatever is put on the stack was unvisited
until then, so a frame is worked off in finitely many turns, with the outcome of the recursion
(`Search.iterate_frame`). Hence both searches end with what the walk gives (`expand_depthFirst`). -/
namespace PerlCalls.Graph

/-- For each node its neighbours, in the order in which they are to be taken. -/
structure NeighbourOrder (m : Adjacency) where
  next : NodeId → List NodeId
  mem_next : ∀ {a b : NodeId}, b ∈ next a ↔ b ∈ m.neighbours a

/-- The order of the index itself. -/
instance (m : Adjacency) : Inhabited (NeighbourOrder m) := ⟨m.neighbours, Iff.rfl⟩

/-- With one more edge gone along. -/
def Reached.along (r : Reached) (e : Edge) : Reached := { r with edges := r.edges.add e }

/-- With one more node visited. -/
def Reached.meet (r : Reached) (n : NodeId) : Reached := { r with visited := r.visited.add n }

variable {m : Adjacency}

theorem within_along (r : Reached) (e : Edge) : Within r (r.along e) where
  visited _ hk := hk
  edges _ he := by rw [Reached.along, SortedSet.contains_add, he, Bool.or_true]

theorem within_along_meet (r : Reached) (e : Edge) (n : NodeId) : Within r ((r.along e).meet n) :=
  (within_along r e).trans (.addStart ..)

theorem contains_add_iff {visited : SortedSet NodeId} {n k : NodeId} :
    (visited.add n).contains k = true ↔ k = n ∨ visited.contains k = true := by
  rw [SortedSet.contains_add, Bool.or_eq_true, decide_eq_true_eq]

theorem contains_meet (r : Reached) (n : NodeId) : (r.meet n).visited.contains n = true :=
  contains_add_iff.mpr (Or.inl rfl)

/-- Once a neighbour has been visited, fewer nodes are unvisited. -/
theorem unvisited_lt {r r' : Reached} {node n : NodeId} (hn : n ∈ m.neighbours node)
    (hwithin : Within r r') (hnew : r.visited.contains n = false) (hmet : r'.visited.contains n = true) :
    (unvisited m r'.visited).length < (unvisited m r.visited).length := by
  refine length_filter_lt (fun k hk => ?_) (mem_targets_of_mem_neighbours hn) ?_ ?_
  · rw [Bool.not_eq_true'] at hk ⊢
    exact hwithin.unvisited hk
  · rw [hnew, Bool.not_false]
  · rw [hmet, Bool.not_true]

/-! ### With recursion -/

/-- A node, with those of its neighbours that have not been taken yet. -/
structure Frame (m : Adjacency) where
  node : NodeId
  left : List NodeId
  left_subset : left ⊆ m.neighbours node

def Frame.enter (o : NeighbourOrder m) (node : NodeId) : Frame m where
  node := node
  left := o.next node
  left_subset := fun _ h => o.mem_next.mp h

/-- Take what is left of a frame in turn, and go down from each neighbour that has not been visited
before the next one is taken. -/
def descend (o : NeighbourOrder m) (d : Direction) (f : Frame m) (r : Reached) :
    { r' : Reached // Within r r' } :=
  match f with
  | ⟨_, [], _⟩ => ⟨r, .refl r⟩
  | ⟨node, n :: left, hleft⟩ =>
    let rest : Frame m := ⟨node, left, (List.cons_subset.mp hleft).2⟩
    if r.visited.contains n then
      let behind := descend o d rest (r.along (d.edge node n))
      ⟨behind.1, (within_along ..).trans behind.2⟩
    else
      -- `below` keeps what has been reached, so fewer nodes are unvisited when the rest is taken
      let below := descend o d (.enter o n) ((r.along (d.edge node n)).meet n)
      let behind := descend o d rest below.1
      ⟨behind.1, (within_along_meet ..).trans (below.2.trans behind.2)⟩
termination_by ((unvisited m r.visited).length, f.left.length)
decreasing_by
  · exact Prod.Lex.right _ (Nat.lt_succ_self _)
  · rename_i hn
    exact Prod.Lex.left _ _ (unvisited_lt (List.cons_subset.mp hleft).1 (within_along_meet ..)
      (Bool.not_eq_true _ ▸ hn) (contains_meet ..))
  · rename_i hn
    exact Prod.Lex.left _ _ (unvisited_lt (List.cons_subset.mp hleft).1
      ((within_along_meet ..).trans below.2) (Bool.not_eq_true _ ▸ hn)
      (below.2.visited _ (contains_meet ..)))

/-! ### With a stack -/

/-- The next neighbour, and the frame without it. -/
def Frame.take? : Frame m → Option (NodeId × Frame m)
  | ⟨_, [], _⟩ => none
  | ⟨node, n :: left, h⟩ => some (n, ⟨node, left, (List.cons_subset.mp h).2⟩)

structure Search (m : Adjacency) where
  stack : List (Frame m)
  reached : Reached

namespace Search

def start (o : NeighbourOrder m) (origin : NodeId) (r : Reached) : Search m := ⟨[.enter o origin], r⟩

/-- One turn; with an empty stack the search is over. -/
def step (o : NeighbourOrder m) (d : Direction) (s : Search m) : Search m :=
  match s.stack with
  | [] => s
  | f :: rest =>
    match f.take? with
    | none => { s with stack := rest }
    | some (n, f) =>
      let reached := s.reached.along (d.edge f.node n)
      if reached.visited.contains n then ⟨f :: rest, reached⟩
      else ⟨.enter o n :: f :: rest, reached.meet n⟩

/-- The neighbour `b` of `a` is still to be taken. -/
def Pends (s : Search m) (a b : NodeId) : Prop := ∃ f ∈ s.stack, f.node = a ∧ b ∈ f.left

section Turn
variable {o : NeighbourOrder m} {d : Direction} {node n : NodeId} {left : List NodeId}
  {hleft : n :: left ⊆ m.neighbours node} {rest : List (Frame m)} {r : Reached}

theorem step_seen (hseen : r.visited.contains n = true) :
    step o d ⟨⟨node, n :: left, hleft⟩ :: rest, r⟩ =
      ⟨⟨node, left, (List.cons_subset.mp hleft).2⟩ :: rest, r.along (d.edge node n)⟩ :=
  if_pos hseen

theorem step_fresh (hfresh : r.visited.contains n = false) :
    step o d ⟨⟨node, n :: left, hleft⟩ :: rest, r⟩ =
      ⟨.enter o n :: ⟨node, left, (List.cons_subset.mp hleft).2⟩ :: rest,
        (r.along (d.edge node n)).meet n⟩ :=
  if_neg (by simp [Reached.along, hfresh])

end Turn

/-- What a turn can do: nothing to what is pending or reached, or take the neighbour `n` of a node. Then
the `others` stay pending, and if `n` was unvisited its own neighbours come to them. -/
theorem step_cases (o : NeighbourOrder m) (d : Direction) (s : Search m) :
    ((∀ a b, (s.step o d).Pends a b ↔ s.Pends a b) ∧ (s.step o d).reached = s.reached) ∨
    ∃ (node n : NodeId) (others : NodeId → NodeId → Prop),
      (∀ a b, s.Pends a b ↔ a = node ∧ b = n ∨ others a b) ∧
      (s.reached.visited.contains n = true ∧
          (∀ a b, (s.step o d).Pends a b ↔ others a b) ∧
          (s.step o d).reached = s.reached.along (d.edge node n) ∨
        s.reached.visited.contains n = false ∧
          (∀ a b, (s.step o d).Pends a b ↔ a = n ∧ b ∈ m.neighbours n ∨ others a b) ∧
          (s.step o d).reached = (s.reached.along (d.edge node n)).meet n) := by
  obtain ⟨stack, r⟩ := s
  cases stack with
  | nil => exact Or.inl ⟨fun _ _ => Iff.rfl, rfl⟩
  | cons f rest =>
    obtain ⟨node, left, hleft⟩ := f
    cases left with
    | nil =>
      refine Or.inl ⟨fun a b => ?_, rfl⟩
      simp [step, Frame.take?, Pends]
    | cons n left =>
      refine Or.inr ⟨node, n, Pends ⟨⟨node, left, (List.cons_subset.mp hleft).2⟩ :: rest, r⟩, ?_, ?_⟩
      · intro a b
        simp only [Pends, List.mem_cons, exists_eq_or_imp]
        grind
      · cases hn : r.visited.contains n with
        | true => exact Or.inl ⟨rfl, fun a b => by rw [step_seen hn]; rfl, by rw [step_seen hn]⟩
        | false =>
          refine Or.inr ⟨rfl, fun a b => ?_, by rw [step_fresh hn]⟩
          rw [step_fresh hn]
          simp only [Pends, List.mem_cons, exists_eq_or_imp, Frame.enter, o.mem_next]
          grind

end Search

/-! ### Paths of unvisited nodes -/

/-- A path of fresh steps, perhaps of none, that begins with an unvisited node. -/
def Onward (m : Adjacency) (visited : SortedSet NodeId) (p k : NodeId) : Prop :=
  visited.contains p = false ∧ Relation.ReflTransGen (FreshStep m visited) p k

theorem freshPath_iff_onward {visited : SortedSet NodeId} {a k : NodeId} :
    FreshPath m visited a k ↔ ∃ p ∈ m.neighbours a, Onward m visited p k := by
  rw [FreshPath, Relation.TransGen.head'_iff]
  simp only [FreshStep, Onward, and_assoc]

namespace Onward

variable {visited : SortedSet NodeId} {p n k : NodeId}

theorem unvisited (h : Onward m visited p k) : visited.contains k = false := by
  obtain ⟨hp, hpath⟩ := h
  cases hpath with
  | refl => exact hp
  | tail _ hstep => exact hstep.2

theorem of_add (h : Onward m (visited.add n) p k) : Onward m visited p k := by
  have hnot : ∀ b, (visited.add n).contains b = false → visited.contains b = false := by
    intro b hb
    rw [SortedSet.contains_add, Bool.or_eq_false_iff] at hb
    exact hb.2
  exact ⟨hnot p h.1,
    Relation.ReflTransGen.mono (fun _ b hstep => ⟨hstep.1, hnot b hstep.2⟩) _ _ h.2⟩

/-- Once `n` is visited, what a path led to is visited, or lies beyond `n`, or is led to without `n`. -/
theorem add (h : Onward m visited p k) (n : NodeId) :
    (visited.add n).contains k = true ∨ (∃ q ∈ m.neighbours n, Onward m (visited.add n) q k) ∨
      Onward m (visited.add n) p k := by
  obtain ⟨hp, hpath⟩ := h
  induction hpath with
  | refl =>
    cases hvisited : (visited.add n).contains p with
    | true => exact Or.inl rfl
    | false => exact Or.inr (Or.inr ⟨hvisited, .refl⟩)
  | @tail k b hpath hstep ih =>
    cases hb : (visited.add n).contains b with
    | true => exact Or.inl rfl
    | false =>
      rcases ih with hk | ⟨q, hq, hq', hqk⟩ | ⟨hp', hpk⟩
      · -- the path has come to `n` itself and goes on from there
        have hkn : k = n := by
          rcases contains_add_iff.mp hk with hkn | hold
          · exact hkn
          · rw [unvisited ⟨hp, hpath⟩] at hold
            cases hold
        exact Or.inr (Or.inl ⟨b, hkn ▸ hstep.1, hb, .refl⟩)
      · exact Or.inr (Or.inl ⟨q, hq, hq', hqk.tail ⟨hstep.1, hb⟩⟩)
      · exact Or.inr (Or.inr ⟨hp', hpk.tail ⟨hstep.1, hb⟩⟩)

end Onward

/-! ### What a search will have reached -/

namespace Search

/-- The node is visited, or a path leads to it from a pending neighbour. -/
def Reaches (s : Search m) (k : NodeId) : Prop :=
  s.reached.visited.contains k = true ∨ ∃ a b, s.Pends a b ∧ Onward m s.reached.visited b k

/-- The edge has been gone along, or it leads to a pending neighbour or from a node yet to be visited. -/
def Traces (d : Direction) (s : Search m) (e : Edge) : Prop :=
  s.reached.edges.contains e = true ∨ (∃ a b, s.Pends a b ∧ d.edge a b = e) ∨
    ∃ k, s.reached.visited.contains k = false ∧ s.Reaches k ∧ ∃ b ∈ m.neighbours k, d.edge k b = e

section Ends
variable {o : NeighbourOrder m} {d : Direction} {origin k : NodeId} {r : Reached} {e : Edge}

theorem pends_start {a b : NodeId} :
    (start o origin r).Pends a b ↔ a = origin ∧ b ∈ m.neighbours origin := by
  simp [start, Pends, Frame.enter, o.mem_next, eq_comm]

theorem reaches_start :
    (start o origin r).Reaches k ↔ r.visited.contains k = true ∨ FreshPath m r.visited origin k := by
  have hreached : (start o origin r).reached = r := rfl
  simp only [Reaches, pends_start, freshPath_iff_onward, hreached]
  grind

theorem traces_start :
    (start o origin r).Traces d e ↔ r.edges.contains e = true ∨
      ∃ k, (k = origin ∨ FreshPath m r.visited origin k) ∧ ∃ b ∈ m.neighbours k, d.edge k b = e := by
  have hreached : (start o origin r).reached = r := rfl
  have hunvisited : ∀ k, FreshPath m r.visited origin k → r.visited.contains k = false :=
    fun _ => FreshPath.unvisited
  simp only [Traces, pends_start, reaches_start, hreached]
  grind

theorem reaches_nil : Reaches (m := m) ⟨[], r⟩ k ↔ r.visited.contains k = true := by
  simp [Reaches, Pends]

theorem traces_nil : Traces (m := m) d ⟨[], r⟩ e ↔ r.edges.contains e = true := by
  have hpends : ∀ a b, ¬Pends (m := m) ⟨[], r⟩ a b := by simp [Pends]
  simp only [Traces, reaches_nil, hpends]
  grind

end Ends

/-- A turn does not change which nodes will have been visited. -/
theorem reaches_step (o : NeighbourOrder m) (d : Direction) (s : Search m) (k : NodeId) :
    (s.step o d).Reaches k ↔ s.Reaches k := by
  rcases step_cases o d s with ⟨hpends, hreached⟩ | ⟨node, n, others, hbefore,
    ⟨hn, hafter, hreached⟩ | ⟨hn, hafter, hreached⟩⟩
  · simp only [Reaches, hpends, hreached]
  · -- no path begins with a visited node
    have hnone : ¬Onward m s.reached.visited n k := fun h => by simp [h.1] at hn
    simp only [Reaches, hafter, hbefore, hreached, Reached.along]
    grind
  · simp only [Reaches, hafter, hbefore, hreached, Reached.along, Reached.meet]
    constructor
    · rintro (hk | ⟨a, b, ⟨rfl, hb⟩ | hab, honward⟩)
      · rcases contains_add_iff.mp hk with rfl | hold
        · exact Or.inr ⟨node, k, Or.inl ⟨rfl, rfl⟩, hn, .refl⟩
        · exact Or.inl hold
      · have hbk := honward.of_add
        exact Or.inr ⟨node, a, Or.inl ⟨rfl, rfl⟩, hn, hbk.2.head ⟨hb, hbk.1⟩⟩
      · exact Or.inr ⟨a, b, Or.inr hab, honward.of_add⟩
    · rintro (hold | ⟨a, b, hab, honward⟩)
      · exact Or.inl (contains_add_iff.mpr (Or.inr hold))
      · rcases honward.add n with hk | ⟨q, hq, hqk⟩ | hbk
        · exact Or.inl hk
        · exact Or.inr ⟨n, q, Or.inl ⟨rfl, hq⟩, hqk⟩
        · rcases hab with ⟨rfl, rfl⟩ | hab
          · have hunvisited := hbk.1
            simp [SortedSet.contains_add] at hunvisited
          · exact Or.inr ⟨a, b, Or.inr hab, hbk⟩

/-- A turn does not change along which edges the search will have gone. -/
theorem traces_step (o : NeighbourOrder m) (d : Direction) (s : Search m) (e : Edge) :
    (s.step o d).Traces d e ↔ s.Traces d e := by
  have hreaches := reaches_step o d s
  rcases step_cases o d s with ⟨hpends, hreached⟩ | ⟨node, n, others, hbefore,
    ⟨-, hafter, hreached⟩ | ⟨hn, hafter, hreached⟩⟩
  · simp only [Traces, hreaches, hpends, hreached]
  · simp only [Traces, hreaches, hafter, hbefore, hreached, Reached.along, SortedSet.contains_add]
    grind
  · -- the edges from `n` were those of a node yet to be visited, and now lead to pending neighbours
    have hreach : s.Reaches n :=
      Or.inr ⟨node, n, (hbefore node n).mpr (Or.inl ⟨rfl, rfl⟩), hn, .refl⟩
    simp only [Traces, hreaches, hafter, hbefore, hreached, Reached.along, Reached.meet,
      SortedSet.contains_add]
    grind

theorem iterate_step (o : NeighbourOrder m) (d : Direction) (turns : Nat) (s : Search m) :
    (∀ k, ((step o d)^[turns] s).Reaches k ↔ s.Reaches k) ∧
      ∀ e, ((step o d)^[turns] s).Traces d e ↔ s.Traces d e := by
  induction turns generalizing s with
  | zero => exact ⟨fun _ => Iff.rfl, fun _ => Iff.rfl⟩
  | succ turns ih =>
    rw [Function.iterate_succ_apply]
    exact ⟨fun k => ((ih _).1 k).trans (reaches_step o d s k),
      fun e => ((ih _).2 e).trans (traces_step o d s e)⟩

/-! ### The end of a search -/

/-- **A frame is worked off in finitely many turns, with the outcome of the recursion.** -/
theorem iterate_frame (o : NeighbourOrder m) (d : Direction) (f : Frame m) (rest : List (Frame m))
    (r : Reached) : ∃ turns, (step o d)^[turns] ⟨f :: rest, r⟩ = ⟨rest, (descend o d f r).1⟩ := by
  fun_induction descend o d f r generalizing rest with
  | case1 r node hleft => exact ⟨1, rfl⟩
  | case2 r node n left hleft f hn behind ih =>
    obtain ⟨turns, hturns⟩ := ih rest
    refine ⟨turns + 1, ?_⟩
    rw [Function.iterate_succ_apply, step_seen hn]
    exact hturns
  | case3 r node n left hleft f hn below behind ihbelow ihbehind =>
    -- first all turns that go down from `n`, then those for the neighbours behind it
    obtain ⟨turns, hturns⟩ := ihbelow (f :: rest)
    obtain ⟨turns', hturns'⟩ := ihbehind rest
    refine ⟨turns' + turns + 1, ?_⟩
    rw [Function.iterate_succ_apply, step_fresh (Bool.not_eq_true _ ▸ hn), Function.iterate_add_apply]
    exact (congrArg _ hturns).trans hturns'

end Search

/-! ### The walk -/

theorem Reached.ext_contains {r r' : Reached}
    (hvisited : ∀ k, r.visited.contains k = true ↔ r'.visited.contains k = true)
    (hedges : ∀ e, r.edges.contains e = true ↔ r'.edges.contains e = true) : r = r' := by
  cases r
  cases r'
  exact (Reached.mk.injEq ..).mpr
    ⟨SortedSet.ext_contains hvisited, SortedSet.ext_contains hedges⟩

section Expand
variable (g : CallGraph) (d : Direction) (origin : NodeId) (r : Reached)

theorem mem_visited_expand (k : NodeId) :
    (g.expand origin d r).visited.contains k = true ↔
      r.visited.contains k = true ∨ FreshPath (g.index d) r.visited origin k := by
  rw [CallGraph.expand, visited_walk]
  simp only [List.mem_singleton, exists_eq_left]

theorem mem_edges_expand (e : Edge) :
    (g.expand origin d r).edges.contains e = true ↔
      r.edges.contains e = true ∨
        ∃ k, (k = origin ∨ FreshPath (g.index d) r.visited origin k) ∧
          ∃ b ∈ (g.index d).neighbours k, d.edge k b = e := by
  have hunvisited : ∀ k, FreshPath (g.index d) r.visited origin k → r.visited.contains k = false :=
    fun _ => FreshPath.unvisited
  rw [CallGraph.expand, edges_walk, ← CallGraph.expand]
  simp only [List.mem_singleton, mem_visited_expand]
  grind

/-- A search that has come to its end has reached what the walk reaches. -/
theorem reached_of_iterate (o : NeighbourOrder (g.index d)) {turns : Nat} {r' : Reached}
    (h : (Search.step o d)^[turns] (.start o origin r) = ⟨[], r'⟩) : r' = g.expand origin d r := by
  obtain ⟨hreaches, htraces⟩ := Search.iterate_step o d turns (.start o origin r)
  rw [h] at hreaches htraces
  refine Reached.ext_contains (fun k => ?_) (fun e => ?_)
  · rw [mem_visited_expand, ← Search.reaches_start, ← hreaches, Search.reaches_nil]
  · rw [mem_edges_expand, ← Search.traces_start, ← htraces, Search.traces_nil]

/-- **A walk adds exactly what paths of unvisited nodes lead to, with the edges from its origin and from
there; and a depth-first search, with a stack or with recursion and in any order of the neighbours, ends
and gives the same.** -/
theorem expand_depthFirst :
    (∀ k, (g.expand origin d r).visited.contains k = true ↔
      r.visited.contains k = true ∨ FreshPath (g.index d) r.visited origin k) ∧
    (∀ e, (g.expand origin d r).edges.contains e = true ↔
      r.edges.contains e = true ∨
        ∃ k, (k = origin ∨ FreshPath (g.index d) r.visited origin k) ∧
          ∃ b ∈ (g.index d).neighbours k, d.edge k b = e) ∧
    ∀ o : NeighbourOrder (g.index d),
      (∃ turns, (Search.step o d)^[turns] (.start o origin r) = ⟨[], g.expand origin d r⟩) ∧
        (descend o d (.enter o origin) r).1 = g.expand origin d r := by
  refine ⟨mem_visited_expand g d origin r, mem_edges_expand g d origin r, fun o => ?_⟩
  obtain ⟨turns, hturns⟩ := Search.iterate_frame o d (.enter o origin) [] r
  have hend := reached_of_iterate g d origin r o hturns
  exact ⟨⟨turns, hend ▸ hturns⟩, hend⟩

end Expand

end PerlCalls.Graph

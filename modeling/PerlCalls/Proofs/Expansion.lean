import Mathlib
import PerlCalls.Proofs.Edges
import PerlCalls.Proofs.Walk

/-! What the walks from a start node leave behind.

A walk goes on from its origin and from every node that it adds: their neighbours in its direction are
visited, and the edges to them are kept (`passed_expand`). Where nothing that has been visited before
stands in its way, it leads to all that its direction leads to (`visited_expand_closed`). A start node
is walked from in both directions, whatever has been visited before (`passed_expandStart`), and each
node that it adds is one that steps in a single direction lead to (`leads_expandStart`). Nothing that
has been reached is ever given up (`Within.expandStart`). -/
namespace PerlCalls.Graph

/-- Steps in one direction, any number of them, lead from a node to another. -/
def CallGraph.Leads (g : CallGraph) (d : Direction) : NodeId → NodeId → Prop :=
  Relation.ReflTransGen (fun a b => b ∈ (g.index d).neighbours a)

namespace Holds

variable {g : CallGraph} {es : List (Edge × Int)}

theorem leads_down_iff (h : Holds g es) (a b : NodeId) :
    g.Leads .down a b ↔ Relation.ReflTransGen (Inserted es) a b := by
  have hstep : (fun a b => b ∈ (g.index .down).neighbours a) = Inserted es :=
    funext₂ fun a b => propext (h.mem_callees_iff a b)
  rw [CallGraph.Leads, hstep]

theorem leads_up_iff (h : Holds g es) (a b : NodeId) :
    g.Leads .up a b ↔ Relation.ReflTransGen (Inserted es) b a := by
  have hstep : (fun a b => b ∈ (g.index .up).neighbours a) = Function.swap (Inserted es) :=
    funext₂ fun a b => propext (h.mem_callers_iff b a)
  rw [CallGraph.Leads, hstep, Relation.reflTransGen_swap]

end Holds

/-! ### Reaching more -/

/-- All of the first has been reached in the second. -/
structure Within (r r' : Reached) : Prop where
  visited : ∀ n, r.visited.contains n = true → r'.visited.contains n = true
  edges : ∀ e, r.edges.contains e = true → r'.edges.contains e = true

/-- The walks have gone on from a node in a direction: its neighbours are visited, and the edges to
them are kept. -/
def Reached.Passed (r : Reached) (g : CallGraph) (d : Direction) (n : NodeId) : Prop :=
  ∀ b ∈ (g.index d).neighbours n, r.visited.contains b = true ∧ r.edges.contains (d.edge n b) = true

namespace Within

variable {r r' r'' : Reached}

theorem refl (r : Reached) : Within r r := ⟨fun _ h => h, fun _ h => h⟩

theorem trans (h : Within r r') (h' : Within r' r'') : Within r r'' :=
  ⟨fun n hn => h'.visited n (h.visited n hn), fun e he => h'.edges e (h.edges e he)⟩

theorem unvisited (h : Within r r') {n : NodeId} (hn : r'.visited.contains n = false) :
    r.visited.contains n = false := by
  rw [← Bool.not_eq_true] at hn ⊢
  exact fun hr => hn (h.visited n hr)

theorem passed (h : Within r r') {g : CallGraph} {d : Direction} {n : NodeId}
    (hn : r.Passed g d n) : r'.Passed g d n :=
  fun b hb => ⟨h.visited b (hn b hb).1, h.edges _ (hn b hb).2⟩

theorem expand (g : CallGraph) (s : NodeId) (d : Direction) (r : Reached) :
    Within r (g.expand s d r) :=
  ⟨fun _ hn => (visited_walk ..).mpr (Or.inl hn), fun _ he => (edges_walk ..).mpr (Or.inl he)⟩

theorem addStart (r : Reached) (s : NodeId) : Within r { r with visited := r.visited.add s } where
  visited n hn := by rw [SortedSet.contains_add, hn, Bool.or_true]
  edges _ he := he

theorem expandStart (g : CallGraph) (r : Reached) (s : NodeId) : Within r (g.expandStart r s) :=
  (addStart r s).trans ((expand ..).trans (expand ..))

theorem foldl_expandStart (g : CallGraph) (starts : List NodeId) (r : Reached) :
    Within r (starts.foldl g.expandStart r) := by
  induction starts generalizing r with
  | nil => exact refl r
  | cons s starts ih => exact (expandStart g r s).trans (ih _)

end Within

/-! ### One walk -/

section Walks
variable {g : CallGraph} {d : Direction} {s n : NodeId} {r : Reached}

theorem FreshPath.leads (h : FreshPath (g.index d) r.visited s n) : g.Leads d s n :=
  (Relation.TransGen.mono (fun _ _ hstep => hstep.1) _ _ h).to_reflTransGen

/-- A walk adds what fresh paths from its origin lead to. -/
theorem freshPath_of_expand (hreached : (g.expand s d r).visited.contains n = true)
    (hnew : r.visited.contains n = false) : FreshPath (g.index d) r.visited s n := by
  rcases (visited_walk ..).mp hreached with hold | ⟨p, hp, hpath⟩
  · rw [hnew] at hold
    cases hold
  · rw [List.mem_singleton.mp hp] at hpath
    exact hpath

/-- Where all neighbours of visited nodes are visited, a walk leads to all that steps in its direction
lead to: the nodes it stops at have nothing unvisited beyond them. -/
theorem visited_expand_closed
    (hclosed : ∀ a b, r.visited.contains a = true → b ∈ (g.index d).neighbours a →
      r.visited.contains b = true) (s n : NodeId) :
    (g.expand s d { r with visited := r.visited.add s }).visited.contains n = true ↔
      g.Leads d s n ∨ r.visited.contains n = true := by
  have hadd : ∀ k, (r.visited.add s).contains k = true ↔ k = s ∨ r.visited.contains k = true := by
    intro k
    rw [SortedSet.contains_add]
    simp
  rw [CallGraph.expand, visited_walk, hadd]
  constructor
  · rintro ((rfl | hold) | ⟨p, hp, hpath⟩)
    · exact Or.inl .refl
    · exact Or.inr hold
    · rw [List.mem_singleton.mp hp] at hpath
      exact Or.inl (FreshPath.leads (r := { r with visited := r.visited.add s }) hpath)
  · rintro (hpath | hold)
    · rw [← hadd]
      induction hpath with
      | refl => exact Or.inl ((hadd s).mpr (Or.inl rfl))
      | @tail k n _ hkn ih =>
        cases hn : (r.visited.add s).contains n with
        | true => exact Or.inl rfl
        | false =>
          have hfresh : FreshStep (g.index d) (r.visited.add s) k n := ⟨hkn, hn⟩
          rcases ih with hk | ⟨p, hp, hpath⟩
          · rcases (hadd k).mp hk with rfl | hk
            · exact Or.inr ⟨k, List.mem_singleton.mpr rfl, .single hfresh⟩
            · rw [(hadd n).mpr (Or.inr (hclosed k n hk hkn))] at hn
              cases hn
          · exact Or.inr ⟨p, hp, hpath.tail hfresh⟩
    · exact Or.inl (Or.inr hold)

/-- A walk goes on from its origin and from every node that it adds. -/
theorem passed_expand
    (hn : n = s ∨ (g.expand s d r).visited.contains n = true ∧ r.visited.contains n = false) :
    (g.expand s d r).Passed g d n := by
  intro b hb
  have hedge : (g.expand s d r).edges.contains (d.edge n b) = true := by
    refine (edges_walk ..).mpr (Or.inr ⟨n, ?_, b, hb, rfl⟩)
    exact hn.imp_left List.mem_singleton.mpr
  refine ⟨(visited_walk ..).mpr ?_, hedge⟩
  cases hvisited : r.visited.contains b with
  | true => exact Or.inl rfl
  | false =>
    have hstep : FreshStep (g.index d) r.visited n b := ⟨hb, hvisited⟩
    refine Or.inr ⟨s, List.mem_singleton.mpr rfl, ?_⟩
    rcases hn with rfl | ⟨hreached, hnew⟩
    · exact .single hstep
    · exact (freshPath_of_expand hreached hnew).tail hstep

end Walks

/-! ### Both walks -/

section Starts
variable (g : CallGraph) (r : Reached) (s : NodeId)

/-- A start node is visited and walked from in both directions. -/
theorem passed_expandStart :
    (g.expandStart r s).visited.contains s = true ∧ ∀ d, (g.expandStart r s).Passed g d s := by
  rw [CallGraph.expandStart]
  have hup := Within.expand g s .up { r with visited := r.visited.add s }
  have hdown := Within.expand g s .down (g.expand s .up { r with visited := r.visited.add s })
  refine ⟨hdown.visited s (hup.visited s ?_), fun d => ?_⟩
  · rw [SortedSet.contains_add, decide_eq_true rfl, Bool.true_or]
  · cases d with
    | up => exact hdown.passed (passed_expand (Or.inl rfl))
    | down => exact passed_expand (Or.inl rfl)

/-- The same after all starts: each of them has had its turn. -/
theorem passed_foldl_expandStart {s : NodeId} {starts : List NodeId} (hs : s ∈ starts) :
    (starts.foldl g.expandStart r).visited.contains s = true ∧
      ∀ d, (starts.foldl g.expandStart r).Passed g d s := by
  obtain ⟨before, after, rfl⟩ := List.append_of_mem hs
  rw [List.foldl_append, List.foldl_cons]
  have hlater := Within.foldl_expandStart g after (g.expandStart (before.foldl g.expandStart r) s)
  obtain ⟨hvisited, hpassed⟩ := passed_expandStart g (before.foldl g.expandStart r) s
  exact ⟨hlater.visited s hvisited, fun d => hlater.passed (hpassed d)⟩

/-- To a node that a start adds, steps in one direction lead, and the walks have gone on from it in
that direction. -/
theorem leads_expandStart {n : NodeId} (hreached : (g.expandStart r s).visited.contains n = true)
    (hnew : r.visited.contains n = false) :
    ∃ d, g.Leads d s n ∧ (g.expandStart r s).Passed g d n := by
  by_cases hn : n = s
  · subst hn
    exact ⟨.up, .refl, (passed_expandStart g r n).2 .up⟩
  · rw [CallGraph.expandStart] at hreached ⊢
    have hbegin : (r.visited.add s).contains n = false := by
      rw [SortedSet.contains_add, decide_eq_false hn, hnew, Bool.or_false]
    cases hup : (g.expand s .up { r with visited := r.visited.add s }).visited.contains n with
    | true =>
      have hpassed := passed_expand (Or.inr ⟨hup, hbegin⟩)
      exact ⟨.up, (freshPath_of_expand hup hbegin).leads, (Within.expand ..).passed hpassed⟩
    | false =>
      exact ⟨.down, (freshPath_of_expand hreached hup).leads, passed_expand (Or.inr ⟨hreached, hup⟩)⟩

end Starts

end PerlCalls.Graph

import Mathlib
import PerlCalls.Proofs.Expansion

/-! What more start nodes do to a traversal.

All walks share one set of visited nodes, and a node that is met going up is not walked down from, nor
the other way round. So a start node that has its turn first can cut short the walk of a later one: if
`b` calls `m`, and `m` calls `a` and `x`, the start `a` meets `m` on its way up, and the walk down from
`b` then stops at `m`, short of `x` (`added_start_hides`).

Nothing else can happen. `Ahead` compares a traversal with one that has further starts: whatever only
the second one has visited, an added start has led to, in a direction in which the walks have gone on
from there. Where a walk of a common start meets such a node in the opposite direction, the node lies
between the two starts. If all nodes there are starts themselves, from which walks go on in both
directions, the second traversal stays ahead (`Ahead.expandStart`), so the added starts take nothing
away (`traverse_more_starts`). -/
namespace PerlCalls.Graph

def Direction.opposite : Direction → Direction
  | .up => .down
  | .down => .up

theorem Direction.eq_or_eq_opposite (d d' : Direction) : d' = d ∨ d' = d.opposite := by
  cases d <;> cases d' <;> simp [Direction.opposite]

/-- The node lies above one of the two and below the other. -/
def CallGraph.Between (g : CallGraph) (s t n : NodeId) : Prop :=
  ∃ d, g.Leads d s n ∧ g.Leads d.opposite t n

/-- In a graph made of edges, a node lies between two others if a chain of calls from one of them to
the other goes through it. -/
theorem Holds.between_iff {g : CallGraph} {es : List (Edge × Int)} (h : Holds g es) (s t n : NodeId) :
    g.Between s t n ↔
      Relation.ReflTransGen (Inserted es) s n ∧ Relation.ReflTransGen (Inserted es) n t ∨
        Relation.ReflTransGen (Inserted es) t n ∧ Relation.ReflTransGen (Inserted es) n s := by
  constructor
  · rintro ⟨d, hs, ht⟩
    cases d with
    | up => exact Or.inr ⟨(h.leads_down_iff t n).mp ht, (h.leads_up_iff s n).mp hs⟩
    | down => exact Or.inl ⟨(h.leads_down_iff s n).mp hs, (h.leads_up_iff t n).mp ht⟩
  · rintro (⟨hs, ht⟩ | ⟨ht, hs⟩)
    · exact ⟨.down, (h.leads_down_iff s n).mpr hs, (h.leads_up_iff t n).mpr ht⟩
    · exact ⟨.up, (h.leads_up_iff s n).mpr hs, (h.leads_down_iff t n).mpr ht⟩

/-! ### Two traversals side by side -/

/-- The second traversal is ahead of the first by what added starts have led to. -/
structure Ahead (g : CallGraph) (added : List NodeId) (r r' : Reached) : Prop where
  within : Within r r'
  extra : ∀ n, r'.visited.contains n = true → r.visited.contains n = false →
    ∃ t ∈ added, ∃ d, g.Leads d t n ∧ r'.Passed g d n

namespace Ahead

variable {g : CallGraph} {added : List NodeId} {r r' : Reached} {s t : NodeId}

theorem refl (g : CallGraph) (added : List NodeId) (r : Reached) : Ahead g added r r where
  within := .refl r
  extra n hn hnew := by
    rw [hn] at hnew
    cases hnew

/-- Only the second traversal has the start. -/
theorem expandStart_added (h : Ahead g added r r') (t : NodeId) :
    Ahead g (added ++ [t]) r (g.expandStart r' t) where
  within := h.within.trans (.expandStart g r' t)
  extra n hn hnew := by
    cases hold : r'.visited.contains n with
    | true =>
      obtain ⟨u, hu, d, hleads, hpassed⟩ := h.extra n hold hnew
      exact ⟨u, List.mem_append_left _ hu, d, hleads, (Within.expandStart g r' t).passed hpassed⟩
    | false =>
      exact ⟨t, List.mem_append_right _ (List.mem_singleton.mpr rfl), leads_expandStart g r' t hn hold⟩

/-- Both traversals walk from a common start. A path of the first one is cut short for the second
only at a node that an added start has led to. If it has led there in the direction of the path, the
walks have gone on from that node already; otherwise the node lies between the two starts, where
nothing but starts may lie. -/
theorem expand (h : Ahead g added r r')
    (hbetween : ∀ t ∈ added, ∀ k, g.Between s t k → k = s ∨ ∀ d, r'.Passed g d k) (d : Direction) :
    Ahead g added (g.expand s d r) (g.expand s d r') := by
  have hwithin := Within.expand g s d r'
  have hgone : ∀ k, (g.expand s d r').visited.contains k = true →
      FreshPath (g.index d) r.visited s k → (g.expand s d r').Passed g d k := by
    intro k hreached hpath
    cases hold : r'.visited.contains k with
    | false => exact passed_expand (Or.inr ⟨hreached, hold⟩)
    | true =>
      obtain ⟨t, ht, d', hleads, hpassed⟩ := h.extra k hold hpath.unvisited
      rcases d.eq_or_eq_opposite d' with rfl | rfl
      · exact hwithin.passed hpassed
      · rcases hbetween t ht k ⟨d, hpath.leads, hleads⟩ with rfl | hstart
        · exact passed_expand (Or.inl rfl)
        · exact hwithin.passed (hstart d)
  have hpath : ∀ n, FreshPath (g.index d) r.visited s n →
      (g.expand s d r').visited.contains n = true := by
    intro n hn
    induction hn with
    | single hstep => exact (passed_expand (Or.inl rfl) _ hstep.1).1
    | @tail k n hk hstep ih => exact (hgone k ih hk n hstep.1).1
  refine ⟨⟨fun n hn => ?_, fun e he => ?_⟩, fun n hn hnew => ?_⟩
  · cases hold : r.visited.contains n with
    | true => exact hwithin.visited n (h.within.visited n hold)
    | false => exact hpath n (freshPath_of_expand hn hold)
  · rcases (edges_walk ..).mp he with hold | ⟨k, hk, b, hb, rfl⟩
    · exact hwithin.edges e (h.within.edges e hold)
    · rcases hk with hk | ⟨hreached, hnew⟩
      · exact (passed_expand (Or.inl (List.mem_singleton.mp hk)) b hb).2
      · have hfresh := freshPath_of_expand hreached hnew
        exact (hgone k (hpath k hfresh) hfresh b hb).2
  · -- a path that is fresh for the second traversal is fresh for the first
    have hnew' := (Within.expand g s d r).unvisited hnew
    cases hold : r'.visited.contains n with
    | true =>
      obtain ⟨t, ht, d', hleads, hpassed⟩ := h.extra n hold hnew'
      exact ⟨t, ht, d', hleads, hwithin.passed hpassed⟩
    | false =>
      have hfresh := FreshPath.of_subset h.within.visited (freshPath_of_expand hn hold)
      have hreached := (visited_walk (g.index d) d [s] r n).mpr
        (Or.inr ⟨s, List.mem_singleton.mpr rfl, hfresh⟩)
      rw [CallGraph.expand, hreached] at hnew
      cases hnew

theorem addStart (h : Ahead g added r r') (s : NodeId) :
    Ahead g added { r with visited := r.visited.add s } { r' with visited := r'.visited.add s } := by
  refine ⟨⟨fun n hn => ?_, h.within.edges⟩, fun n hn hnew => ?_⟩
  · rw [SortedSet.contains_add, Bool.or_eq_true] at hn ⊢
    exact hn.imp_right (h.within.visited n)
  · rw [SortedSet.contains_add, Bool.or_eq_false_iff] at hnew
    rw [SortedSet.contains_add, hnew.1, Bool.false_or] at hn
    obtain ⟨t, ht, d, hleads, hpassed⟩ := h.extra n hn hnew.2
    exact ⟨t, ht, d, hleads, (Within.addStart r' s).passed hpassed⟩

/-- Both traversals have the start. -/
theorem expandStart (h : Ahead g added r r')
    (hbetween : ∀ t ∈ added, ∀ k, g.Between s t k → k = s ∨ ∀ d, r'.Passed g d k) :
    Ahead g added (g.expandStart r s) (g.expandStart r' s) := by
  have hbegin := Within.addStart r' s
  have hup := Within.expand g s .up { r' with visited := r'.visited.add s }
  refine ((h.addStart s).expand (fun t ht k hk => ?_) .up).expand (fun t ht k hk => ?_) .down
  · exact (hbetween t ht k hk).imp_right fun hk d => hbegin.passed (hk d)
  · exact (hbetween t ht k hk).imp_right fun hk d => hup.passed (hbegin.passed (hk d))

/-- All starts in turn: the first traversal has only the `common` ones. -/
theorem foldl_expandStart (g : CallGraph) (common : NodeId → Bool) (starts : List NodeId)
    (hsorted : starts.Pairwise (· < ·))
    (hbetween : ∀ s ∈ starts, common s = true → ∀ t ∈ starts, common t = false → t < s →
      ∀ k, g.Between s t k → k ∈ starts ∧ k ≤ s) :
    Ahead g (starts.filter (fun t => !common t)) ((starts.filter common).foldl g.expandStart {})
      (starts.foldl g.expandStart {}) := by
  induction starts using List.reverseRecOn with
  | nil => exact refl g [] {}
  | append_singleton starts s ih =>
    obtain ⟨hbefore, -, hlast⟩ := List.pairwise_append.mp hsorted
    have hlt : ∀ t ∈ starts, t < s := fun t ht => hlast t ht s (List.mem_singleton.mpr rfl)
    have hahead := ih hbefore fun s' hs' hcommon t ht hadded hts k hk => by
      obtain ⟨hmem, hle⟩ := hbetween s' (List.mem_append_left _ hs') hcommon t
        (List.mem_append_left _ ht) hadded hts k hk
      refine ⟨(List.mem_append.mp hmem).resolve_right fun hks => ?_, hle⟩
      exact absurd (hlt s' hs') (List.mem_singleton.mp hks ▸ hle).not_gt
    rw [List.filter_append, List.filter_append, List.foldl_append, List.foldl_append]
    cases hs : common s with
    | false =>
      simp only [List.filter_cons, hs]
      exact hahead.expandStart_added s
    | true =>
      simp only [List.filter_cons, hs]
      refine (List.append_nil _).symm ▸ hahead.expandStart fun t ht k hk => ?_
      obtain ⟨ht, hadded⟩ := List.mem_filter.mp ht
      have hmem := (hbetween s (List.mem_append_right _ (List.mem_singleton.mpr rfl)) hs t
        (List.mem_append_left _ ht) (by simpa using hadded) (hlt t ht) k hk).1
      rcases List.mem_append.mp hmem with hdone | hself
      · exact Or.inr (passed_foldl_expandStart g {} hdone).2
      · exact Or.inl (List.mem_singleton.mp hself)

end Ahead

/-- The starts of a traversal that others have been added to are those of the larger one, less the
added ones. -/
theorem ofList_filter {few many : List NodeId} (hsub : ∀ s ∈ few, s ∈ many) :
    (SortedSet.ofList few).elems = (SortedSet.ofList many).elems.filter (fun s => few.contains s) := by
  refine SortedMap.eq_of_increase (SortedSet.elems_increase _)
    ((SortedSet.elems_increase _).filter _) fun s => ?_
  rw [List.mem_filter, SortedSet.mem_elems_ofList, SortedSet.mem_elems_ofList, List.contains_iff_mem]
  exact ⟨fun hs => ⟨hsub s hs, hs⟩, fun hs => hs.2⟩

/-- **More starts take away only what lies behind a node between starts.** In any case a start is kept
with all edges at it. If moreover, wherever an added start comes before a common one, all nodes between
the two are starts that come no later than the common one, then all that the common starts lead to is
kept. -/
theorem traverse_more_starts (g : CallGraph) {few many : List NodeId} (hsub : ∀ s ∈ few, s ∈ many) :
    (∀ s ∈ few, (g.traverse many).visited.contains s = true ∧
      ∀ d, ∀ b ∈ (g.index d).neighbours s, (g.traverse many).visited.contains b = true ∧
        (g.traverse many).edges.contains (d.edge s b) = true) ∧
    ((∀ s ∈ few, ∀ t ∈ many, t ∉ few → t < s → ∀ n, g.Between s t n → n ∈ many ∧ n ≤ s) →
      (∀ n, (g.traverse few).visited.contains n = true → (g.traverse many).visited.contains n = true) ∧
        ∀ e, (g.traverse few).edges.contains e = true → (g.traverse many).edges.contains e = true) := by
  have hmem := SortedSet.mem_elems_ofList many
  refine ⟨fun s hs => passed_foldl_expandStart g {} ((hmem s).mpr (hsub s hs)), fun hbetween => ?_⟩
  have hsorted : (SortedSet.ofList many).elems.Pairwise (· < ·) :=
    (SortedSet.elems_increase _).imp compare_eq_lt_iff.mp
  have hahead := Ahead.foldl_expandStart g (fun s => few.contains s) _ hsorted
    fun s _ hs t ht hadded hts n hn => by
      have ⟨hn, hle⟩ := hbetween s (List.contains_iff_mem.mp hs) t ((hmem t).mp ht)
        (fun hfew => Bool.false_ne_true (hadded.symm.trans (List.contains_iff_mem.mpr hfew))) hts n hn
      exact ⟨(hmem n).mpr hn, hle⟩
  rw [← ofList_filter hsub] at hahead
  exact ⟨hahead.within.visited, hahead.within.edges⟩

/-- `a` calls `b` and `c`, and `b` calls `c`, which calls `d`. -/
def sharedCallee : List (Edge × Int) :=
  [(⟨"a", "b"⟩, 1), (⟨"a", "c"⟩, 1), (⟨"b", "c"⟩, 2), (⟨"c", "d"⟩, 1)]

/-- A start added above another one: nothing but the two lies between them, so although the walk from
`b` stops at `c`, nothing is lost. -/
theorem traverse_more_starts_sharedCallee :
    let g := CallGraph.ofEdges sharedCallee
    (g.Between "b" "a" "a" ∧ ∀ n, g.Between "b" "a" n → n = "a" ∨ n = "b") ∧
      (∀ n, (g.traverse ["b"]).visited.contains n = true →
        (g.traverse ["a", "b"]).visited.contains n = true) ∧
      ∀ e, (g.traverse ["b"]).edges.contains e = true →
        (g.traverse ["a", "b"]).edges.contains e = true := by
  intro g
  have hg : Holds g sharedCallee := Holds.ofEdges sharedCallee
  have hcaller : ∀ k, ¬Inserted sharedCallee k "a" ∧ (Inserted sharedCallee k "b" → k = "a") := by
    simp [Inserted, sharedCallee]
  have habove : ∀ n, Relation.ReflTransGen (Inserted sharedCallee) n "a" → n = "a" := by
    intro n h
    rcases h.cases_tail with rfl | ⟨k, -, hk⟩
    · rfl
    · exact absurd hk (hcaller k).1
  have hbetween : ∀ n, g.Between "b" "a" n → n = "a" ∨ n = "b" := by
    intro n hn
    rcases (hg.between_iff ..).mp hn with ⟨-, h⟩ | ⟨-, h⟩
    · exact Or.inl (habove n h)
    · rcases h.cases_tail with rfl | ⟨k, h, hk⟩
      · exact Or.inr rfl
      · exact Or.inl (habove n ((hcaller k).2 hk ▸ h))
  have hcall : Inserted sharedCallee "a" "b" := ⟨1, by simp [sharedCallee]⟩
  refine ⟨⟨(hg.between_iff ..).mpr (Or.inr ⟨.refl, .single hcall⟩), hbetween⟩,
    (@traverse_more_starts g ["b"] ["a", "b"] (by decide)).2 fun s hs t ht hadded _ n hn => ?_⟩
  rw [List.mem_singleton.mp hs] at hn ⊢
  rcases List.mem_cons.mp ht with rfl | ht
  · rcases hbetween n hn with rfl | rfl <;> decide
  · exact absurd ht hadded

/-- `b` calls `m`, which calls `a` and `x`. -/
def forkedCalls : List (Edge × Int) := [(⟨"b", "m"⟩, 1), (⟨"m", "a"⟩, 1), (⟨"m", "x"⟩, 1)]

/-- An added start can take something away: `a` leads up to `m`, where the walk down from `b` then
stops. -/
theorem added_start_hides :
    let few := (CallGraph.ofEdges forkedCalls).traverse ["b"]
    let many := (CallGraph.ofEdges forkedCalls).traverse ["a", "b"]
    (few.visited.contains "x" = true ∧ many.visited.contains "x" = false) ∧
      few.edges.contains ⟨"m", "x"⟩ = true ∧ many.edges.contains ⟨"m", "x"⟩ = false := by
  cbv

end PerlCalls.Graph

import Mathlib
import PerlCalls.Proofs.FileOrder

/-! A graph depends on which definitions and calls there are, not on their order.

Counts are added up, so tables and indexes do not depend on the order of the calls (`Holds.unique`,
`sumOf?_perm`). Notes on ambiguous calls are kept in a list that is sorted by caller and callee
only, and the order of the calls would show in it if two notes of the same caller and callee could
differ. They cannot: the files that a note names are settled by the callee
(`Noted.eq_of_edge`). What remains is the table of definitions, where of several definitions of one
identifier the last counts (`build_perm`). -/
namespace PerlCalls.Graph

/-! ### Indexes -/

namespace Adjacency

/-- An index is known by its keys and its weights. -/
theorem ext_weight? {m m' : Adjacency} (hkeys : ∀ a, m.contains a = true ↔ m'.contains a = true)
    (hweights : ∀ a b, m.weight? a b = m'.weight? a b) : m = m' := by
  refine SortedMap.ext_find? fun a => ?_
  have hkey := hkeys a
  have hweight := hweights a
  simp only [SortedMap.contains] at hkey
  simp only [weight?] at hweight
  cases hm : m.find? a with
  | none =>
    cases hm' : m'.find? a with
    | none => rfl
    | some inner' => simp [hm, hm'] at hkey
  | some inner =>
    cases hm' : m'.find? a with
    | none => simp [hm, hm'] at hkey
    | some inner' =>
      have hinner : ∀ b, inner.find? b = inner'.find? b := by simpa [hm, hm'] using hweight
      rw [SortedMap.ext_find? hinner]

end Adjacency

namespace Holds

variable {g g' : CallGraph} {es es' : List (Edge × Int)}

theorem of_perm (h : Holds g es) (hperm : es.Perm es') : Holds g es' := by
  have hinserted : ∀ a b, Inserted es a b ↔ Inserted es' a b := fun a b =>
    exists_congr fun w => hperm.mem_iff
  exact {
    forward := fun a b => by rw [h.forward, sumOf?_perm _ _ hperm]
    backward := fun a b => by rw [h.backward, sumOf?_perm _ _ hperm]
    caller := fun a => by simp only [h.caller, hinserted]
    callee := fun b => by simp only [h.callee, hinserted] }

/-- Graphs that hold the same edges have the same indexes. -/
theorem unique (h : Holds g es) (h' : Holds g' es) :
    g.invokes = g'.invokes ∧ g.invokedBy = g'.invokedBy := by
  refine ⟨Adjacency.ext_weight? (fun a => ?_) fun a b => ?_,
    Adjacency.ext_weight? (fun b => ?_) fun b a => ?_⟩
  · rw [h.caller, h'.caller]
  · rw [h.forward, h'.forward]
  · rw [h.callee, h'.callee]
  · rw [h.backward, h'.backward]

end Holds

/-! ### Notes on ambiguous calls -/

/-- A note says the same as any other on the same caller and callee. -/
theorem Noted.eq_of_edge {ds : List Definition} {ignores : String → Bool} {c c' : Call}
    {a a' : AmbiguousCall} (h : Noted ds ignores c a) (h' : Noted ds ignores c' a')
    (hedge : a.edge = a'.edge) : a = a' := by
  obtain ⟨caller, callee, files⟩ := a
  obtain ⟨caller', callee', files'⟩ := a'
  obtain ⟨rfl, rfl⟩ : caller = caller' ∧ callee = callee' := by
    simpa [AmbiguousCall.edge] using hedge
  have hcallee : callee = c.callee := h.2.1
  have hcallee' : callee = c'.callee := h'.2.1
  obtain ⟨hsorted, hfiles⟩ : files.Pairwise (· < ·) ∧
      ∀ file, file ∈ files ↔ Declares ds callee file := by
    rw [hcallee]
    cases h.2.2 with
    | ambiguous _ _ hsorted hfiles _ => exact ⟨hsorted, hfiles⟩
  obtain ⟨hsorted', hfiles'⟩ : files'.Pairwise (· < ·) ∧
      ∀ file, file ∈ files' ↔ Declares ds callee file := by
    rw [hcallee']
    cases h'.2.2 with
    | ambiguous _ _ hsorted hfiles _ => exact ⟨hsorted, hfiles⟩
  have heq : files = files' := SortedMap.eq_of_increase (hsorted.imp compare_eq_lt_iff.mpr)
    (hsorted'.imp compare_eq_lt_iff.mpr) fun file => (hfiles file).trans (hfiles' file).symm
  rw [heq]

theorem AmbiguousCall.edge_eq_of_notAfter {a b : AmbiguousCall} (hab : a.notAfter b = true)
    (hba : b.notAfter a = true) : a.edge = b.edge :=
  Std.LawfulEqCmp.eq_of_compare (Std.OrientedCmp.isLE_antisymm hab hba)

/-! ### Graphs -/

attribute [ext] CallGraph

section Order
variable (ignores : String → Bool) {ds ds' : List Definition} {calls calls' : List Call}

/-- The notes come out in one order, in whichever order the calls went in. -/
theorem ambiguous_build_perm (hcalls : calls.Perm calls') :
    (CallGraph.build ignores ds calls).ambiguous = (CallGraph.build ignores ds calls').ambiguous := by
  have hnotes : ∀ calls, (CallGraph.build ignores ds calls).ambiguous.Perm
      (calls.filterMap (noteOf? ds ignores)) := by
    intro calls
    rw [← (Accounts.collect ds ignores calls).ambiguous]
    exact List.mergeSort_perm ..
  have hnoted : ∀ calls, ∀ a ∈ (CallGraph.build ignores ds calls).ambiguous,
      ∃ c, Noted ds ignores c a := by
    intro calls a ha
    obtain ⟨c, -, hc⟩ := List.mem_filterMap.mp ((hnotes calls).mem_iff.mp ha)
    exact ⟨c, noteOf?_eq_some_iff.mp hc⟩
  have hperm : (CallGraph.build ignores ds calls).ambiguous.Perm
      (CallGraph.build ignores ds calls').ambiguous :=
    (hnotes calls).trans ((hcalls.filterMap _).trans (hnotes calls').symm)
  refine hperm.eq_of_pairwise (fun a b ha hb hab hba => ?_) (sortAmbiguous_sorted _)
    (sortAmbiguous_sorted _)
  obtain ⟨c, hc⟩ := hnoted calls a ha
  obtain ⟨c', hc'⟩ := hnoted calls' b hb
  exact hc.eq_of_edge hc' (AmbiguousCall.edge_eq_of_notAfter hab hba)

/-- The order of the calls does not matter at all. -/
theorem build_perm_calls (hcalls : calls.Perm calls') :
    CallGraph.build ignores ds calls = CallGraph.build ignores ds calls' := by
  have h := Accounts.collect ds ignores calls
  have h' := Accounts.collect ds ignores calls'
  obtain ⟨hinvokes, hinvokedBy⟩ := ((Holds.build ignores ds calls).of_perm
    (hcalls.filterMap _)).unique (Holds.build ignores ds calls')
  have hexternal : (CallGraph.build ignores ds calls).external =
      (CallGraph.build ignores ds calls').external :=
    SortedMap.ext_find? fun n =>
      (h.external n).trans ((sumOf?_perm _ _ hcalls).trans (h'.external n).symm)
  have hignored : (CallGraph.build ignores ds calls).ignored =
      (CallGraph.build ignores ds calls').ignored :=
    SortedMap.ext_find? fun n =>
      (h.ignored n).trans ((sumOf?_perm _ _ hcalls).trans (h'.ignored n).symm)
  have hdefinitions : (CallGraph.build ignores ds calls).definitions =
      (CallGraph.build ignores ds calls').definitions := by
    rw [CallGraph.definitions_build, CallGraph.definitions_build]
  exact CallGraph.ext hdefinitions hinvokes hinvokedBy hexternal hignored
    (ambiguous_build_perm ignores hcalls)

/-- The order of the definitions matters to the table of definitions at most. -/
theorem build_perm_definitions (hds : ds.Perm ds') :
    CallGraph.build ignores ds' calls = (CallGraph.build ignores ds calls).withDefinitions
      (CallGraph.build ignores ds' calls).definitions := by
  have hdeclares : ∀ name file, Declares ds name file ↔ Declares ds' name file := fun name file =>
    exists_congr fun d => and_congr_left' hds.mem_iff
  rw [CallGraph.build, CallGraph.collect_congr hdeclares]
  rfl

/-- Definitions of different identifiers make one table, in whichever order. -/
theorem definitions_build_perm (hds : ds.Perm ds') (hids : (ds.map Definition.id).Nodup) :
    (CallGraph.build ignores ds calls).definitions =
      (CallGraph.build ignores ds' calls').definitions := by
  have hinj : ∀ d ∈ ds, ∀ d' ∈ ds, d.id = d'.id → d = d' := fun d hd d' hd' =>
    List.inj_on_of_nodup_map hids hd hd'
  have hinj' : ∀ d ∈ ds', ∀ d' ∈ ds', d.id = d'.id → d = d' := fun d hd d' hd' =>
    hinj d (hds.mem_iff.mpr hd) d' (hds.mem_iff.mpr hd')
  rw [CallGraph.definitions_build, CallGraph.definitions_build]
  refine SortedMap.ext_find? fun id => Option.ext fun d => ?_
  rw [find?_foldl_insert hinj, find?_foldl_insert hinj', hds.mem_iff]

end Order

/-- **A graph does not depend on the order of what it is built from.** Definitions and calls in any
other order give the same indexes, counts and notes, so the same start nodes, traversals and
drawings, and the same table of definitions if no two of them share an identifier. -/
theorem build_perm (ignores : String → Bool) {ds ds' : List Definition} {calls calls' : List Call}
    (hds : ds.Perm ds') (hcalls : calls.Perm calls') :
    let g := CallGraph.build ignores ds calls
    let g' := CallGraph.build ignores ds' calls'
    g.invokes = g'.invokes ∧ g.invokedBy = g'.invokedBy ∧ g.external = g'.external ∧
      g.ignored = g'.ignored ∧ g.ambiguous = g'.ambiguous ∧
      (∀ selects, g.startNodes selects = g'.startNodes selects) ∧
      (∀ starts, g.traverse starts = g'.traverse starts) ∧
      (∀ selects options, Export.dotText (g.traverse (g.startNodes selects)) options =
        Export.dotText (g'.traverse (g'.startNodes selects)) options) ∧
      ((ds.map Definition.id).Nodup → g.definitions = g'.definitions) := by
  intro g g'
  have hg' : g' = g.withDefinitions g'.definitions := by
    have hcalls : CallGraph.build ignores ds' calls' = CallGraph.build ignores ds' calls :=
      build_perm_calls ignores hcalls.symm
    show CallGraph.build ignores ds' calls' = _
    rw [hcalls, build_perm_definitions ignores hds, ← hcalls]
  have hstarts : ∀ selects, g.startNodes selects = g'.startNodes selects := by
    intro selects
    rw [hg']
    cases selects <;> rfl
  have htraverse : ∀ starts, g.traverse starts = g'.traverse starts := by
    intro starts
    rw [hg']
    rfl
  refine ⟨?_, ?_, ?_, ?_, ?_, hstarts, htraverse, fun selects options => ?_,
    definitions_build_perm ignores hds⟩
  · rw [hg']; rfl
  · rw [hg']; rfl
  · rw [hg']; rfl
  · rw [hg']; rfl
  · rw [hg']; rfl
  · rw [hstarts, htraverse]

/-- Two calls from different subroutines that share an identifier leave equal notes; the definitions
have different identifiers. -/
theorem build_perm_sharedCaller :
    let ds : List Definition :=
      [⟨"f", "x.pl", 1, false⟩, ⟨"f", "y.pl", 2, false⟩, ⟨"g", "y.pl", 3, false⟩]
    let calls : List Call := [⟨"c", "a:b", "f", 1⟩, ⟨"b:c", "a", "f", 2⟩, ⟨"c", "a:b", "g", 1⟩]
    let g := CallGraph.build (fun _ => false) ds calls
    let g' := CallGraph.build (fun _ => false) ds.reverse calls.reverse
    g.ambiguous = [⟨"a:b:c", "f", ["x.pl", "y.pl"]⟩, ⟨"a:b:c", "f", ["x.pl", "y.pl"]⟩] ∧
      g'.ambiguous = g.ambiguous ∧ g'.invokes = g.invokes ∧ g'.definitions = g.definitions := by
  intro ds calls g g'
  have hcollected : (CallGraph.collect (fun _ => false) ds calls).ambiguous =
      [⟨"a:b:c", "f", ["x.pl", "y.pl"]⟩, ⟨"a:b:c", "f", ["x.pl", "y.pl"]⟩] := by decide +kernel
  have hnotes : g.ambiguous = _ := (congrArg (List.mergeSort · AmbiguousCall.notAfter) hcollected).trans
    (List.mergeSort_of_pairwise (by decide +kernel))
  obtain ⟨hinvokes, -, -, -, hambiguous, -, -, -, hdefinitions⟩ :=
    build_perm (fun _ => false) (List.reverse_perm ds).symm (List.reverse_perm calls).symm
  exact ⟨hnotes, hambiguous.symm, hinvokes.symm, (hdefinitions (by decide +kernel)).symm⟩

end PerlCalls.Graph

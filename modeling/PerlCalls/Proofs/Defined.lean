import Mathlib
import PerlCalls.Export.Json
import PerlCalls.Proofs.Recorded
import PerlCalls.Proofs.Resolution
import PerlCalls.Proofs.Walk

/-! Every node of a scanned graph stands for a definition.

A graph is given its definitions one by one, by identifier. Those of a scan have different
identifiers, so each is found again under its own (`Recorded.find?_build`). Callers are defined
because the scan has recorded them, callees because resolution leads to declared names only, and a
traversal visits nothing but starts and ends of edges. -/
namespace PerlCalls

namespace Graph

/-! ### The table of definitions -/

theorem CallGraph.definitions_enter (g : CallGraph) (c : Call) (v : Verdict) :
    (g.enter c v).definitions = g.definitions := by
  cases v <;> rfl

theorem CallGraph.definitions_build (ignores : String → Bool) (ds : List Definition)
    (calls : List Call) :
    (CallGraph.build ignores ds calls).definitions =
      ds.foldl (fun m d => m.insert d.id d) SortedMap.empty := by
  show (CallGraph.collect ignores ds calls).definitions = _
  induction calls using List.reverseRecOn with
  | nil =>
    rw [CallGraph.collect, List.foldl_nil, CallGraph.foldl_define]
  | append_singleton calls c ih =>
    rw [CallGraph.collect_concat, CallGraph.definitions_enter]
    exact ih

/-- Definitions with different identifiers are each found under their own. -/
theorem find?_foldl_insert {ds : List Definition}
    (hinj : ∀ d ∈ ds, ∀ d' ∈ ds, d.id = d'.id → d = d') (id : NodeId) (d : Definition) :
    (ds.foldl (fun m d => m.insert d.id d) (SortedMap.empty : SortedMap NodeId Definition)).find? id =
      some d ↔ d ∈ ds ∧ d.id = id := by
  induction ds using List.reverseRecOn with
  | nil => simp
  | append_singleton ds e ih =>
    have ih := ih fun d hd d' hd' =>
      hinj d (List.mem_append_left _ hd) d' (List.mem_append_left _ hd')
    have he : e ∈ ds ++ [e] := List.mem_append_right _ (List.mem_singleton.mpr rfl)
    rw [List.foldl_concat, SortedMap.find?_insert]
    by_cases hid : id = e.id
    · rw [if_pos hid]
      constructor
      · intro h
        cases h
        exact ⟨he, hid.symm⟩
      · rintro ⟨hd, hdid⟩
        rw [hinj e he d hd (hid.symm.trans hdid.symm)]
    · rw [if_neg hid, ih, List.mem_append, List.mem_singleton]
      constructor
      · rintro ⟨hd, hdid⟩
        exact ⟨Or.inl hd, hdid⟩
      · rintro ⟨hd | rfl, hdid⟩
        · exact ⟨hd, hdid⟩
        · exact absurd hdid.symm hid

theorem declares_of_policy {ds : List Definition} {ignores : String → Bool} {c : Call}
    {file : String} (h : Policy ds ignores c (.resolved file)) : Declares ds c.callee file := by
  cases h with
  | own _ hdeclares => exact hdeclares
  | only _ hdeclares _ => exact hdeclares

/-- A resolved call leads to a declaration. -/
theorem Targets.declared {ds : List Definition} {ignores : String → Bool} {c : Call} {v : NodeId}
    (h : Targets ds ignores c v) : ∃ d ∈ ds, d.implicit = false ∧ d.id = v := by
  obtain ⟨file, hpolicy, rfl⟩ := h
  obtain ⟨d, hd, himplicit, hname, hfile⟩ := declares_of_policy hpolicy
  exact ⟨d, hd, himplicit, by rw [Definition.id, hname, hfile]⟩

/-! ### A traversal stays on nodes -/

theorem visited_expand {g : CallGraph} {P : NodeId → Prop}
    (hstep : ∀ d a b, b ∈ (g.index d).neighbours a → P b) {r : Reached}
    (hr : ∀ n, r.visited.contains n = true → P n) (origin : NodeId) (d : Direction) (n : NodeId)
    (hn : (g.expand origin d r).visited.contains n = true) : P n := by
  rcases (visited_walk ..).mp hn with hold | ⟨p, -, hpath⟩
  · exact hr n hold
  · cases hpath with
    | single h => exact hstep d _ _ h.1
    | tail _ h => exact hstep d _ _ h.1

/-- What holds of the starts and of all neighbours holds of all that is visited. -/
theorem visited_traverse {g : CallGraph} {P : NodeId → Prop}
    (hstep : ∀ d a b, b ∈ (g.index d).neighbours a → P b) {starts : List NodeId}
    (hstarts : ∀ s ∈ starts, P s) (n : NodeId)
    (hn : (g.traverse starts).visited.contains n = true) : P n := by
  have hfold : ∀ nodes : List NodeId, (∀ s ∈ nodes, P s) → ∀ n,
      (nodes.foldl g.expandStart {}).visited.contains n = true → P n := by
    intro nodes
    induction nodes using List.reverseRecOn with
    | nil => simp [SortedMap.contains]
    | append_singleton nodes s ih =>
      intro hnodes
      rw [List.foldl_concat, CallGraph.expandStart]
      refine visited_expand hstep (visited_expand hstep (fun k hk => ?_) s .up) s .down
      rw [SortedSet.contains_add, Bool.or_eq_true] at hk
      rcases hk with hk | hk
      · rw [of_decide_eq_true hk]
        exact hnodes s (List.mem_append_right _ (List.mem_singleton.mpr rfl))
      · exact ih (fun k hk => hnodes k (List.mem_append_left _ hk)) k hk
  refine hfold _ (fun s hs => hstarts s ?_) n hn
  exact (SortedSet.mem_elems_ofList starts s).mp hs

theorem mem_nodes_of_mem_startNodes {g : CallGraph} {selects : Option (NodeId → Bool)} {n : NodeId}
    (h : n ∈ g.startNodes selects) : g.nodes.contains n = true := by
  cases selects with
  | none => exact SortedSet.mem_elems_iff.mp (List.mem_filter.mp h).1
  | some select => exact SortedSet.mem_elems_iff.mp (List.mem_filter.mp h).1

end Graph

namespace Scan

open PerlCalls.Graph

/-! ### Definitions of a scan -/

namespace Recorded

variable {t : Tally} {d d' : Definition}

theorem mem_definitionList_iff (h : Recorded t) :
    d ∈ t.definitionList ↔ t.definitions.find? d.site = some d := by
  rw [Tally.definitionList, SortedMap.mem_values_iff]
  constructor
  · rintro ⟨site, hd⟩
    rw [(h.definition hd).1]
    exact hd
  · exact fun hd => ⟨d.site, hd⟩

theorem isPlain (h : Recorded t) (hd : d ∈ t.definitionList) : IsPlain d.name :=
  (h.definition (h.mem_definitionList_iff.mp hd)).2

/-- Different definitions have different identifiers. -/
theorem eq_of_id_eq (h : Recorded t) (hd : d ∈ t.definitionList) (hd' : d' ∈ t.definitionList)
    (hid : d.id = d'.id) : d = d' := by
  obtain ⟨hfile, hname⟩ := qualify_inj (h.isPlain hd) (h.isPlain hd') hid
  have hsite : d.site = d'.site := by rw [Definition.site, hfile, hname, Definition.site]
  have hfound := h.mem_definitionList_iff.mp hd
  rw [hsite, h.mem_definitionList_iff.mp hd'] at hfound
  exact (Option.some.inj hfound).symm

theorem find?_build (h : Recorded t) (ignores : String → Bool) (calls : List Call) (id : NodeId) :
    (CallGraph.build ignores t.definitionList calls).definitions.find? id = some d ↔
      d ∈ t.definitionList ∧ d.id = id := by
  rw [CallGraph.definitions_build]
  exact find?_foldl_insert (fun d hd d' hd' hid => h.eq_of_id_eq hd hd' hid) id d

theorem caller_id (h : Recorded t) {c : Call} (hc : c ∈ t.callList) :
    ∃ d ∈ t.definitionList, d.id = c.callerId := by
  obtain ⟨⟨k, n⟩, he, rfl⟩ := List.mem_map.mp hc
  obtain ⟨d, hd⟩ := h.caller (SortedMap.mem_entries_iff.mp he)
  have hsite := (h.definition hd).1
  refine ⟨d, h.mem_definitionList_iff.mpr (by rw [hsite]; exact hd), ?_⟩
  have hfile : d.file = k.file := congrArg Site.file hsite
  have hname : d.name = k.caller := congrArg Site.name hsite
  rw [Definition.id, hfile, hname]
  rfl

/-- The two ends of an edge: the caller is defined, the callee declared. -/
theorem edge_ends (h : Recorded t) {ignores : String → Bool} {a b : NodeId}
    (hedge : Inserted (t.callList.filterMap (edgeOf? t.definitionList ignores)) a b) :
    (∃ d ∈ t.definitionList, d.id = a) ∧ ∃ d ∈ t.definitionList, d.implicit = false ∧ d.id = b := by
  obtain ⟨w, hw⟩ := hedge
  obtain ⟨c, hc, he⟩ := List.mem_filterMap.mp hw
  obtain ⟨hcaller, htarget, -⟩ := edgeOf?_eq_some_iff.mp he
  refine ⟨?_, htarget.declared⟩
  rw [show a = c.callerId from hcaller]
  exact h.caller_id hc

/-- A node that is called stands for a declaration. -/
theorem callee_declared (h : Recorded t) {ignores : String → Bool} {a n : NodeId}
    (hedge : Inserted (t.callList.filterMap (edgeOf? t.definitionList ignores)) a n) :
    ∃ d, (CallGraph.build ignores t.definitionList t.callList).definitions.find? n = some d ∧
      d.implicit = false := by
  obtain ⟨d, hd, himplicit, hid⟩ := (h.edge_ends hedge).2
  exact ⟨d, (h.find?_build ..).mpr ⟨hd, hid⟩, himplicit⟩

theorem node_defined (h : Recorded t) {ignores : String → Bool} {n : NodeId}
    (hn : (CallGraph.build ignores t.definitionList t.callList).nodes.contains n = true) :
    ∃ d, (CallGraph.build ignores t.definitionList t.callList).definitions.find? n = some d := by
  rcases ((Holds.build ..).mem_nodes_iff n).mp hn with ⟨b, hedge⟩ | ⟨a, hedge⟩
  · obtain ⟨d, hd, hid⟩ := (h.edge_ends hedge).1
    exact ⟨d, (h.find?_build ..).mpr ⟨hd, hid⟩⟩
  · obtain ⟨d, hd, -⟩ := h.callee_declared hedge
    exact ⟨d, hd⟩

/-- A traversal visits starts and ends of edges, and all of these are nodes. -/
theorem visited_defined (h : Recorded t) {ignores : String → Bool} {g : CallGraph}
    (hg : g = CallGraph.build ignores t.definitionList t.callList)
    {selects : Option (NodeId → Bool)} {n : NodeId}
    (hn : (g.traverse (g.startNodes selects)).visited.contains n = true) :
    ∃ d, g.definitions.find? n = some d := by
  subst hg
  have hholds := Holds.build ignores t.definitionList t.callList
  refine visited_traverse (fun d a b hb => h.node_defined ((hholds.mem_nodes_iff b).mpr ?_))
    (fun n hn => h.node_defined (mem_nodes_of_mem_startNodes hn)) n hn
  cases d with
  | up => exact Or.inl ⟨a, (hholds.mem_callers_iff b a).mp hb⟩
  | down => exact Or.inr ⟨a, (hholds.mem_callees_iff a b).mp hb⟩

theorem splitQualified_of_find? (h : Recorded t) {ignores : String → Bool} {calls : List Call}
    {id : NodeId}
    (hd : (CallGraph.build ignores t.definitionList calls).definitions.find? id = some d) :
    splitQualified id = (d.file, d.name) := by
  obtain ⟨hmem, rfl⟩ := (h.find?_build ..).mp hd
  exact splitQualified_qualify d.file (h.isPlain hmem)

end Recorded

/-- **Every node of a scanned graph stands for a definition**, and so does all that a traversal of it
visits. A node that is called stands for a declaration. Definitions of different files or names have
different identifiers, and an identifier splits into the file and the name it was made of. So each
row of the exported nodes bears the file, the name and the line of a definition. -/
theorem scanned_nodes_defined (s : Settings) (sources : List Source) (ignores : String → Bool)
    (selects : Option (NodeId → Bool)) :
    let tally := Tally.scanAll s sources
    let g := CallGraph.build ignores tally.definitionList tally.callList
    let t := g.traverse (g.startNodes selects)
    (∀ n, g.nodes.contains n = true ∨ t.visited.contains n = true →
        g.definitions.contains n = true) ∧
      (∀ a n, n ∈ g.callees a ∨ a ∈ g.callers n →
        ∃ d, g.definitions.find? n = some d ∧ d.implicit = false) ∧
      (∀ d ∈ tally.definitionList, ∀ d' ∈ tally.definitionList,
        (d.file, d.name) ≠ (d'.file, d'.name) → d.id ≠ d'.id) ∧
      (∀ id d, g.definitions.find? id = some d → splitQualified id = (d.file, d.name)) ∧
      ∀ row ∈ Export.nodeRows g t, ∃ d ∈ tally.definitionList,
        g.definitions.find? row.id = some d ∧
          row.file = d.file ∧ row.name = d.name ∧ row.line = some d.line := by
  intro tally g t
  have h : Recorded tally := Recorded.scanAll s sources
  have hg : Holds g _ := Holds.build ignores tally.definitionList tally.callList
  refine ⟨fun n hn => ?_, fun a n hedge => ?_, fun d hd d' hd' hne hid => ?_,
    fun id d hd => h.splitQualified_of_find? hd, fun row hrow => ?_⟩
  · rw [SortedMap.contains, Option.isSome_iff_exists]
    exact hn.elim h.node_defined (h.visited_defined rfl)
  · rw [hg.mem_callees_iff, hg.mem_callers_iff, or_self] at hedge
    exact h.callee_declared hedge
  · rw [h.eq_of_id_eq hd hd' hid] at hne
    exact hne rfl
  · obtain ⟨id, hid, rfl⟩ := List.mem_map.mp hrow
    obtain ⟨d, hd⟩ := h.visited_defined rfl (SortedSet.mem_elems_iff.mp hid)
    have hparts := h.splitQualified_of_find? hd
    refine ⟨d, ((h.find?_build ..).mp hd).1, hd, ?_, ?_, ?_⟩
    · exact congrArg Prod.fst hparts
    · exact congrArg Prod.snd hparts
    · exact congrArg (Option.map Definition.line) hd

end Scan

end PerlCalls

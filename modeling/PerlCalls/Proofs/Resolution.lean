import Mathlib
import PerlCalls.Graph.Resolution
import PerlCalls.Proofs.Edges

/-! Where calls go, and that none is lost.

`Policy` states the rules of resolution by what the definitions declare, without an index. Every call
has exactly one verdict under it, the one it is given (`policy_iff`). A graph then *accounts* for a
list of calls (`Accounts`) when each of its tables holds exactly what the calls of one kind come to.
Entering a call keeps the account (`Accounts.enter`), so the whole graph keeps it, and the counts in
its tables add up to the counts of the calls (`build_accounts`). -/
namespace PerlCalls.Graph

/-! ### What definitions declare -/

/-- The file declares the name, by a definition that is not implicit. -/
def Declares (ds : List Definition) (name file : String) : Prop :=
  ∃ d ∈ ds, d.implicit = false ∧ d.name = name ∧ d.file = file

namespace NameIndex

theorem files_increase (index : NameIndex) (name : String) :
    (index.files name).Pairwise (fun a b => compare a b = .lt) := by
  simp only [files]
  cases index.find? name with
  | none => exact List.Pairwise.nil
  | some files => exact SortedSet.elems_increase files

theorem mem_files_note (index : NameIndex) (d : Definition) (name file : String) :
    file ∈ (index.note d).files name ↔
      (d.implicit = false ∧ d.name = name ∧ d.file = file) ∨ file ∈ index.files name := by
  cases hd : d.implicit with
  | true => simp [note, hd]
  | false =>
    by_cases hname : name = d.name
    · subst hname
      simp only [note, hd, files, SortedMap.find?_alter, if_true, Bool.false_eq_true, if_false]
      rw [SortedSet.mem_elems_iff, SortedSet.contains_add]
      cases index.find? d.name with
      | none => simp [SortedMap.contains, eq_comm]
      | some known =>
        rw [SortedSet.mem_elems_iff, eq_comm (a := d.file)]
        simp
    · simp [note, hd, files, SortedMap.find?_alter, hname, Ne.symm hname]

/-- The index knows exactly what the definitions declare. -/
theorem mem_files_ofDefinitions (ds : List Definition) (name file : String) :
    file ∈ (ofDefinitions ds).files name ↔ Declares ds name file := by
  induction ds using List.reverseRecOn with
  | nil => simp [ofDefinitions, files, Declares]
  | append_singleton ds d ih =>
    rw [ofDefinitions, List.foldl_concat, ← ofDefinitions, mem_files_note, ih]
    simp only [Declares, List.mem_append, List.mem_singleton, or_and_right, exists_or,
      exists_eq_left]
    exact or_comm

end NameIndex

/-! ### The rules of resolution -/

/-- The verdicts that the rules allow for a call. -/
inductive Policy (ds : List Definition) (ignores : String → Bool) (c : Call) : Verdict → Prop where
  /-- Nobody declares the callee. -/
  | external : (∀ file, ¬Declares ds c.callee file) → Policy ds ignores c .external
  | ignored {file : String} : Declares ds c.callee file → ignores c.callee = true →
      Policy ds ignores c .ignored
  /-- The caller's own file comes first. -/
  | own : ignores c.callee = false → Declares ds c.callee c.file →
      Policy ds ignores c (.resolved c.file)
  | only {file : String} : ignores c.callee = false → Declares ds c.callee file →
      (∀ other, Declares ds c.callee other → other = file) → Policy ds ignores c (.resolved file)
  /-- Several other files declare the callee: all of them are named, in order. -/
  | ambiguous {files : List String} : ignores c.callee = false → ¬Declares ds c.callee c.file →
      files.Pairwise (· < ·) → (∀ file, file ∈ files ↔ Declares ds c.callee file) →
      2 ≤ files.length → Policy ds ignores c (.ambiguous files)

section Rules
variable {ds : List Definition} {ignores : String → Bool} {c : Call}

theorem policy_verdict (ds : List Definition) (ignores : String → Bool) (c : Call) :
    Policy ds ignores c (c.verdict (.ofDefinitions ds) ignores) := by
  have hmem := NameIndex.mem_files_ofDefinitions ds c.callee
  have hincrease := NameIndex.files_increase (.ofDefinitions ds) c.callee
  simp only [Call.verdict]
  generalize NameIndex.files (.ofDefinitions ds) c.callee = files at hmem hincrease
  unfold judge
  split
  · exact .external fun file hfile => by simpa using (hmem file).mpr hfile
  · rename_i first others
    have hfirst : Declares ds c.callee first := (hmem first).mp (List.mem_cons_self ..)
    split
    · rename_i hignored
      exact .ignored hfirst hignored
    · rename_i hignored
      have hkept : ignores c.callee = false := by simpa using hignored
      split
      · rename_i hown
        exact .own hkept ((hmem c.file).mp (by simpa using hown))
      · rename_i hown
        have hnot : ¬Declares ds c.callee c.file := fun h => hown (by simpa using (hmem c.file).mpr h)
        split
        · rename_i hothers
          rw [List.isEmpty_iff] at hothers
          subst hothers
          exact .only hkept hfirst fun other h => by simpa using (hmem other).mpr h
        · rename_i hothers
          refine .ambiguous hkept hnot (hincrease.imp compare_eq_lt_iff.mp) hmem ?_
          cases others with
          | nil => simp at hothers
          | cons second more => simp

theorem verdict_of_policy {v : Verdict} (h : Policy ds ignores c v) :
    c.verdict (.ofDefinitions ds) ignores = v := by
  have hmem := NameIndex.mem_files_ofDefinitions ds c.callee
  have hincrease := NameIndex.files_increase (.ofDefinitions ds) c.callee
  simp only [Call.verdict]
  generalize NameIndex.files (.ofDefinitions ds) c.callee = files at hmem hincrease
  cases h with
  | external hnone =>
    rw [List.eq_nil_iff_forall_not_mem.mpr fun file hfile => hnone file ((hmem file).mp hfile)]
    rfl
  | ignored hdeclares hignored =>
    obtain ⟨first, others, rfl⟩ := List.exists_cons_of_ne_nil
      (List.ne_nil_of_mem ((hmem _).mpr hdeclares))
    simp [judge, hignored]
  | own hkept hdeclares =>
    have hown := (hmem _).mpr hdeclares
    obtain ⟨first, others, rfl⟩ := List.exists_cons_of_ne_nil (List.ne_nil_of_mem hown)
    simp only [judge, hkept, Bool.false_eq_true, if_false]
    rw [if_pos (List.contains_iff_mem.mpr hown)]
  | @only file hkept hdeclares honly =>
    have hfiles : files = [file] := by
      refine SortedMap.eq_of_increase hincrease (List.pairwise_singleton _ _) fun other => ?_
      rw [hmem, List.mem_singleton]
      exact ⟨honly other, fun h => h ▸ hdeclares⟩
    subst hfiles
    by_cases hown : c.file = file
    · simp [judge, hkept, hown]
    · simp [judge, hkept, hown]
  | @ambiguous named hkept hother hsorted hnamed hlength =>
    have hfiles : files = named := by
      refine SortedMap.eq_of_increase hincrease (hsorted.imp compare_eq_lt_iff.mpr) fun other => ?_
      rw [hmem, hnamed]
    subst hfiles
    have hown : c.file ∉ files := fun h => hother ((hmem _).mp h)
    match files, hlength with
    | first :: second :: more, _ => simp_all [judge]

/-- **A call has exactly the verdict that the rules give it.** -/
theorem policy_iff {v : Verdict} :
    Policy ds ignores c v ↔ c.verdict (.ofDefinitions ds) ignores = v :=
  ⟨verdict_of_policy, fun h => h ▸ policy_verdict ds ignores c⟩

instance (v : Verdict) : Decidable (Policy ds ignores c v) :=
  decidable_of_iff (c.verdict (.ofDefinitions ds) ignores = v) policy_iff.symm

/-- The call goes to the node `v`. -/
def Targets (ds : List Definition) (ignores : String → Bool) (c : Call) (v : NodeId) : Prop :=
  ∃ file, Policy ds ignores c (.resolved file) ∧ qualify file c.callee = v

/-- The call is set aside as ambiguous. -/
def IsAmbiguous (ds : List Definition) (ignores : String → Bool) (c : Call) : Prop :=
  ∃ files, Policy ds ignores c (.ambiguous files)

/-- The note on an ambiguous call: who calls what, and all files that declare it. -/
def Noted (ds : List Definition) (ignores : String → Bool) (c : Call) (a : AmbiguousCall) : Prop :=
  a.caller = c.callerId ∧ a.callee = c.callee ∧ Policy ds ignores c (.ambiguous a.files)

/-- The edge that a call adds, if it is resolved. -/
def edgeOf? (ds : List Definition) (ignores : String → Bool) (c : Call) : Option (Edge × Int) :=
  match c.verdict (.ofDefinitions ds) ignores with
  | .resolved file => some (⟨c.callerId, qualify file c.callee⟩, c.count)
  | _ => none

/-- The note that a call adds, if it is ambiguous. -/
def noteOf? (ds : List Definition) (ignores : String → Bool) (c : Call) : Option AmbiguousCall :=
  match c.verdict (.ofDefinitions ds) ignores with
  | .ambiguous files => some ⟨c.callerId, c.callee, files⟩
  | _ => none

theorem edgeOf?_eq_some_iff {e : Edge × Int} :
    edgeOf? ds ignores c = some e ↔
      e.1.caller = c.callerId ∧ Targets ds ignores c e.1.callee ∧ e.2 = c.count := by
  simp only [edgeOf?, Targets, policy_iff]
  obtain ⟨⟨caller, callee⟩, count⟩ := e
  cases c.verdict (.ofDefinitions ds) ignores with
  | resolved file =>
    simp only [Option.some.injEq, Prod.mk.injEq, Edge.mk.injEq, Verdict.resolved.injEq,
      exists_eq_left', eq_comm (a := caller), eq_comm (a := count), and_assoc]
  | _ => simp

theorem noteOf?_eq_some_iff {a : AmbiguousCall} :
    noteOf? ds ignores c = some a ↔ Noted ds ignores c a := by
  simp only [noteOf?, Noted, policy_iff]
  obtain ⟨caller, callee, files⟩ := a
  cases c.verdict (.ofDefinitions ds) ignores <;> simp [eq_comm]

theorem isAmbiguous_iff : IsAmbiguous ds ignores c ↔ (noteOf? ds ignores c).isSome = true := by
  simp only [IsAmbiguous, policy_iff, noteOf?]
  cases c.verdict (.ofDefinitions ds) ignores <;> simp

instance (v : NodeId) : Decidable (Targets ds ignores c v) :=
  decidable_of_iff (edgeOf? ds ignores c = some (⟨c.callerId, v⟩, c.count))
    (by simp [edgeOf?_eq_some_iff])

instance : DecidablePred (IsAmbiguous ds ignores) := fun _ => decidable_of_iff _ isAmbiguous_iff.symm

end Rules

/-! ### Accounts -/

/-- Definitions touch nothing but the table of definitions. -/
theorem CallGraph.foldl_define (ds : List Definition) (g : CallGraph) :
    ds.foldl CallGraph.define g =
      { g with definitions := ds.foldl (fun m d => m.insert d.id d) g.definitions } := by
  induction ds generalizing g with
  | nil => rfl
  | cons d ds ih => rw [List.foldl_cons, ih, CallGraph.define, List.foldl_cons]

theorem CallGraph.collect_concat (ignores : String → Bool) (ds : List Definition) (calls : List Call)
    (c : Call) :
    CallGraph.collect ignores ds (calls ++ [c]) =
      (CallGraph.collect ignores ds calls).enter c (c.verdict (.ofDefinitions ds) ignores) := by
  rw [CallGraph.collect, List.foldl_concat, ← CallGraph.collect]

theorem find?_tallyName (m : SortedMap String Int) (name n : String) (count : Int) :
    (tallyName m name count).find? n =
      if n = name then some ((m.find? name).getD 0 + count) else m.find? n :=
  SortedMap.find?_alter ..

/-- A table that adds up the counts of the calls of one kind does so after one more call. -/
theorem find?_tallyName_concat {q : Call → Prop} [DecidablePred q] {calls : List Call}
    {m : SortedMap String Int}
    (h : ∀ n, m.find? n = sumOf? calls (fun c => q c ∧ c.callee = n) Call.count) (c : Call)
    (n : String) :
    (if q c then tallyName m c.callee c.count else m).find? n =
      sumOf? (calls ++ [c]) (fun c => q c ∧ c.callee = n) Call.count := by
  rw [sumOf?_concat, ← h]
  by_cases hq : q c
  · rw [if_pos hq, find?_tallyName]
    by_cases hn : n = c.callee
    · simp [hq, hn]
    · simp [hn, Ne.symm hn]
  · simp [hq]

theorem totalCount_eq (m : SortedMap String Int) : totalCount m = m.total id := by
  rw [SortedMap.total, List.map_id]
  rfl

theorem totalCount_alter (m : SortedMap String Int) (name : String) (count : Int) :
    totalCount (m.alter name (fun old => old.getD 0 + count)) = totalCount m + count := by
  rw [totalCount_eq, totalCount_eq]
  exact SortedMap.total_alter id m name _ count (by simp) (by simp)

theorem Adjacency.total_add (m : Adjacency) (s t : NodeId) (w : Int) :
    (m.add s t w).total totalCount = m.total totalCount + w := by
  refine SortedMap.total_alter _ m s _ w ?_ fun inner => totalCount_alter inner t w
  exact (totalCount_alter SortedMap.empty t w).trans (Int.zero_add w)

/-- The counts in the tables of a graph: of resolved, external and ignored calls. -/
def CallGraph.counted (g : CallGraph) : Int :=
  g.invokes.total totalCount + totalCount g.external + totalCount g.ignored

/-- The graph accounts for the calls: each of its tables holds what the calls of one kind come to. -/
structure Accounts (ds : List Definition) (ignores : String → Bool) (calls : List Call)
    (g : CallGraph) : Prop where
  external : ∀ n, g.external.find? n =
    sumOf? calls (fun c => Policy ds ignores c .external ∧ c.callee = n) Call.count
  ignored : ∀ n, g.ignored.find? n =
    sumOf? calls (fun c => Policy ds ignores c .ignored ∧ c.callee = n) Call.count
  edges : Holds g (calls.filterMap (edgeOf? ds ignores))
  ambiguous : g.ambiguous = calls.filterMap (noteOf? ds ignores)
  counted : g.counted + ((calls.filter (IsAmbiguous ds ignores)).map Call.count).sum =
    (calls.map Call.count).sum

namespace Accounts

variable {ds : List Definition} {ignores : String → Bool} {calls : List Call} {g : CallGraph}

theorem counted_enter (g : CallGraph) (c : Call) (v : Verdict) :
    (g.enter c v).counted =
      g.counted + match v with
        | .ambiguous _ => 0
        | _ => c.count := by
  cases v with
  | external =>
    simp only [CallGraph.enter, CallGraph.counted, tallyName, totalCount_alter]
    omega
  | ignored =>
    simp only [CallGraph.enter, CallGraph.counted, tallyName, totalCount_alter]
    omega
  | resolved file =>
    simp only [CallGraph.enter, CallGraph.counted, CallGraph.addEdge, Adjacency.total_add]
    omega
  | ambiguous files => exact (Int.add_zero _).symm

/-- Entering one more call keeps the account. -/
theorem enter (h : Accounts ds ignores calls g) (c : Call) :
    Accounts ds ignores (calls ++ [c]) (g.enter c (c.verdict (.ofDefinitions ds) ignores)) where
  external n := by
    rw [← find?_tallyName_concat h.external]
    simp only [policy_iff]
    cases c.verdict (.ofDefinitions ds) ignores <;> rfl
  ignored n := by
    rw [← find?_tallyName_concat h.ignored]
    simp only [policy_iff]
    cases c.verdict (.ofDefinitions ds) ignores <;> rfl
  edges := by
    rw [List.filterMap_append, List.filterMap_cons, List.filterMap_nil]
    simp only [edgeOf?]
    cases c.verdict (.ofDefinitions ds) ignores with
    | resolved file => exact h.edges.addEdge ⟨c.callerId, qualify file c.callee⟩ c.count
    | _ =>
      rw [List.append_nil]
      exact h.edges.of_indexes rfl rfl
  ambiguous := by
    rw [List.filterMap_append, List.filterMap_cons, List.filterMap_nil, ← h.ambiguous]
    simp only [noteOf?]
    cases c.verdict (.ofDefinitions ds) ignores <;> simp [CallGraph.enter, CallGraph.addEdge]
  counted := by
    have hcounted := h.counted
    have hsplit : ∀ b : Call, (([b].filter (IsAmbiguous ds ignores)).map Call.count).sum =
        match b.verdict (.ofDefinitions ds) ignores with
        | .ambiguous _ => b.count
        | _ => 0 := by
      intro b
      simp only [List.filter_cons, List.filter_nil, isAmbiguous_iff, noteOf?]
      cases b.verdict (.ofDefinitions ds) ignores <;> simp
    rw [counted_enter, List.filter_append, List.map_append, List.map_append, List.sum_append,
      List.sum_append, hsplit, List.map_singleton, List.sum_singleton]
    cases c.verdict (.ofDefinitions ds) ignores <;> simp only <;> omega

theorem ofDefinitions (ds : List Definition) (ignores : String → Bool) :
    Accounts ds ignores [] (ds.foldl CallGraph.define {}) := by
  rw [CallGraph.foldl_define]
  refine ⟨fun _ => (sumOf?_nil ..).symm, fun _ => (sumOf?_nil ..).symm, ?_, rfl, rfl⟩
  exact Holds.nil.of_indexes rfl rfl

theorem collect (ds : List Definition) (ignores : String → Bool) (calls : List Call) :
    Accounts ds ignores calls (CallGraph.collect ignores ds calls) := by
  induction calls using List.reverseRecOn with
  | nil => exact ofDefinitions ds ignores
  | append_singleton calls c ih =>
    rw [CallGraph.collect_concat]
    exact ih.enter c

theorem weight? (h : Accounts ds ignores calls g) (u v : NodeId) :
    g.invokes.weight? u v =
      sumOf? calls (fun c => c.callerId = u ∧ Targets ds ignores c v) Call.count := by
  rw [h.edges.forward]
  refine sumOf?_filterMap _ _ (edgeOf? ds ignores) _ (fun c e he => ?_) (fun c => ?_) calls
  · exact (edgeOf?_eq_some_iff.mp he).2.2
  · constructor
    · rintro ⟨hu, hv⟩
      exact ⟨(⟨u, v⟩, c.count), edgeOf?_eq_some_iff.mpr ⟨hu.symm, hv, rfl⟩, rfl⟩
    · rintro ⟨⟨e, w⟩, he, rfl⟩
      obtain ⟨hu, hv, -⟩ := edgeOf?_eq_some_iff.mp he
      exact ⟨hu.symm, hv⟩

/-- One note for each ambiguous call. -/
theorem forall₂_noted (ds : List Definition) (ignores : String → Bool) (calls : List Call) :
    List.Forall₂ (Noted ds ignores) (calls.filter (IsAmbiguous ds ignores))
      (calls.filterMap (noteOf? ds ignores)) := by
  induction calls with
  | nil => exact .nil
  | cons c calls ih =>
    rw [List.filter_cons, List.filterMap_cons]
    cases hc : noteOf? ds ignores c with
    | none => simpa [isAmbiguous_iff, hc] using ih
    | some a =>
      rw [if_pos (by simp [isAmbiguous_iff, hc])]
      exact .cons (noteOf?_eq_some_iff.mp hc) ih

end Accounts

/-- The edges of a graph are those of its resolved calls. -/
theorem Holds.build (ignores : String → Bool) (ds : List Definition) (calls : List Call) :
    Holds (CallGraph.build ignores ds calls) (calls.filterMap (edgeOf? ds ignores)) :=
  (Accounts.collect ds ignores calls).edges.of_indexes rfl rfl

theorem AmbiguousCall.notAfter_iff (a b : AmbiguousCall) :
    a.notAfter b = true ↔ a.caller < b.caller ∨ a.caller = b.caller ∧ a.callee ≤ b.callee := by
  show ((compare a.caller b.caller).then (compare a.callee b.callee)).isLE = true ↔ _
  rw [Ordering.isLE_then_iff_or, compare_eq_lt_iff, Std.LawfulEqCmp.compare_eq_iff_eq,
    Std.LawfulBCmp.isLE_iff_le]

/-- The notes are sorted by caller, then by callee. -/
theorem sortAmbiguous_sorted (g : CallGraph) :
    g.sortAmbiguous.ambiguous.Pairwise (fun a b => a.notAfter b = true) := by
  refine List.pairwise_mergeSort (fun a b c hab hbc => ?_) (fun a b => ?_) g.ambiguous
  · exact Std.TransCmp.isLE_trans hab hbc
  · simp only [AmbiguousCall.notAfter, Bool.or_eq_true]
    cases h : compare a.edge b.edge with
    | gt => exact Or.inr (by rw [Std.OrientedCmp.gt_iff_lt.mp h]; rfl)
    | _ => exact Or.inl rfl

/-- **Every call is accounted for once.** The rules give each call exactly one verdict. Under each
name, and under each pair of nodes, stands the sum of the counts of the calls that belong there, and
nothing where none does; each ambiguous call has its note, in order. So the counts in the tables and
those of the ambiguous calls add up to the counts of all calls. -/
theorem build_accounts (ignores : String → Bool) (ds : List Definition) (calls : List Call) :
    let g := CallGraph.build ignores ds calls
    (∀ c : Call, ∃! v, Policy ds ignores c v) ∧
      (∀ n, g.external.find? n =
        sumOf? calls (fun c => Policy ds ignores c .external ∧ c.callee = n) Call.count) ∧
      (∀ n, g.ignored.find? n =
        sumOf? calls (fun c => Policy ds ignores c .ignored ∧ c.callee = n) Call.count) ∧
      (∀ u v, g.invokes.weight? u v =
        sumOf? calls (fun c => c.callerId = u ∧ Targets ds ignores c v) Call.count) ∧
      (∃ notes, List.Forall₂ (Noted ds ignores) (calls.filter (IsAmbiguous ds ignores)) notes ∧
        g.ambiguous.Perm notes) ∧
      g.ambiguous.Pairwise (fun a b =>
        a.caller < b.caller ∨ a.caller = b.caller ∧ a.callee ≤ b.callee) ∧
      g.invokes.total totalCount + totalCount g.external + totalCount g.ignored +
          ((calls.filter (IsAmbiguous ds ignores)).map Call.count).sum =
        (calls.map Call.count).sum := by
  intro g
  have h := Accounts.collect ds ignores calls
  refine ⟨fun c => ?_, h.external, h.ignored, h.weight?, ?_, ?_, h.counted⟩
  · exact ⟨_, policy_verdict ds ignores c, fun v hv => (verdict_of_policy hv).symm⟩
  · refine ⟨_, Accounts.forall₂_noted ds ignores calls, ?_⟩
    rw [← h.ambiguous]
    exact List.mergeSort_perm ..
  · exact (sortAmbiguous_sorted _).imp (AmbiguousCall.notAfter_iff _ _).mp

end PerlCalls.Graph

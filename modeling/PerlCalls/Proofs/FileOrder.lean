import Mathlib
import PerlCalls.Proofs.Defined
import PerlCalls.Run.Pipeline

/-! The order of the files does not matter.

Calls are counted, so a tally of the same sources in another order has the same calls. Under a key
stands the last declaration, which does depend on the order if two sources share a name; whether it
is a declaration at all does not (`implicit_scanAll_perm`). Resolution looks at nothing else of a
definition, so the graphs differ in their tables of definitions only (`collect_congr`), and what
follows from a graph without that table is the same (`run_perm`). If no two sources share a name,
the tables are the same as well. -/
namespace PerlCalls

namespace Scan

open PerlCalls.Graph

/-! ### Tallies -/

namespace Tally

variable {s : Settings} {sources sources' : List Source}

theorem calls_scanAll_perm (h : sources.Perm sources') :
    (scanAll s sources).calls = (scanAll s sources').calls := by
  refine SortedMap.ext_find? fun k => ?_
  rw [calls_scanAll, calls_scanAll, find?_enterCalls, find?_enterCalls]
  exact sumOf?_perm _ _ (h.flatMap_right _)

/-- Where there is a definition, and whether it is implicit, does not depend on the order. -/
theorem implicit_scanAll_perm (h : sources.Perm sources') (site : Site) :
    ((scanAll s sources).definitions.find? site).map Definition.implicit =
      ((scanAll s sources').definitions.find? site).map Definition.implicit := by
  have hperm := (h.flatMap_right (Source.definitions s)).filter (fun d => d.site = site)
  rw [definitions_scanAll, definitions_scanAll, find?_enterDefinitions, find?_enterDefinitions,
    SortedMap.find?_empty, implicit_foldl_settle, implicit_foldl_settle, hperm.isEmpty_eq,
    hperm.all_eq]

theorem length_files_scanAll_perm (h : sources.Perm sources') :
    (scanAll s sources).files.length = (scanAll s sources').files.length := by
  obtain ⟨hnodup, hmem⟩ := files_scanAll s sources
  obtain ⟨hnodup', hmem'⟩ := files_scanAll s sources'
  refine ((List.perm_ext_iff_of_nodup hnodup hnodup').mpr fun f => ?_).length_eq
  rw [hmem, hmem', (h.map _).mem_iff]

/-- Sources of different files enter their definitions under different keys. -/
theorem enterDefinitions_comm {a b : Source} (hne : a.identity s ≠ b.identity s)
    (m : SortedMap Site Definition) :
    enterDefinitions (enterDefinitions m (a.definitions s)) (b.definitions s) =
      enterDefinitions (enterDefinitions m (b.definitions s)) (a.definitions s) := by
  refine SortedMap.ext_find? fun site => ?_
  simp only [find?_enterDefinitions]
  have hnone : ∀ {source : Source}, source.identity s ≠ site.file →
      (source.definitions s).filter (fun d => d.site = site) = [] := by
    intro source hfile
    refine List.filter_eq_nil_iff.mpr fun d hd hsite => hfile ?_
    rw [← (Source.definition_site hd).1, ← of_decide_eq_true hsite, Definition.site]
  by_cases ha : a.identity s = site.file
  · rw [hnone fun hb => hne (ha.trans hb.symm)]
    rfl
  · rw [hnone ha]
    rfl

/-- Sources of pairwise different files leave the same definitions in any order. -/
theorem definitions_scanAll_perm (h : sources.Perm sources')
    (hnodup : (sources.map (Source.identity s)).Nodup) :
    (scanAll s sources).definitions = (scanAll s sources').definitions := by
  rw [definitions_scanAll, definitions_scanAll, enterDefinitions, enterDefinitions,
    List.foldl_flatMap, List.foldl_flatMap]
  refine h.foldl_eq' (fun a ha b hb m => ?_) SortedMap.empty
  by_cases hab : a.identity s = b.identity s
  · rw [List.inj_on_of_nodup_map hnodup ha hb hab]
  · exact enterDefinitions_comm hab m

/-- Two tallies that differ at most in which of several declarations of a name they keep. -/
structure Agrees (t t' : Tally) : Prop where
  files : t.files.length = t'.files.length
  calls : t.calls = t'.calls
  flags : ∀ site, (t.definitions.find? site).map Definition.implicit =
    (t'.definitions.find? site).map Definition.implicit

theorem agrees_scanAll_perm (h : sources.Perm sources') :
    (scanAll s sources).Agrees (scanAll s sources') :=
  ⟨length_files_scanAll_perm h, calls_scanAll_perm h, implicit_scanAll_perm h⟩

namespace Agrees

variable {t t' : Tally}

theorem callList (h : t.Agrees t') : t.callList = t'.callList := by
  rw [Tally.callList, h.calls, ← Tally.callList]

/-- As many declarations, since they are counted by their flags. -/
theorem length_declared (h : t.Agrees t') :
    (t.definitionList.filter (fun d => !d.implicit)).length =
      (t'.definitionList.filter (fun d => !d.implicit)).length := by
  have hcount : ∀ t : Tally, (t.definitionList.filter (fun d => !d.implicit)).length =
      (t.definitions.entries.map (fun e => (e.1, e.2.implicit))).countP (fun e => !e.2) := by
    intro t
    rw [definitionList, SortedMap.values, ← List.countP_eq_length_filter, List.countP_map,
      List.countP_map]
    rfl
  rw [hcount, hcount, SortedMap.entries_map_eq Definition.implicit h.flags]

end Agrees

end Tally

/-- What a recorded tally declares can be read off its implicit flags. -/
theorem Recorded.declares_iff {t : Tally} (h : Recorded t) (name file : String) :
    Declares t.definitionList name file ↔
      (t.definitions.find? ⟨file, name⟩).map Definition.implicit = some false := by
  rw [Option.map_eq_some_iff]
  constructor
  · rintro ⟨d, hd, himplicit, rfl, rfl⟩
    exact ⟨d, h.mem_definitionList_iff.mp hd, himplicit⟩
  · rintro ⟨d, hd, himplicit⟩
    have hsite := (h.definition hd).1
    refine ⟨d, h.mem_definitionList_iff.mpr (by rw [hsite]; exact hd), himplicit, ?_, ?_⟩
    · exact congrArg Site.name hsite
    · exact congrArg Site.file hsite

/-- What the graph of a recorded tally has defined can be read off the tally. -/
theorem Recorded.implicit_build_iff {t : Tally} (h : Recorded t) (ignores : String → Bool)
    (calls : List Call) (id : NodeId) (implicit : Bool) :
    ((CallGraph.build ignores t.definitionList calls).definitions.find? id).map Definition.implicit =
        some implicit ↔
      ∃ site : Site, qualify site.file site.name = id ∧
        (t.definitions.find? site).map Definition.implicit = some implicit := by
  simp only [Option.map_eq_some_iff, h.find?_build]
  constructor
  · rintro ⟨d, ⟨hd, rfl⟩, rfl⟩
    exact ⟨d.site, rfl, d, h.mem_definitionList_iff.mp hd, rfl⟩
  · rintro ⟨site, rfl, d, hd, rfl⟩
    obtain rfl := (h.definition hd).1
    exact ⟨d, ⟨h.mem_definitionList_iff.mpr hd, rfl⟩, rfl⟩

end Scan

namespace Graph

/-! ### Graphs -/

/-- Files that declare the same give each call the same verdict. -/
theorem verdict_congr {ds ds' : List Definition}
    (h : ∀ name file, Declares ds name file ↔ Declares ds' name file) (ignores : String → Bool)
    (c : Call) : c.verdict (.ofDefinitions ds) ignores = c.verdict (.ofDefinitions ds') ignores := by
  have hfiles : (NameIndex.ofDefinitions ds).files c.callee =
      (NameIndex.ofDefinitions ds').files c.callee := by
    refine SortedMap.eq_of_increase (NameIndex.files_increase ..) (NameIndex.files_increase ..)
      fun file => ?_
    rw [NameIndex.mem_files_ofDefinitions, NameIndex.mem_files_ofDefinitions, h]
  rw [Call.verdict, Call.verdict, hfiles]

/-- The graph with another table of definitions. -/
def CallGraph.withDefinitions (g : CallGraph) (m : SortedMap NodeId Definition) : CallGraph :=
  { g with definitions := m }

theorem CallGraph.enter_withDefinitions (g : CallGraph) (m : SortedMap NodeId Definition) (c : Call)
    (v : Verdict) : (g.withDefinitions m).enter c v = (g.enter c v).withDefinitions m := by
  cases v <;> rfl

/-- Definitions that declare the same lead to the same graph, the table of definitions apart. -/
theorem CallGraph.collect_congr {ds ds' : List Definition}
    (h : ∀ name file, Declares ds name file ↔ Declares ds' name file) (ignores : String → Bool)
    (calls : List Call) :
    CallGraph.collect ignores ds' calls = (CallGraph.collect ignores ds calls).withDefinitions
      (CallGraph.collect ignores ds' calls).definitions := by
  induction calls using List.reverseRecOn with
  | nil =>
    rw [CallGraph.collect, CallGraph.collect, List.foldl_nil, List.foldl_nil,
      CallGraph.foldl_define, CallGraph.foldl_define]
    rfl
  | append_singleton calls c ih =>
    rw [CallGraph.collect_concat, CallGraph.collect_concat, CallGraph.definitions_enter, ← verdict_congr h, ih,
      CallGraph.enter_withDefinitions]
    rfl

/-- A traversal does not look at definitions. -/
theorem CallGraph.traverse_withDefinitions (g : CallGraph) (m : SortedMap NodeId Definition)
    (selects : Option (NodeId → Bool)) :
    (g.withDefinitions m).traverse ((g.withDefinitions m).startNodes selects) =
      g.traverse (g.startNodes selects) := by
  cases selects <;> rfl

end Graph

/-! ### Runs -/

namespace Scan

/-- A file of the disk as a source. One that cannot be read has no lines. -/
def Source.onDisk (disk : Files.Disk) (path : String) : Source :=
  ⟨path, Text.lines (Text.decodeLossy ((disk.read path).toOption.getD []))⟩

/-- If every file can be read, a scan goes on to tally them all. -/
theorem Progress.scanFiles_readable {p : Progress} (hp : p.stopped = none) (s : Settings)
    (disk : Files.Disk) (paths : List String)
    (hread : ∀ path ∈ paths, ∃ bytes, disk.read path = .ok bytes) :
    (p.scanFiles s disk paths).stopped = none ∧
      (p.scanFiles s disk paths).tally = (paths.map (Source.onDisk disk)).foldl
        (fun t source => t.scanLines s source.path source.lines) p.tally := by
  induction paths using List.reverseRecOn with
  | nil => exact ⟨hp, rfl⟩
  | append_singleton paths path ih =>
    obtain ⟨hstopped, htally⟩ := ih fun path hp => hread path (List.mem_append_left _ hp)
    obtain ⟨bytes, hbytes⟩ := hread path (List.mem_append_right _ (List.mem_singleton.mpr rfl))
    have hlines : (Source.onDisk disk path).lines = Text.lines (Text.decodeLossy bytes) := by
      rw [Source.onDisk, hbytes]
      rfl
    rw [scanFiles, List.foldl_concat, ← scanFiles, scanFile, hstopped, hbytes, List.map_append,
      List.map_singleton, List.foldl_concat, hlines, ← htally]
    exact ⟨rfl, rfl⟩

end Scan

namespace Run

open PerlCalls.Graph
open Export Files Scan

/-- Two results that differ at most in which of several declarations of a name they keep. -/
structure Result.Agrees (r r' : Result) : Prop where
  calls : r.tally.callList = r'.tally.callList
  invokes : r.graph.invokes = r'.graph.invokes
  invokedBy : r.graph.invokedBy = r'.graph.invokedBy
  external : r.graph.external = r'.graph.external
  ignored : r.graph.ignored = r'.graph.ignored
  ambiguous : r.graph.ambiguous = r'.graph.ambiguous
  traversal : r.traversal = r'.traversal
  stats : r.stats = r'.stats
  dot : ∀ options, dotText r.traversal options = dotText r'.traversal options
  /-- The tallies have the same sites, with the same flags. -/
  sites : ∀ site, (r.tally.definitions.find? site).map Definition.implicit =
    (r'.tally.definitions.find? site).map Definition.implicit
  /-- The graphs have the same identifiers defined, with the same flags. -/
  ids : ∀ id, (r.graph.definitions.find? id).map Definition.implicit =
    (r'.graph.definitions.find? id).map Definition.implicit

/-- Tallies that agree lead to the same graph, the table of definitions apart. -/
theorem graph_ofTally_congr (s : Settings) {t t' : Tally} (h : Recorded t) (h' : Recorded t')
    (hagrees : t.Agrees t') :
    ∃ m, (ofTally s t').1.graph = (ofTally s t).1.graph.withDefinitions m := by
  have hdeclares : ∀ name file,
      Declares t.definitionList name file ↔ Declares t'.definitionList name file := by
    intro name file
    rw [h.declares_iff, h'.declares_iff, hagrees.flags]
  refine ⟨(CallGraph.collect (anyFound s.ignorePatterns) t'.definitionList t.callList).definitions, ?_⟩
  show (CallGraph.collect _ t'.definitionList t'.callList).sortAmbiguous = _
  rw [← hagrees.callList, CallGraph.collect_congr hdeclares]
  rfl

theorem ids_ofTally_congr (s : Settings) {t t' : Tally} (h : Recorded t) (h' : Recorded t')
    (hagrees : t.Agrees t') (id : NodeId) :
    ((ofTally s t).1.graph.definitions.find? id).map Definition.implicit =
      ((ofTally s t').1.graph.definitions.find? id).map Definition.implicit := by
  refine Option.ext fun implicit => ?_
  show ((CallGraph.build _ t.definitionList t.callList).definitions.find? id).map _ = _ ↔
    ((CallGraph.build _ t'.definitionList t'.callList).definitions.find? id).map _ = _
  rw [h.implicit_build_iff, h'.implicit_build_iff]
  simp only [hagrees.flags]

theorem ofTally_agrees (s : Settings) {t t' : Tally} (h : Recorded t) (h' : Recorded t')
    (hagrees : t.Agrees t') : (ofTally s t).1.Agrees (ofTally s t').1 := by
  obtain ⟨m, hgraph⟩ := graph_ofTally_congr s h h' hagrees
  have htraversal : (ofTally s t).1.traversal = (ofTally s t').1.traversal := by
    show _ = (ofTally s t').1.graph.traverse ((ofTally s t').1.graph.startNodes _)
    rw [hgraph, CallGraph.traverse_withDefinitions]
    rfl
  have hstats : (ofTally s t).1.stats = (ofTally s t').1.stats := by
    show Stats.ofRun t _ (ofTally s t).1.traversal =
      Stats.ofRun t' (ofTally s t').1.graph (ofTally s t').1.traversal
    rw [← htraversal, hgraph, Stats.ofRun, Stats.ofRun, ← hagrees.files, ← hagrees.calls,
      ← hagrees.length_declared]
    rfl
  exact {
    calls := hagrees.callList
    invokes := by rw [hgraph]; rfl
    invokedBy := by rw [hgraph]; rfl
    external := by rw [hgraph]; rfl
    ignored := by rw [hgraph]; rfl
    ambiguous := by rw [hgraph]; rfl
    traversal := htraversal
    stats := hstats
    dot := fun options => by rw [htraversal]
    sites := hagrees.flags
    ids := ids_ofTally_congr s h h' hagrees }

/-- If every file can be read, the result is that of the tally of them all. -/
theorem run_readable (disk : Disk) (s : Settings) (paths : List String)
    (hread : ∀ path ∈ paths, ∃ bytes, disk.read path = .ok bytes) :
    (run disk s paths).2 =
      .ok (ofTally s (Tally.scanAll s.scan (paths.map (Source.onDisk disk)))).1 := by
  obtain ⟨hstopped, htally⟩ :=
    Progress.scanFiles_readable (p := {}) rfl s.scan disk paths hread
  rw [run, hstopped, htally]
  rfl

/-- **Files may be given in any order.** If all of them can be read, a run over them in another order
also gives a result, with the same calls, the same graph up to the table of definitions, and the same
traversal, numbers and drawing. The tables have the same keys and flags. If no two files are known by
one name they are the same, and with them the exported rows. -/
theorem run_perm (disk : Disk) (s : Settings) {paths paths' : List String}
    (hperm : paths.Perm paths') (hread : ∀ path ∈ paths, ∃ bytes, disk.read path = .ok bytes) :
    ∃ r r', (run disk s paths).2 = .ok r ∧ (run disk s paths').2 = .ok r' ∧ r.Agrees r' ∧
      ((paths.map s.scan.identity).Nodup →
        r.tally.definitions = r'.tally.definitions ∧ r.graph.definitions = r'.graph.definitions ∧
          ∀ options, jsonText r.graph r.traversal options = jsonText r'.graph r'.traversal options) := by
  have hsources := hperm.map (Source.onDisk disk)
  have htallies := Tally.agrees_scanAll_perm (s := s.scan) hsources
  have hagrees := ofTally_agrees s (Recorded.scanAll ..) (Recorded.scanAll ..) htallies
  refine ⟨_, _, run_readable disk s paths hread,
    run_readable disk s paths' fun path hp => hread path (hperm.mem_iff.mpr hp), hagrees,
    fun hnodup => ?_⟩
  have hdefinitions := Tally.definitions_scanAll_perm hsources (s := s.scan)
    (by rw [List.map_map]; exact hnodup)
  have hgraph : (ofTally s (Tally.scanAll s.scan (paths.map (Source.onDisk disk)))).1.graph =
      (ofTally s (Tally.scanAll s.scan (paths'.map (Source.onDisk disk)))).1.graph := by
    show (CallGraph.collect _ (Tally.definitionList _) (Tally.callList _)).sortAmbiguous = _
    rw [Tally.definitionList, hdefinitions, htallies.callList]
    rfl
  refine ⟨hdefinitions, by rw [hgraph], fun options => ?_⟩
  rw [hgraph, hagrees.traversal]

/-- Two files of one base name that declare the same subroutine on different lines. -/
def twoVersions : Disk where
  entries :=
    [ (["old", "tool.pl"], .file "sub helper \x7b\n\x7d\nhelper();\n".toUTF8.toList),
      (["new", "tool.pl"], .file "\nsub helper \x7b\n\x7d\n".toUTF8.toList) ]

/-- Known by base name, the two files share their definitions; known by path, they do not. -/
theorem run_perm_twoVersions :
    (∃ r r', (run twoVersions {} ["old/tool.pl", "new/tool.pl"]).2 = .ok r ∧
      (run twoVersions {} ["new/tool.pl", "old/tool.pl"]).2 = .ok r' ∧ r.Agrees r') ∧
    ∃ r r', (run twoVersions { stripPaths := false } ["old/tool.pl", "new/tool.pl"]).2 = .ok r ∧
      (run twoVersions { stripPaths := false } ["new/tool.pl", "old/tool.pl"]).2 = .ok r' ∧
      r.Agrees r' ∧ r.tally.definitions = r'.tally.definitions := by
  have hread : ∀ path ∈ ["old/tool.pl", "new/tool.pl"], ∃ bytes, twoVersions.read path = .ok bytes := by
    simp only [List.forall_mem_cons, List.not_mem_nil, false_imp_iff, implies_true, and_true]
    exact ⟨⟨_, rfl⟩, ⟨_, rfl⟩⟩
  have hswap := List.Perm.swap "new/tool.pl" "old/tool.pl" []
  obtain ⟨r, r', hr, hr', hagrees, -⟩ := run_perm twoVersions {} hswap hread
  obtain ⟨u, u', hu, hu', hsame, hdistinct⟩ :=
    run_perm twoVersions { stripPaths := false } hswap hread
  exact ⟨⟨r, r', hr, hr', hagrees⟩, u, u', hu, hu', hsame, (hdistinct (by decide)).1⟩

end Run

end PerlCalls

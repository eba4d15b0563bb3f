import Mathlib
import PerlCalls.Proofs.Maps
import PerlCalls.Scan.Tally

/-! A tally as what its sources tell.

A source tells a list of definitions and a list of calls that depend on nothing but its path and its
lines. Tallying sources comes to entering these lists in order (`definitions_scanAll`,
`calls_scanAll`, `files_scanAll`). What stands under a key is then settled by the entries for that
key alone: a definition by `settle`, a call by how often it occurs. -/
namespace PerlCalls

/-- Where a definition is entered. -/
def Graph.Definition.site (d : Graph.Definition) : Graph.Site := ⟨d.file, d.name⟩

namespace Scan

open PerlCalls.Graph
open Files Text

/-- A path with the lines that have been read from it. -/
structure Source where
  path : String
  lines : List (List Char)

namespace Source

variable (s : Settings) (source : Source)

def identity : String := s.identity source.path

/-- What the lines tell, one by one. -/
def findings : List Findings :=
  Context.run s.extent { file := source.identity s } 1 (source.lines.map chomp)

/-- The implicit definition of the top-level scope, and the declarations in order. -/
def definitions : List Definition :=
  { name := mainScope, file := source.identity s, line := 0, implicit := true } ::
    (source.findings s).filterMap Findings.definition

/-- Every call, as often as it is made. -/
def calls : List CallKey :=
  (source.findings s).flatMap (fun f => f.calls.map (fun callee => ⟨f.caller, source.identity s, callee⟩))

end Source

/-- The tally of sources, scanned in order. -/
def Tally.scanAll (s : Settings) (sources : List Source) : Tally :=
  sources.foldl (fun t source => t.scanLines s source.path source.lines) {}

/-! ### Entries in order -/

namespace Tally

/-- Enter definitions in order. -/
def enterDefinitions (m : SortedMap Site Definition) (ds : List Definition) :
    SortedMap Site Definition :=
  ds.foldl (fun m d => m.alter d.site (fun old => if d.implicit then old.getD d else d)) m

/-- Count calls in order. -/
def enterCalls (m : SortedMap CallKey Int) (keys : List CallKey) : SortedMap CallKey Int :=
  keys.foldl (fun m k => m.alter k (fun old => old.getD 0 + 1)) m

theorem foldl_addCall (file caller : String) (callees : List String) (t : Tally) :
    callees.foldl (addCall file caller) t =
      { t with calls := enterCalls t.calls (callees.map fun callee => ⟨caller, file, callee⟩) } := by
  induction callees generalizing t with
  | nil => rfl
  | cons callee rest ih => exact ih _

theorem foldl_addFindings (file : String) (findings : List Findings) (t : Tally) :
    findings.foldl (addFindings file) t =
      { t with
        definitions := enterDefinitions t.definitions (findings.filterMap Findings.definition)
        calls := enterCalls t.calls
          (findings.flatMap fun f => f.calls.map fun callee => ⟨f.caller, file, callee⟩) } := by
  induction findings generalizing t with
  | nil => rfl
  | cons f rest ih =>
    rw [List.foldl_cons, ih, addFindings, foldl_addCall, List.flatMap_cons, List.filterMap_cons]
    cases f.definition with
    | none => simp [enterCalls]
    | some d => simp [enterCalls, enterDefinitions, define, Definition.site]

/-- One source enters its file, its definitions and its calls. -/
theorem scanLines_eq (t : Tally) (s : Settings) (source : Source) :
    t.scanLines s source.path source.lines =
      { files := (t.addFile (source.identity s)).files
        definitions := enterDefinitions t.definitions (source.definitions s)
        calls := enterCalls t.calls (source.calls s) } := by
  have hadd : ∀ file, (t.addFile file).definitions = t.definitions ∧ (t.addFile file).calls = t.calls := by
    intro file
    unfold addFile
    split <;> exact ⟨rfl, rfl⟩
  have hfile : s.identity source.path = source.identity s := rfl
  rw [scanLines, foldl_addFindings, hfile]
  simp only [define, hadd]
  rfl

theorem scanAll_concat (s : Settings) (sources : List Source) (source : Source) :
    scanAll s (sources ++ [source]) =
      (scanAll s sources).scanLines s source.path source.lines := by
  rw [scanAll, List.foldl_concat, ← scanAll]

theorem definitions_scanAll (s : Settings) (sources : List Source) :
    (scanAll s sources).definitions =
      enterDefinitions SortedMap.empty (sources.flatMap (Source.definitions s)) := by
  induction sources using List.reverseRecOn with
  | nil => rfl
  | append_singleton sources source ih =>
    rw [scanAll_concat, scanLines_eq]
    simp [ih, enterDefinitions]

theorem calls_scanAll (s : Settings) (sources : List Source) :
    (scanAll s sources).calls = enterCalls SortedMap.empty (sources.flatMap (Source.calls s)) := by
  induction sources using List.reverseRecOn with
  | nil => rfl
  | append_singleton sources source ih =>
    rw [scanAll_concat, scanLines_eq]
    simp [ih, enterCalls]

/-! ### What stands under a key -/

/-- What stands under a key when one more definition is entered there: a declaration replaces
whatever there is, an implicit definition replaces nothing. -/
def settle (old : Option Definition) (d : Definition) : Option Definition :=
  some (if d.implicit then old.getD d else d)

/-- The entries for a key settle what stands under it. -/
theorem find?_enterDefinitions (m : SortedMap Site Definition) (ds : List Definition) (site : Site) :
    (enterDefinitions m ds).find? site =
      (ds.filter (fun d => d.site = site)).foldl settle (m.find? site) := by
  induction ds generalizing m with
  | nil => rfl
  | cons d ds ih =>
    rw [enterDefinitions, List.foldl_cons, ← enterDefinitions, ih, SortedMap.find?_alter,
      List.filter_cons]
    by_cases hd : d.site = site
    · subst hd
      rw [if_pos rfl, if_pos (decide_eq_true rfl), List.foldl_cons]
      rfl
    · rw [if_neg (fun h => hd h.symm), if_neg (by simpa using hd)]

/-- What has been settled is one of the entries. -/
theorem mem_of_foldl_settle {ds : List Definition} {old : Option Definition} {d : Definition}
    (h : ds.foldl settle old = some d) : d ∈ ds ∨ old = some d := by
  induction ds generalizing old with
  | nil => exact Or.inr h
  | cons e ds ih =>
    rcases ih h with hmem | hsettled
    · exact Or.inl (List.mem_cons_of_mem _ hmem)
    · have hd : (if e.implicit then old.getD e else e) = d := Option.some.inj hsettled
      split at hd
      · cases old with
        | none => exact Or.inl (hd ▸ List.mem_cons_self ..)
        | some o => exact Or.inr (congrArg some hd)
      · exact Or.inl (hd ▸ List.mem_cons_self ..)

theorem implicit_foldl_settle_some (ds : List Definition) (d : Definition) :
    (ds.foldl settle (some d)).map Definition.implicit =
      some (d.implicit && ds.all Definition.implicit) := by
  induction ds generalizing d with
  | nil => simp
  | cons e ds ih =>
    rw [List.foldl_cons, settle, ih]
    cases he : e.implicit with
    | true => simp [he]
    | false => simp [he]

/-- Something is settled if there is an entry, and it is implicit if every entry is. -/
theorem implicit_foldl_settle (ds : List Definition) :
    (ds.foldl settle none).map Definition.implicit =
      if ds.isEmpty then none else some (ds.all Definition.implicit) := by
  cases ds with
  | nil => rfl
  | cons d ds =>
    have hfirst : settle none d = some d := by simp [settle]
    rw [List.foldl_cons, hfirst, implicit_foldl_settle_some]
    rfl

theorem exists_find?_enterDefinitions {ds : List Definition} {d : Definition} (h : d ∈ ds) :
    ∃ d', (enterDefinitions SortedMap.empty ds).find? d.site = some d' := by
  have hne : (ds.filter (fun e => e.site = d.site)).isEmpty = false :=
    List.isEmpty_eq_false_iff.mpr (List.ne_nil_of_mem (List.mem_filter.mpr ⟨h, decide_eq_true rfl⟩))
  have himplicit := implicit_foldl_settle (ds.filter (fun e => e.site = d.site))
  rw [hne] at himplicit
  obtain ⟨d', hd', -⟩ := Option.map_eq_some_iff.mp himplicit
  rw [find?_enterDefinitions]
  exact ⟨d', hd'⟩

/-- The count of a call is the number of its entries. -/
theorem find?_enterCalls (keys : List CallKey) (k : CallKey) :
    (enterCalls SortedMap.empty keys).find? k = sumOf? keys (fun j => j = k) (fun _ => 1) := by
  induction keys using List.reverseRecOn with
  | nil => exact (sumOf?_nil ..).symm
  | append_singleton keys j ih =>
    rw [enterCalls, List.foldl_concat, ← enterCalls, SortedMap.find?_alter, sumOf?_concat, ← ih]
    by_cases hj : j = k
    · subst hj
      simp
    · rw [if_neg (fun h => hj h.symm), if_neg hj]

/-! ### Files -/

theorem mem_files_addFile (t : Tally) (file f : String) :
    f ∈ (t.addFile file).files ↔ f = file ∨ f ∈ t.files := by
  unfold addFile
  split
  · rename_i h
    have hknown : file ∈ t.files := List.contains_iff_mem.mp h
    exact ⟨Or.inr, fun h => h.elim (fun h => h ▸ hknown) id⟩
  · simp [or_comm]

theorem nodup_files_addFile {t : Tally} (h : t.files.Nodup) (file : String) :
    (t.addFile file).files.Nodup := by
  unfold addFile
  split
  · exact h
  · rename_i hnew
    have hnew : file ∉ t.files := fun hmem => hnew (List.contains_iff_mem.mpr hmem)
    exact h.append (List.nodup_singleton file) (List.disjoint_singleton.mpr hnew)

/-- The files of a tally are those of its sources, each once. -/
theorem files_scanAll (s : Settings) (sources : List Source) :
    (scanAll s sources).files.Nodup ∧
      ∀ f, f ∈ (scanAll s sources).files ↔ f ∈ sources.map (Source.identity s) := by
  induction sources using List.reverseRecOn with
  | nil => exact ⟨List.nodup_nil, fun _ => Iff.rfl⟩
  | append_singleton sources source ih =>
    rw [scanAll_concat, scanLines_eq]
    refine ⟨nodup_files_addFile ih.1 _, fun f => ?_⟩
    rw [mem_files_addFile, ih.2, List.map_append, List.mem_append, List.map_singleton,
      List.mem_singleton, or_comm]

end Tally

end Scan

end PerlCalls

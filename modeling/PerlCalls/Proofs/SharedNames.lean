import Mathlib
import PerlCalls.Command.Session
import PerlCalls.Proofs.Defined

/-! Names that several files declare.

Which files declare a name is worked out in two places. Resolution keeps a set of files under each name
and enters the files one by one; a listing of the definitions keeps a list under each name, which is
sorted and rid of repeats at the end. The two come to the same (`definedNames_eq`). So the files that the
note on an ambiguous call names are those under which the listing of shared names shows the callee
(`filesOf_definitionsTable`, `shared_names_agree`). -/
namespace PerlCalls

/-! ### Lists and sets under names -/

namespace SortedMap

variable {κ : Type} [Ord κ] [Std.TransOrd κ] [Std.LawfulEqOrd κ] [DecidableEq κ] {ν μ : Type}

theorem mapValues_alter (m : SortedMap κ ν) (k : κ) {f : Option ν → ν} {f' : Option μ → μ} {h : ν → μ}
    (hf : ∀ old, h (f old) = f' (old.map h)) : (m.alter k f).mapValues h = (m.mapValues h).alter k f' := by
  refine ext_find? fun j => ?_
  simp only [find?_mapValues, find?_alter]
  split <;> simp [hf]

omit [Std.TransOrd κ] [Std.LawfulEqOrd κ] [DecidableEq κ] in
theorem mapValues_mapValues {ξ : Type} (m : SortedMap κ ν) (f : ν → μ) (h : μ → ξ) :
    (m.mapValues f).mapValues h = m.mapValues (h ∘ f) := by
  simp [mapValues, Function.comp_def]

end SortedMap

namespace Scan.Tally

open PerlCalls.Graph

/-- The lists hold what the sets of the index hold. -/
theorem foldl_listFile (ds : List Definition) :
    (ds.foldl listFile SortedMap.empty).mapValues SortedSet.ofList = NameIndex.ofDefinitions ds := by
  induction ds using List.reverseRecOn with
  | nil => rfl
  | append_singleton ds d ih =>
    rw [List.foldl_concat, NameIndex.ofDefinitions, List.foldl_concat, ← NameIndex.ofDefinitions, ← ih,
      listFile, NameIndex.note]
    split
    · rfl
    · refine SortedMap.mapValues_alter _ _ fun old => ?_
      cases old with
      | none => rfl
      | some files => exact List.foldl_concat ..

theorem definedNames_eq (t : Tally) :
    t.definedNames = (NameIndex.ofDefinitions t.definitionList).mapValues SortedSet.elems := by
  rw [← foldl_listFile, SortedMap.mapValues_mapValues]
  rfl

end Scan.Tally

/-! ### Notes on ambiguous calls -/

namespace Graph

theorem mem_ambiguous_build {ignores : String → Bool} {ds : List Definition} {calls : List Call}
    {a : AmbiguousCall} :
    a ∈ (CallGraph.build ignores ds calls).ambiguous ↔ ∃ c ∈ calls, Noted ds ignores c a := by
  have hperm : (CallGraph.build ignores ds calls).ambiguous.Perm (calls.filterMap (noteOf? ds ignores)) := by
    rw [← (Accounts.collect ds ignores calls).ambiguous]
    exact List.mergeSort_perm ..
  rw [hperm.mem_iff, List.mem_filterMap]
  simp only [noteOf?_eq_some_iff]

/-- A note names all files that declare the callee. -/
theorem Noted.files_eq {ds : List Definition} {ignores : String → Bool} {c : Call} {a : AmbiguousCall}
    (h : Noted ds ignores c a) : (NameIndex.ofDefinitions ds).files a.callee = a.files := by
  obtain ⟨-, hcallee, hpolicy⟩ := h
  rw [hcallee]
  cases hpolicy with
  | ambiguous _ _ hsorted hfiles _ =>
    refine SortedMap.eq_of_increase (NameIndex.files_increase ..)
      (hsorted.imp compare_eq_lt_iff.mpr) fun file => ?_
    rw [NameIndex.mem_files_ofDefinitions, hfiles]

end Graph

/-! ### The listing of definitions -/

/-- The files in the rows of a name. -/
def Report.Table.filesOf (t : Report.Table) (name : String) : List String :=
  t.rows.filterMap (fun row =>
    match row with
    | [n, file, _] => if n = name then some file else none
    | _ => none)

namespace Scan

open PerlCalls.Graph
open Command Report

theorem Tally.find?_definedNames (t : Tally) (name : String) :
    t.definedNames.find? name =
      ((NameIndex.ofDefinitions t.definitionList).find? name).map SortedSet.elems := by
  rw [t.definedNames_eq, SortedMap.find?_mapValues]

/-- The files of a name that nobody declares are none. -/
theorem Tally.getD_definedNames (t : Tally) (name : String) :
    (t.definedNames.find? name).getD [] = (NameIndex.ofDefinitions t.definitionList).files name := by
  rw [t.find?_definedNames, NameIndex.files]
  cases (NameIndex.ofDefinitions t.definitionList).find? name <;> rfl

namespace Recorded

variable {t : Tally}

/-- Definitions of one name are listed in the order of their files. -/
theorem files_increase (h : Recorded t) (name : String) :
    ((t.definitionList.filter (fun d => !d.implicit && d.name = name)).map Definition.file).Pairwise
      (fun a b => compare a b = .lt) := by
  have hsites : t.definitionList.Pairwise (fun d d' => compare d.site d'.site = .lt) := by
    refine List.pairwise_map.mpr (t.definitions.increasing.imp_of_mem fun he he' hlt => ?_)
    rw [(h.definition (SortedMap.mem_entries_iff.mp he)).1,
      (h.definition (SortedMap.mem_entries_iff.mp he')).1]
    exact hlt
  refine List.pairwise_map.mpr ((hsites.filter _).imp_of_mem fun {d d'} hd hd' hlt => ?_)
  have hname : d.name = d'.name := by
    have hd := (List.mem_filter.mp hd).2
    have hd' := (List.mem_filter.mp hd').2
    simp only [Bool.and_eq_true, decide_eq_true_eq] at hd hd'
    exact hd.2.trans hd'.2.symm
  have hthen : (compare d.file d'.file).then (compare d.name d'.name) = .lt := hlt
  simpa [hname, Std.ReflCmp.compare_self] using hthen

/-- The declarations of a name are in the files of the index, in their order. -/
theorem files_eq (h : Recorded t) (name : String) :
    (t.definitionList.filter (fun d => !d.implicit && d.name = name)).map Definition.file =
      (NameIndex.ofDefinitions t.definitionList).files name := by
  refine SortedMap.eq_of_increase (h.files_increase name) (NameIndex.files_increase ..) fun file => ?_
  rw [NameIndex.mem_files_ofDefinitions]
  simp [Declares, and_assoc]

/-- The listing of shared names shows a name with all its files, if there are several, or not at all. -/
theorem filesOf_definitionsTable (h : Recorded t) {r : DefinitionsRequest} (hr : r.shared = true)
    (names : Nat) {name : String} {files : List String}
    (hfound : t.definedNames.find? name = some files) :
    (definitionsTable names (listedDefinitions r t)).filesOf name =
      if 2 ≤ files.length then files else [] := by
  have hrows : ∀ ds : List Definition, (definitionsTable names ds).filesOf name =
      (ds.filter (fun d => d.name = name)).map Definition.file := by
    intro ds
    rw [Table.filesOf, definitionsTable, List.filterMap_map]
    induction ds with
    | nil => rfl
    | cons d ds ih => by_cases hd : d.name = name <;> simp_all
  have hlisted : (listedDefinitions r t).filter (fun d => d.name = name) =
      (t.definitionList.filter (fun d => !d.implicit && d.name = name)).filter
        (fun _ => 2 ≤ files.length) := by
    rw [listedDefinitions, List.filter_filter, List.filter_filter]
    refine List.filter_congr fun d _ => ?_
    by_cases hd : d.name = name
    · subst hd
      simp [hr, hfound, Bool.and_comm]
    · simp [hd]
  have hfiles := (t.getD_definedNames name).trans (h.files_eq name).symm
  rw [hfound, Option.getD_some] at hfiles
  rw [hrows, hlisted]
  by_cases hmany : 2 ≤ files.length
  · rw [if_pos hmany, List.filter_eq_self.mpr fun _ _ => decide_eq_true hmany, ← hfiles]
  · rw [if_neg hmany, List.filter_eq_nil_iff.mpr fun _ _ => by simpa using hmany]
    rfl

theorem splitQualified_caller (h : Recorded t) {c : Call} (hc : c ∈ t.callList) :
    splitQualified c.callerId = (c.file, c.caller) := by
  obtain ⟨⟨k, n⟩, he, rfl⟩ := List.mem_map.mp hc
  obtain ⟨d, hd⟩ := h.caller (SortedMap.mem_entries_iff.mp he)
  obtain ⟨hsite, hplain⟩ := h.definition hd
  have hname : d.name = k.caller := congrArg Site.name hsite
  exact splitQualified_qualify k.file (hname ▸ hplain)

end Recorded

/-- **Resolution and the listing of shared names go by the same files.** The names that a scan has found
declared, with the files that declare them, are the index that calls are resolved against. The note on
an ambiguous call therefore names the files that the scan has under the callee: at least two, in
increasing order, and not the one that the call is made from. In the listing of shared names the callee
has a row for each of them, and no other. -/
theorem shared_names_agree (s : Settings) (sources : List Source) (ignores : String → Bool) :
    let tally := Tally.scanAll s sources
    tally.definedNames = (NameIndex.ofDefinitions tally.definitionList).mapValues SortedSet.elems ∧
      ∀ a ∈ (CallGraph.build ignores tally.definitionList tally.callList).ambiguous,
        tally.definedNames.find? a.callee = some a.files ∧ a.files.Pairwise (· < ·) ∧
        2 ≤ a.files.length ∧
        (∃ c ∈ tally.callList, a.caller = c.callerId ∧ a.callee = c.callee ∧
          splitQualified a.caller = (c.file, c.caller) ∧ c.file ∉ a.files) ∧
        ∀ r : DefinitionsRequest, r.shared = true →
          (definitionsTable tally.definedNames.size (listedDefinitions r tally)).filesOf a.callee =
            a.files := by
  intro tally
  have h : Recorded tally := Recorded.scanAll s sources
  refine ⟨tally.definedNames_eq, fun a ha => ?_⟩
  obtain ⟨c, hc, hnoted⟩ := mem_ambiguous_build.mp ha
  have hfiles := (tally.getD_definedNames a.callee).trans hnoted.files_eq
  obtain ⟨hcaller, hcallee, hpolicy⟩ := hnoted
  cases hpolicy with
  | ambiguous _ hother hsorted hdeclares hlength =>
    have hfound : tally.definedNames.find? a.callee = some a.files := by
      cases hnames : tally.definedNames.find? a.callee with
      | some files => rw [← hfiles, hnames, Option.getD_some]
      | none =>
        rw [hnames] at hfiles
        rw [← hfiles] at hlength
        exact absurd hlength (by decide)
    refine ⟨hfound, hsorted, hlength, ⟨c, hc, hcaller, hcallee, ?_, ?_⟩, fun r hr => ?_⟩
    · rw [hcaller]
      exact h.splitQualified_caller hc
    · exact fun hmem => hother ((hdeclares c.file).mp hmem)
    · rw [h.filesOf_definitionsTable hr _ hfound, if_pos hlength]

/-- Two files declare a name that a third one calls. -/
def sharedHelper : List Source :=
  [⟨"a.pl", ["sub helper".toList]⟩, ⟨"b.pl", ["sub helper".toList]⟩, ⟨"c.pl", ["helper();".toList]⟩]

theorem shared_names_agree_sharedHelper :
    let tally := Tally.scanAll {} sharedHelper
    let note : AmbiguousCall := ⟨"c.pl:main", "helper", ["a.pl", "b.pl"]⟩
    note ∈ (CallGraph.build (fun _ => false) tally.definitionList tally.callList).ambiguous ∧
      tally.definedNames.find? "helper" = some ["a.pl", "b.pl"] ∧
      (definitionsTable tally.definedNames.size
        (listedDefinitions { shared := true } tally)).filesOf "helper" = ["a.pl", "b.pl"] := by
  intro tally note
  have hnote : note ∈
      (CallGraph.build (fun _ => false) tally.definitionList tally.callList).ambiguous := by
    decide +kernel
  obtain ⟨hfound, -, -, -, hlisted⟩ := (shared_names_agree {} sharedHelper (fun _ => false)).2 note hnote
  exact ⟨hnote, hfound, hlisted { shared := true } rfl⟩

end Scan

end PerlCalls

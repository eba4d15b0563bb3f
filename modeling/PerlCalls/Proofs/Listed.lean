import Mathlib
import PerlCalls.Proofs.ColumnZero
import PerlCalls.Proofs.Defined
import PerlCalls.Proofs.Reached

/-! What a scan lists.

`declaredLines` reads off a text, by the looks of its lines alone, which names it declares on which lines.
A source tells exactly these declarations, behind the implicit definition of its top level
(`Source.definitions_eq`). Of all entries under a key the last declaration stands, and without one the first
implicit definition (`Tally.foldl_settle`), so what is listed for a file and a name can be said without
following the entries one by one (`Tally.find?_definitions_scanAll`). -/
namespace PerlCalls

/-! ### Orders -/

namespace Graph

theorem Site.compare_eq_lt_iff {a b : Site} :
    compare a b = .lt ↔ toLex (a.file, a.name) < toLex (b.file, b.name) := by
  have hsite : compare a b = (compare a.file b.file).then (compare a.name b.name) := rfl
  rw [hsite, Ordering.then_eq_lt, PerlCalls.compare_eq_lt_iff, PerlCalls.compare_eq_lt_iff,
    Std.LawfulEqCmp.compare_eq_iff_eq, Prod.Lex.toLex_lt_toLex]

theorem CallKey.compare_eq_lt_iff {a b : CallKey} :
    compare a b = .lt ↔
      toLex (a.caller, toLex (a.file, a.callee)) < toLex (b.caller, toLex (b.file, b.callee)) := by
  have hkey : compare a b = (compare a.scope b.scope).then (compare a.callee b.callee) := rfl
  rw [hkey, Ordering.then_eq_lt, Site.compare_eq_lt_iff, Std.LawfulEqCmp.compare_eq_iff_eq,
    PerlCalls.compare_eq_lt_iff]
  simp only [Prod.Lex.toLex_lt_toLex, CallKey.scope, Site.mk.injEq]
  tauto

end Graph

/-! ### Declarations by their looks -/

namespace Perl

/-- The numbered lines that are code. `inPod` tells whether documentation is open before the first one. -/
def numberedCodeFrom (inPod : Bool) : List (List Char × Nat) → List (List Char × Nat)
  | [] => []
  | (line, number) :: rest =>
    if inPod then numberedCodeFrom (!closesPod line) rest
    else if marksEnd line then []
    else if opensPod line then numberedCodeFrom (!closesPod line) rest
    else if isSkipped line then numberedCodeFrom false rest
    else (line, number) :: numberedCodeFrom false rest

/-- The names that the code of a text declares, each with the number of its line, counted from one. -/
def declaredLines (lines : List (List Char)) : List (String × Nat) :=
  (numberedCodeFrom false (lines.zipIdx 1)).filterMap fun p => (declaration p.1).map (·, p.2)

/-- The numbers of the lines on which the code of a text declares `name`. -/
def linesDeclaring (name : String) (lines : List (List Char)) : List Nat :=
  ((declaredLines lines).filter fun p => p.1 = name).map Prod.snd

end Perl

namespace Scan

open PerlCalls.Graph PerlCalls.Perl
open Text

namespace Context

variable {extent : BodyExtent} {c : Context} {line : List Char}

theorem isCode_of_declares {name : String} (h : c.role line = .declares name) : IsCode line := by
  unfold role at h
  split_ifs at h with hend hpod hcloses hmarks hopens hcloses hskipped
  exact ⟨by simpa using hmarks, by simpa using hopens, by simpa using hskipped⟩

/-- A line declares what its looks say if it is code where code may stand, and nothing otherwise. -/
theorem definition_of_isCode (hopen : c.IsOpen) (hline : IsCode line) (extent : BodyExtent) (number : Int) :
    (c.findings extent number line).definition =
      (declaration line).map fun name => ⟨name, c.file, number, false⟩ := by
  have hrole := hopen.role_isCode hline
  unfold findings
  cases hdecl : declaration line with
  | none =>
    rw [hdecl] at hrole
    rw [hrole]
    dsimp only [Option.elim_none]
    split <;> rfl
  | some name =>
    rw [hdecl] at hrole
    rw [hrole]
    rfl

theorem definition_of_not_isCode (h : ¬(c.IsOpen ∧ IsCode line)) (extent : BodyExtent) (number : Int) :
    (c.findings extent number line).definition = none := by
  refine Option.eq_none_iff_forall_ne_some.mpr fun d hd => ?_
  have hrole := ((findings_definition ..).mp hd).1
  exact h ⟨IsOpen.of_role hrole nofun nofun, isCode_of_declares hrole⟩

/-- The code among the numbered lines that follow. -/
def numberedAhead (c : Context) (lines : List (List Char × Nat)) : List (List Char × Nat) :=
  if c.afterEnd then [] else numberedCodeFrom c.inPod lines

theorem IsOpen.numberedAhead_cons (h : c.IsOpen) (hline : IsCode line) (extent : BodyExtent) (k : Nat)
    (rest : List (List Char × Nat)) :
    c.numberedAhead ((line, k) :: rest) = (line, k) :: (c.next extent line).numberedAhead rest := by
  have hnext := h.next hline extent
  simp [numberedAhead, numberedCodeFrom, h.inPod, h.afterEnd, hnext.inPod, hnext.afterEnd, hline.notEnd,
    hline.notPod, hline.notSkipped]

theorem numberedAhead_skip (h : ¬(c.IsOpen ∧ IsCode line)) (extent : BodyExtent) (k : Nat)
    (rest : List (List Char × Nat)) :
    c.numberedAhead ((line, k) :: rest) = (c.next extent line).numberedAhead rest := by
  have hplace := next_place extent c line
  rw [numberedAhead, numberedAhead, ← hplace.inPod, ← hplace.afterEnd]
  cases hend : c.afterEnd with
  | true => simp [role, hend]
  | false =>
    cases hpod : c.inPod with
    | true => cases hcloses : closesPod line <;> simp [role, numberedCodeFrom, hend, hpod, hcloses]
    | false =>
      cases hmarks : marksEnd line with
      | true => simp [role, numberedCodeFrom, hend, hpod, hmarks]
      | false =>
        cases hopens : opensPod line with
        | true =>
          cases hcloses : closesPod line <;>
            simp [role, numberedCodeFrom, hend, hpod, hmarks, hopens, hcloses]
        | false =>
          cases hskipped : isSkipped line with
          | true => simp [role, numberedCodeFrom, hend, hpod, hmarks, hopens, hskipped]
          | false => exact absurd ⟨⟨hpod, hend⟩, hmarks, hopens, hskipped⟩ h

/-- Reading lines tells what their code declares. -/
theorem filterMap_run (extent : BodyExtent) (c : Context) (k : Nat) (lines : List (List Char)) :
    (c.run extent k lines).filterMap Findings.definition =
      (c.numberedAhead (lines.zipIdx k)).filterMap fun p =>
        (declaration p.1).map fun name => ⟨name, c.file, p.2, false⟩ := by
  induction lines generalizing c k with
  | nil => cases hend : c.afterEnd <;> simp [run, numberedAhead, numberedCodeFrom, hend]
  | cons line rest ih =>
    have ih := ih (c.next extent line) (k + 1)
    rw [(next_scope extent c line).1] at ih
    rw [run, List.zipIdx_cons, List.filterMap_cons]
    push_cast at ih
    rw [ih]
    by_cases hcode : c.IsOpen ∧ IsCode line
    · rw [hcode.1.numberedAhead_cons hcode.2 extent, definition_of_isCode hcode.1 hcode.2,
        List.filterMap_cons]
    · rw [numberedAhead_skip hcode extent, definition_of_not_isCode hcode]

end Context

/-- What a source defines: its top level, and what its code declares. -/
theorem Source.definitions_eq (s : Settings) (source : Source) :
    source.definitions s = ⟨mainScope, source.identity s, 0, true⟩ ::
      (declaredLines (source.lines.map chomp)).map fun p => ⟨p.1, source.identity s, p.2, false⟩ := by
  have hrun := Context.filterMap_run s.extent { file := source.identity s } 1 (source.lines.map chomp)
  have hahead : ∀ lines, ({ file := source.identity s } : Context).numberedAhead lines =
      numberedCodeFrom false lines := fun _ => rfl
  rw [definitions, findings]
  push_cast at hrun
  rw [hrun, hahead, declaredLines, List.map_filterMap]
  simp only [Option.map_map]
  rfl

/-! ### Entries under a key -/

/-- The numbers of the lines that declare `name` in the scans of `file`, one scan after the other. -/
def declaredAt (s : Settings) (sources : List Source) (file name : String) : List Nat :=
  (sources.filter fun source => source.identity s = file).flatMap fun source =>
    linesDeclaring name (source.lines.map chomp)

/-- The declarations among the entries of a source under a key. -/
theorem Source.filter_declared (s : Settings) (source : Source) (file name : String) :
    ((source.definitions s).filter fun d => d.site = ⟨file, name⟩).filter (fun d => !d.implicit) =
      if source.identity s = file then
        (linesDeclaring name (source.lines.map chomp)).map fun k => ⟨name, file, k, false⟩
      else [] := by
  rw [List.filter_filter, definitions_eq, List.filter_cons_of_neg (by simp), List.filter_map]
  by_cases hfile : source.identity s = file
  · subst hfile
    rw [if_pos rfl, linesDeclaring, List.map_map]
    simp only [Function.comp_def, Definition.site, Site.mk.injEq, true_and, Bool.not_false]
    refine List.map_congr_left fun p hp => ?_
    have hname : p.1 = name := of_decide_eq_true (List.mem_filter.mp hp).2
    rw [hname]
  · rw [if_neg hfile]
    simp [Function.comp_def, Definition.site, hfile]

namespace Tally

/-- The last declaration stands, and without one the first entry. -/
theorem foldl_settle (ds : List Definition) :
    ds.foldl settle none = (ds.filter fun d => !d.implicit).getLast?.or ds.head? := by
  induction ds using List.reverseRecOn with
  | nil => rfl
  | append_singleton ds d ih =>
    rw [List.foldl_concat, ih, settle, List.filter_append]
    cases hd : d.implicit with
    | false => simp [hd]
    | true => cases ds <;> simp [hd]

/-- The declarations among the entries under a key. -/
theorem filter_declared (s : Settings) (sources : List Source) (file name : String) :
    ((sources.flatMap (Source.definitions s)).filter fun d => d.site = ⟨file, name⟩).filter
        (fun d => !d.implicit) = (declaredAt s sources file name).map fun k => ⟨name, file, k, false⟩ := by
  induction sources with
  | nil => rfl
  | cons source rest ih =>
    rw [List.flatMap_cons, List.filter_append, List.filter_append, ih, source.filter_declared, declaredAt,
      declaredAt, List.filter_cons]
    by_cases hfile : source.identity s = file <;> simp [hfile]

/-- The implicit entries under a key: there is one for each scan of the file, if the name is that of the top
level. -/
theorem mem_implicit_iff (s : Settings) (sources : List Source) (d : Definition) (h : d.implicit = true) :
    d ∈ sources.flatMap (Source.definitions s) ↔
      d.file ∈ sources.map (Source.identity s) ∧ d = ⟨mainScope, d.file, 0, true⟩ := by
  simp only [List.mem_flatMap, Source.definitions_eq, List.mem_cons, List.mem_map]
  constructor
  · rintro ⟨source, hsource, rfl | ⟨p, -, rfl⟩⟩
    · exact ⟨⟨source, hsource, rfl⟩, rfl⟩
    · cases h
  · rintro ⟨⟨source, hsource, hfile⟩, hd⟩
    exact ⟨source, hsource, Or.inl (by rw [hd, hfile])⟩

/-- Without a declaration, only the top level of a scanned file has entries, and they are all alike. -/
theorem mem_undeclared_iff {s : Settings} {sources : List Source} {file name : String}
    (h : declaredAt s sources file name = []) (d : Definition) :
    d ∈ (sources.flatMap (Source.definitions s)).filter (fun d => d.site = ⟨file, name⟩) ↔
      (file ∈ sources.map (Source.identity s) ∧ name = mainScope) ∧ d = ⟨mainScope, file, 0, true⟩ := by
  have hdeclared := filter_declared s sources file name
  rw [h, List.map_nil, List.filter_eq_nil_iff] at hdeclared
  constructor
  · intro hd
    have himplicit : d.implicit = true := by simpa using hdeclared d hd
    obtain ⟨hentry, hsite⟩ := List.mem_filter.mp hd
    obtain ⟨hfile, hname⟩ := Site.mk.inj (of_decide_eq_true hsite)
    obtain ⟨hscanned, hmain⟩ := (mem_implicit_iff s sources d himplicit).mp hentry
    rw [hfile] at hscanned hmain
    exact ⟨⟨hscanned, hname.symm.trans (congrArg Definition.name hmain)⟩, hmain⟩
  · rintro ⟨⟨hscanned, rfl⟩, rfl⟩
    exact List.mem_filter.mpr
      ⟨(mem_implicit_iff s sources _ rfl).mpr ⟨hscanned, rfl⟩, decide_eq_true rfl⟩

/-- What stands under a file and a name: the last declaration, and else the top level of the file. -/
theorem find?_definitions_scanAll (s : Settings) (sources : List Source) (file name : String) :
    (scanAll s sources).definitions.find? ⟨file, name⟩ =
      match (declaredAt s sources file name).getLast? with
      | some k => some ⟨name, file, k, false⟩
      | none => if file ∈ sources.map (Source.identity s) ∧ name = mainScope then
          some ⟨mainScope, file, 0, true⟩ else none := by
  rw [definitions_scanAll, find?_enterDefinitions, SortedMap.find?_empty, foldl_settle, filter_declared,
    List.getLast?_map]
  cases hlast : (declaredAt s sources file name).getLast? with
  | some k => rfl
  | none =>
    have hmem := mem_undeclared_iff (List.getLast?_eq_none_iff.mp hlast)
    rw [Option.map_none, Option.none_or]
    cases hhead : ((sources.flatMap (Source.definitions s)).filter
        fun d => d.site = ⟨file, name⟩).head? with
    | none =>
      have hnil := List.head?_eq_none_iff.mp hhead
      have hnot : ¬(file ∈ sources.map (Source.identity s) ∧ name = mainScope) := fun hmain =>
        List.ne_nil_of_mem ((hmem _).mpr ⟨hmain, rfl⟩) hnil
      simp only [if_neg hnot]
    | some d =>
      obtain ⟨hmain, rfl⟩ := (hmem d).mp (List.mem_of_head? hhead)
      simp only [if_pos hmain]

/-- What is listed: the last declaration of each name in each file, and the top level of each scanned file
that does not declare its name. -/
theorem mem_definitionList_scanAll (s : Settings) (sources : List Source) (d : Definition) :
    d ∈ (scanAll s sources).definitionList ↔
      (∃ k, (declaredAt s sources d.file d.name).getLast? = some k ∧ d.line = k ∧ d.implicit = false) ∨
      declaredAt s sources d.file d.name = [] ∧ d.file ∈ sources.map (Source.identity s) ∧
        d.name = mainScope ∧ d.line = 0 ∧ d.implicit = true := by
  obtain ⟨name, file, line, implicit⟩ := d
  rw [(Recorded.scanAll s sources).mem_definitionList_iff, Definition.site, find?_definitions_scanAll]
  cases hlast : (declaredAt s sources file name).getLast? with
  | some k =>
    have hne : declaredAt s sources file name ≠ [] := fun hnil => by simp [hnil] at hlast
    simp [hne, eq_comm]
  | none =>
    have hnil := List.getLast?_eq_none_iff.mp hlast
    simp only [hnil, reduceCtorEq, false_and, exists_false, false_or, true_and,
      Option.ite_none_right_eq_some, Option.some.injEq, Definition.mk.injEq]
    constructor
    · rintro ⟨⟨hscanned, hmain⟩, -, rfl, rfl⟩
      exact ⟨hscanned, hmain, rfl, rfl⟩
    · rintro ⟨hscanned, rfl, rfl, rfl⟩
      exact ⟨⟨hscanned, rfl⟩, rfl, rfl, rfl⟩

/-! ### Files and calls -/

theorem files_scanAll_eq (s : Settings) (sources : List Source) :
    (scanAll s sources).files = (sources.map (Source.identity s)).eraseDups := by
  induction sources using List.reverseRecOn with
  | nil => rfl
  | append_singleton sources source ih =>
    rw [scanAll_concat, scanLines_eq, List.map_append, List.eraseDups_append, ← ih]
    by_cases hknown : source.identity s ∈ sources.map (Source.identity s)
    · have hlisted := ((files_scanAll s sources).2 _).mpr hknown
      have hnone : [source.identity s].removeAll (sources.map (Source.identity s)) = [] := by
        simp only [List.removeAll, List.filter_eq_nil_iff]
        simpa using hknown
      rw [addFile, if_pos (List.contains_iff_mem.mpr hlisted), List.map_singleton, hnone]
      simp
    · have hnew : source.identity s ∉ (scanAll s sources).files :=
        mt ((files_scanAll s sources).2 _).mp hknown
      have hone : [source.identity s].removeAll (sources.map (Source.identity s)) = [source.identity s] := by
        simp only [List.removeAll, List.filter_eq_self]
        simpa using hknown
      rw [addFile, if_neg (mt List.contains_iff_mem.mp hnew), List.map_singleton, hone]
      simp [List.eraseDups_cons]

theorem callList_increase (t : Tally) :
    t.callList.Pairwise fun c e =>
      toLex (c.caller, toLex (c.file, c.callee)) < toLex (e.caller, toLex (e.file, e.callee)) := by
  rw [callList, List.pairwise_map]
  exact t.calls.increasing.imp CallKey.compare_eq_lt_iff.mp

/-- Under its own key, every definition comes once, in the order of files and names. -/
theorem definitionList_increase {t : Tally} (h : Recorded t) :
    t.definitionList.Pairwise fun d e => toLex (d.file, d.name) < toLex (e.file, e.name) := by
  rw [definitionList, SortedMap.values, List.pairwise_map]
  refine t.definitions.increasing.imp_of_mem ?_
  intro a b ha hb hlt
  have hsite : a.2.site = a.1 := (h.definition (SortedMap.mem_entries_iff.mp ha)).1
  have hsite' : b.2.site = b.1 := (h.definition (SortedMap.mem_entries_iff.mp hb)).1
  rw [← hsite, ← hsite', Site.compare_eq_lt_iff] at hlt
  exact hlt

end Tally

/-- **What a scan lists.** After any scans, the definitions are in strict order of files and names. There is
one for the top level of each scanned file and one for each name that some code of a file of that name
declares, and no other. It is explicit exactly if there is such a declaration, and stands on the line of the
last one, counted within its own scan; an implicit definition stands on no line. The calls are in strict order of
callers, files and callees, each made at least once, and the files are the names of the scanned ones in the
order of their first scan. -/
theorem scanAll_lists (s : Settings) (sources : List Source) :
    let t := Tally.scanAll s sources
    t.definitionList.Pairwise (fun d e => toLex (d.file, d.name) < toLex (e.file, e.name)) ∧
      (∀ file name, (∃ d ∈ t.definitionList, d.file = file ∧ d.name = name) ↔
        file ∈ sources.map (Source.identity s) ∧ name = mainScope ∨
          declaredAt s sources file name ≠ []) ∧
      (∀ d ∈ t.definitionList,
        (d.implicit = false ↔ declaredAt s sources d.file d.name ≠ []) ∧
        (∀ k, (declaredAt s sources d.file d.name).getLast? = some k → d.line = k) ∧
        (d.implicit = true → d.line = 0)) ∧
      t.callList.Pairwise (fun c e =>
        toLex (c.caller, toLex (c.file, c.callee)) < toLex (e.caller, toLex (e.file, e.callee))) ∧
      (∀ c ∈ t.callList, 1 ≤ c.count) ∧
      t.files = (sources.map (Source.identity s)).eraseDups := by
  intro t
  have hlisted := Tally.mem_definitionList_scanAll s sources
  refine ⟨Tally.definitionList_increase (Recorded.scanAll s sources), fun file name => ⟨?_, fun h => ?_⟩,
    fun d hd => ?_, t.callList_increase, fun c hc => ?_, Tally.files_scanAll_eq s sources⟩
  · rintro ⟨d, hd, rfl, rfl⟩
    rcases (hlisted d).mp hd with ⟨k, hlast, -⟩ | ⟨-, hscanned, hmain, -⟩
    · exact Or.inr (List.ne_nil_of_mem (List.mem_of_getLast? hlast))
    · exact Or.inl ⟨hscanned, hmain⟩
  · by_cases hnone : declaredAt s sources file name = []
    · obtain ⟨hscanned, hmain⟩ := h.resolve_right (not_not_intro hnone)
      exact ⟨⟨name, file, 0, true⟩, (hlisted _).mpr (Or.inr ⟨hnone, hscanned, hmain, rfl, rfl⟩), rfl, rfl⟩
    · have hlast := List.getLast?_eq_getLast_of_ne_nil hnone
      exact ⟨⟨name, file, _, false⟩, (hlisted _).mpr (Or.inl ⟨_, hlast, rfl, rfl⟩), rfl, rfl⟩
  · rcases (hlisted d).mp hd with ⟨k, hlast, hline, himplicit⟩ | ⟨hnone, -, -, hline, himplicit⟩
    · have hne := List.ne_nil_of_mem (List.mem_of_getLast? hlast)
      refine ⟨iff_of_true himplicit hne, fun k' hk' => ?_, by simp [himplicit]⟩
      rw [hline, Option.some.inj (hlast.symm.trans hk')]
    · exact ⟨by simp [himplicit, hnone], by simp [hnone], fun _ => hline⟩
  · have hcount := (t.mem_callList_iff c).mp hc
    rw [Tally.calls_scanAll, Tally.find?_enterCalls_eq_some_iff] at hcount
    exact hcount.1

-- The second scan meets an explicit top level and declares a name again, further up.
example :
    (Tally.scanAll {} [⟨"x/a.pl", ["".toList, "sub main".toList, "sub f".toList]⟩,
      ⟨"y/a.pl", ["sub f \x7b".toList]⟩]).definitionList =
      [⟨"f", "a.pl", 1, false⟩, ⟨"main", "a.pl", 2, false⟩] := by
  decide +kernel

end Scan

end PerlCalls

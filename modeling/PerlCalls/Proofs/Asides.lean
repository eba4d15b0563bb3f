import Mathlib
import PerlCalls.Proofs.Recorded

/-! Text beside the code tells nothing and changes nothing.

An `Aside` is made of blank lines, comments and documentation. Read where code may stand, it leaves the
context as it was and tells nothing (`readsSilently_aside`), so putting it between two lines of a file does no
more than move the lines below it down (`run_later`). All that is past the end marker tells nothing
either (`silent_of_afterEnd`). -/
namespace PerlCalls

/-- The definition, so many lines further down. -/
def Graph.Definition.later (d : Graph.Definition) (k : Int) : Graph.Definition :=
  { d with line := d.line + k }

namespace Perl

/-- The lines are no code, wherever code may stand: blank lines, comments, lines that close
documentation where none is open, and blocks of documentation, whatever these hold. -/
inductive Aside : List (List Char) → Prop where
  | nil : Aside []
  | skipped {line : List Char} {rest : List (List Char)} :
      isSkipped line = true → Aside rest → Aside (line :: rest)
  | stray {line : List Char} {rest : List (List Char)} :
      closesPod line = true → Aside rest → Aside (line :: rest)
  | pod {first last : List Char} {body rest : List (List Char)} :
      opensPod first = true → closesPod first = false → (∀ line ∈ body, closesPod line = false) →
      closesPod last = true → Aside rest → Aside (first :: (body ++ last :: rest))

theorem marksEnd_first {line : List Char} (h : marksEnd line = true) : line.head? = some '_' := by
  cases line with
  | nil => simp [marksEnd, after?] at h
  | cons c rest =>
    by_cases hc : '_' = c
    · rw [← hc]
      rfl
    · simp [marksEnd, after?, hc] at h

theorem opensPod_first {line : List Char} (h : opensPod line = true) : line.head? = some '=' := by
  unfold opensPod at h
  split at h
  · rfl
  · cases h

theorem isSkipped_first {line : List Char} {c : Char} (h : isSkipped line = true)
    (hc : line.head? = some c) : Text.isBlank c = true ∨ c = '#' := by
  cases line with
  | nil => cases hc
  | cons d rest =>
    cases hc
    by_cases hblank : Text.isBlank c = true
    · exact Or.inl hblank
    · rw [isSkipped, List.dropWhile_cons_of_neg hblank] at h
      unfold endsOrComments at h
      split at h
      · rename_i heq
        cases heq
      · rename_i heq
        exact Or.inr (List.cons.inj heq).1
      · cases h

theorem opensPod_of_closesPod {line : List Char} (h : closesPod line = true) :
    opensPod line = true := by
  unfold closesPod at h
  split at h
  · rfl
  · cases h

end Perl

namespace Scan

open PerlCalls.Graph PerlCalls.Perl
open Text

/-! ### Findings that tell nothing -/

/-- The line neither declares nor calls anything. -/
structure Findings.IsSilent (f : Findings) : Prop where
  definition : f.definition = none
  calls : f.calls = []

/-- The same findings, so many lines further down. -/
def Findings.later (k : Int) (f : Findings) : Findings :=
  { f with definition := f.definition.map (·.later k) }

theorem filterMap_silent {fs : List Findings} (h : ∀ f ∈ fs, f.IsSilent) :
    fs.filterMap Findings.definition = [] :=
  List.filterMap_eq_nil_iff.mpr fun f hf => (h f hf).definition

theorem flatMap_silent {α : Type} {fs : List Findings} (h : ∀ f ∈ fs, f.IsSilent)
    (read : Findings → String → α) : (fs.flatMap fun f => f.calls.map (read f)) = [] :=
  List.flatMap_eq_nil_iff.mpr fun f hf => by rw [(h f hf).calls, List.map_nil]

namespace Context

variable {extent : BodyExtent} {c : Context} {lines : List (List Char)}

theorem after_append (extent : BodyExtent) (c : Context) (a b : List (List Char)) :
    c.after extent (a ++ b) = (c.after extent a).after extent b :=
  List.foldl_append

/-- Lines that are read in silence: nothing is told, and the context stays. -/
def ReadsSilently (extent : BodyExtent) (c : Context) (lines : List (List Char)) : Prop :=
  c.after extent lines = c ∧ ∀ number, ∀ f ∈ c.run extent number lines, f.IsSilent

theorem findings_silent {line : List Char} (hcode : c.role line ≠ .code)
    (hdeclares : ∀ name, c.role line ≠ .declares name) (number : Int) :
    (c.findings extent number line).IsSilent := by
  unfold findings
  cases hrole : c.role line with
  | code => exact absurd hrole hcode
  | declares name => exact absurd hrole (hdeclares name)
  | _ => exact ⟨rfl, rfl⟩

theorem readsSilently_cons {line : List Char} (hrole : c.role line = .silent)
    (hrest : c.ReadsSilently extent lines) : c.ReadsSilently extent (line :: lines) := by
  have hnext : c.next extent line = c := by simp only [next, hrole]
  refine ⟨?_, fun number f hf => ?_⟩
  · show (c.next extent line).after extent lines = c
    rw [hnext, hrest.1]
  · rw [run, hnext] at hf
    rcases List.mem_cons.mp hf with rfl | hf
    · exact findings_silent (by simp [hrole]) (by simp [hrole]) number
    · exact hrest.2 _ f hf

/-- Past the end nothing is told any more. -/
theorem silent_of_afterEnd (h : c.afterEnd = true) (lines : List (List Char)) :
    c.ReadsSilently extent lines := by
  induction lines with
  | nil => exact ⟨rfl, by simp [run]⟩
  | cons line rest ih => exact readsSilently_cons (by rw [role, if_pos h]) ih

/-- Nor is it in documentation, before it is closed. -/
theorem silent_of_inPod (hend : c.afterEnd = false) (hpod : c.inPod = true)
    (hlines : ∀ line ∈ lines, closesPod line = false) : c.ReadsSilently extent lines := by
  induction lines with
  | nil => exact ⟨rfl, by simp [run]⟩
  | cons line rest ih =>
    refine readsSilently_cons ?_ (ih fun line hline => hlines line (List.mem_cons_of_mem _ hline))
    simp [role, hend, hpod, hlines line (List.mem_cons_self ..)]

/-- The context is one in which code may stand. -/
structure IsOpen (c : Context) : Prop where
  inPod : c.inPod = false
  afterEnd : c.afterEnd = false

theorem IsOpen.role_skipped {line : List Char} (h : c.IsOpen) (hline : isSkipped line = true) :
    c.role line = .silent := by
  have hend : marksEnd line = false := Bool.eq_false_iff.mpr fun hmark => by
    have hfirst := isSkipped_first hline (marksEnd_first hmark)
    exact absurd hfirst (by decide)
  have hpod : opensPod line = false := Bool.eq_false_iff.mpr fun hopens => by
    have hfirst := isSkipped_first hline (opensPod_first hopens)
    exact absurd hfirst (by decide)
  simp [role, h.inPod, h.afterEnd, hend, hpod, hline]

theorem not_marksEnd_of_opensPod {line : List Char} (h : opensPod line = true) :
    marksEnd line = false := Bool.eq_false_iff.mpr fun hmark => by
  have hfirst := (marksEnd_first hmark).symm.trans (opensPod_first h)
  exact absurd hfirst (by decide)

theorem IsOpen.role_stray {line : List Char} (h : c.IsOpen) (hline : closesPod line = true) :
    c.role line = .silent := by
  have hopens := opensPod_of_closesPod hline
  simp [role, h.inPod, h.afterEnd, not_marksEnd_of_opensPod hopens, hopens, hline]

theorem IsOpen.role_opens {line : List Char} (h : c.IsOpen) (hline : opensPod line = true)
    (hclose : closesPod line = false) : c.role line = .entersPod := by
  simp [role, h.inPod, h.afterEnd, not_marksEnd_of_opensPod hline, hline, hclose]

end Context

/-- A whole block of documentation is read in silence: the context that it is left with is the one
that it was entered with. -/
theorem Context.IsOpen.silent_pod {extent : BodyExtent} {c : Context} {first last : List Char}
    {body rest : List (List Char)} (h : c.IsOpen) (hopens : opensPod first = true)
    (hfirst : closesPod first = false) (hbody : ∀ line ∈ body, closesPod line = false)
    (hlast : closesPod last = true) (hrest : c.ReadsSilently extent rest) :
    c.ReadsSilently extent (first :: (body ++ last :: rest)) := by
  have henters := h.role_opens hopens hfirst
  have hnext : c.next extent first = { c with inPod := true } := by simp only [Context.next, henters]
  have hinside : ({ c with inPod := true } : Context).ReadsSilently extent body :=
    Context.silent_of_inPod h.afterEnd rfl hbody
  have hleaves : ({ c with inPod := true } : Context).role last = .leavesPod := by
    simp [Context.role, h.afterEnd, hlast]
  have hback : ({ c with inPod := true } : Context).next extent last = c := by
    simp only [Context.next, hleaves]
    rw [← h.inPod]
  refine ⟨?_, fun number f hf => ?_⟩
  · show (c.next extent first).after extent (body ++ last :: rest) = c
    rw [hnext, Context.after_append, hinside.1]
    show (Context.next extent _ last).after extent rest = c
    rw [hback, hrest.1]
  · rw [Context.run, hnext, Context.run_append, hinside.1, Context.run, hback] at hf
    rcases List.mem_cons.mp hf with rfl | hf
    · exact Context.findings_silent (by simp [henters]) (by simp [henters]) number
    rcases List.mem_append.mp hf with hf | hf
    · exact hinside.2 _ f hf
    rcases List.mem_cons.mp hf with rfl | hf
    · exact Context.findings_silent (by simp [hleaves]) (by simp [hleaves]) _
    · exact hrest.2 _ f hf

/-- An aside is read in silence wherever code may stand. -/
theorem readsSilently_aside {extent : BodyExtent} {c : Context} {block : List (List Char)}
    (h : Aside block) (hc : c.IsOpen) : c.ReadsSilently extent block := by
  induction h with
  | nil => exact ⟨rfl, by simp [Context.run]⟩
  | skipped hline _ ih => exact Context.readsSilently_cons (hc.role_skipped hline) ih
  | stray hline _ ih => exact Context.readsSilently_cons (hc.role_stray hline) ih
  | pod hopens hfirst hbody hlast _ ih => exact hc.silent_pod hopens hfirst hbody hlast ih

/-! ### Lines further down -/

namespace Context

theorem findings_later (extent : BodyExtent) (c : Context) (number k : Int) (line : List Char) :
    c.findings extent (number + k) line = (c.findings extent number line).later k := by
  unfold findings
  cases c.role line with
  | code =>
    dsimp only
    split_ifs <;> rfl
  | _ => rfl

theorem run_later (extent : BodyExtent) (c : Context) (number k : Int) (lines : List (List Char)) :
    c.run extent (number + k) lines = (c.run extent number lines).map (Findings.later k) := by
  induction lines generalizing c number with
  | nil => rfl
  | cons line rest ih => rw [run, run, List.map_cons, findings_later, add_right_comm, ih]

/-- What two parts of a file tell, with lines between them that are read in silence. -/
theorem run_insert {extent : BodyExtent} {c : Context} {pre block : List (List Char)}
    (hblock : (c.after extent pre).ReadsSilently extent block) (number : Int)
    (post : List (List Char)) :
    ∃ silent, (∀ f ∈ silent, Findings.IsSilent f) ∧ c.run extent number (pre ++ block ++ post) =
      c.run extent number pre ++ silent ++
        ((c.after extent pre).run extent (number + pre.length) post).map
          (Findings.later block.length) := by
  refine ⟨_, hblock.2 (number + pre.length), ?_⟩
  rw [run_append, run_append, after_append, hblock.1, ← run_later, List.length_append,
    Nat.cast_add, add_assoc]

/-- The names that the lines declare. -/
def declaredNames (extent : BodyExtent) (c : Context) (lines : List (List Char)) : List String :=
  ((c.run extent 1 lines).filterMap Findings.definition).map Definition.name

end Context

/-! ### Definitions further down -/

namespace Tally

/-- The last declaration of a name counts. -/
theorem foldl_settle_declared {ds : List Definition} (h : ∀ d ∈ ds, d.implicit = false)
    (old : Option Definition) : ds.foldl settle old = ds.getLast?.or old := by
  induction ds using List.reverseRecOn with
  | nil => rfl
  | append_singleton ds d _ =>
    have hd : d.implicit = false := h d (List.mem_append_right _ (List.mem_singleton.mpr rfl))
    rw [List.foldl_concat, settle, hd, List.getLast?_concat]
    rfl

/-- Moving the last declarations down moves what they have settled, and nothing else. -/
theorem find?_enterDefinitions_later (m : SortedMap Site Definition) (above below : List Definition)
    (hbelow : ∀ d ∈ below, d.implicit = false) (k : Int) (site : Site) :
    (enterDefinitions m (above ++ below.map (·.later k))).find? site =
      ((enterDefinitions m (above ++ below)).find? site).map fun d =>
        if site ∈ below.map Definition.site then d.later k else d := by
  have hfilter : (below.map (·.later k)).filter (fun d => d.site = site) =
      (below.filter (fun d => d.site = site)).map (·.later k) := List.filter_map ..
  have hdeclared : ∀ d ∈ below.filter (fun d => d.site = site), d.implicit = false :=
    fun d hd => hbelow d (List.mem_filter.mp hd).1
  have hmoved : ∀ d ∈ (below.filter (fun d => d.site = site)).map (·.later k), d.implicit = false := by
    intro d hd
    obtain ⟨e, he, rfl⟩ := List.mem_map.mp hd
    exact hdeclared e he
  rw [find?_enterDefinitions, find?_enterDefinitions, List.filter_append, List.filter_append,
    List.foldl_append, List.foldl_append, hfilter, foldl_settle_declared hdeclared,
    foldl_settle_declared hmoved, List.getLast?_map]
  cases hlast : (below.filter (fun d => d.site = site)).getLast? with
  | none =>
    have hnot : site ∉ below.map Definition.site := by
      rintro hsite
      obtain ⟨d, hd, hdsite⟩ := List.mem_map.mp hsite
      have hmem : d ∈ below.filter (fun d => d.site = site) :=
        List.mem_filter.mpr ⟨hd, decide_eq_true hdsite⟩
      rw [List.getLast?_eq_none_iff.mp hlast] at hmem
      cases hmem
    simp [hnot]
  | some d =>
    have hmem := List.mem_filter.mp (List.mem_of_getLast? hlast)
    have hsite : site ∈ below.map Definition.site :=
      List.mem_map.mpr ⟨d, hmem.1, of_decide_eq_true hmem.2⟩
    simp [hsite]

end Tally

/-! ### Files with asides -/

namespace Context

variable {extent : BodyExtent} {c : Context} {lines : List (List Char)}

theorem after_file (extent : BodyExtent) (c : Context) (lines : List (List Char)) :
    (c.after extent lines).file = c.file := by
  induction lines generalizing c with
  | nil => rfl
  | cons line rest ih => exact (ih _).trans (next_scope extent c line).1

/-- Lines hold no implicit definitions. -/
theorem run_declared {number : Int} {d : Definition}
    (h : d ∈ (c.run extent number lines).filterMap Findings.definition) : d.implicit = false := by
  induction lines generalizing c number with
  | nil => cases h
  | cons line rest ih =>
    obtain ⟨f, hf, hd⟩ := List.mem_filterMap.mp h
    rcases List.mem_cons.mp hf with rfl | hf
    · exact ((findings_definition ..).mp hd).2.2.2
    · exact ih (List.mem_filterMap.mpr ⟨f, hf, hd⟩)

theorem filterMap_later (k : Int) (fs : List Findings) :
    (fs.map (Findings.later k)).filterMap Findings.definition =
      (fs.filterMap Findings.definition).map (·.later k) := by
  rw [List.filterMap_map, List.map_filterMap]
  rfl

/-- Where the lines define something: in the file, under the names that they declare. -/
theorem mem_sites_iff (extent : BodyExtent) (c : Context) (number : Int) (lines : List (List Char))
    (site : Site) :
    site ∈ ((c.run extent number lines).filterMap Findings.definition).map Definition.site ↔
      site.file = c.file ∧ site.name ∈ c.declaredNames extent lines := by
  have hnumber : number = 1 + (number - 1) := by omega
  rw [hnumber, run_later, filterMap_later, List.map_map, declaredNames]
  simp only [List.mem_map]
  constructor
  · rintro ⟨d, hd, rfl⟩
    obtain ⟨f, hf, hfd⟩ := List.mem_filterMap.mp hd
    exact ⟨(run_definition hf hfd).1, d, hd, rfl⟩
  · rintro ⟨hfile, d, hd, hname⟩
    obtain ⟨f, hf, hfd⟩ := List.mem_filterMap.mp hd
    refine ⟨d, hd, ?_⟩
    show Site.mk d.file d.name = site
    rw [(run_definition hf hfd).1, hname, ← hfile]

end Context

/-- The context that the first lines of a file lead to. -/
def Settings.contextAfter (s : Settings) (path : String) (lines : List (List Char)) : Context :=
  Context.after s.extent { file := s.identity path } (lines.map chomp)

section Insertion
variable {s : Settings} {path : String} {pre block : List (List Char)}

/-- What lines tell after which others are read in silence. -/
theorem findings_insert
    (hblock : (s.contextAfter path pre).ReadsSilently s.extent (block.map chomp))
    (post : List (List Char)) :
    ∃ silent, (∀ f ∈ silent, Findings.IsSilent f) ∧
      (Source.mk path (pre ++ block ++ post)).findings s = (Source.mk path pre).findings s ++ silent ++
        ((s.contextAfter path pre).run s.extent (1 + pre.length) (post.map chomp)).map
          (Findings.later block.length) := by
  obtain ⟨silent, hsilent, hrun⟩ := Context.run_insert hblock 1 (post.map chomp)
  rw [List.length_map, List.length_map] at hrun
  refine ⟨silent, hsilent, ?_⟩
  rw [Source.findings, List.map_append, List.map_append]
  exact hrun

theorem findings_append (s : Settings) (path : String) (pre post : List (List Char)) :
    (Source.mk path (pre ++ post)).findings s = (Source.mk path pre).findings s ++
      (s.contextAfter path pre).run s.extent (1 + pre.length) (post.map chomp) := by
  rw [Source.findings, List.map_append, Context.run_append, List.length_map]
  rfl

/-- An end marker and all after it are read in silence. -/
theorem run_marker {marker : List Char} {c : Context} (h : c.IsOpen) (hmarker : marksEnd marker = true)
    (extent : BodyExtent) (number : Int) (rest : List (List Char)) :
    ∀ f ∈ c.run extent number (marker :: rest), f.IsSilent := by
  have hrole : c.role marker = .endsCode := by simp [Context.role, h.inPod, h.afterEnd, hmarker]
  have hnext : (c.next extent marker).afterEnd = true := by simp only [Context.next, hrole]
  intro f hf
  rcases List.mem_cons.mp hf with rfl | hf
  · exact Context.findings_silent (by simp [hrole]) (by simp [hrole]) number
  · exact (Context.silent_of_afterEnd hnext rest).2 _ f hf

/-- Where the rest of a file is silent, it leaves nothing. -/
theorem scanLines_append_silent (t : Tally) {post : List (List Char)}
    (hpost : ∀ f ∈ (s.contextAfter path pre).run s.extent (1 + pre.length) (post.map chomp),
      f.IsSilent) :
    t.scanLines s path (pre ++ post) = t.scanLines s path pre := by
  have hdefinitions : (Source.mk path (pre ++ post)).definitions s =
      (Source.mk path pre).definitions s := by
    rw [Source.definitions, findings_append, List.filterMap_append, filterMap_silent hpost,
      List.append_nil]
    rfl
  have hcalls : (Source.mk path (pre ++ post)).calls s = (Source.mk path pre).calls s := by
    rw [Source.calls, findings_append, List.flatMap_append, flatMap_silent hpost, List.append_nil]
    rfl
  rw [Tally.scanLines_eq t s ⟨path, pre ++ post⟩, hdefinitions, hcalls, Tally.scanLines_eq t s ⟨path, pre⟩]
  rfl

theorem calls_insert (hblock : (s.contextAfter path pre).ReadsSilently s.extent (block.map chomp))
    (post : List (List Char)) :
    (Source.mk path (pre ++ block ++ post)).calls s = (Source.mk path (pre ++ post)).calls s := by
  obtain ⟨silent, hsilent, hfindings⟩ := findings_insert hblock post
  rw [Source.calls, Source.calls, hfindings, findings_append, List.flatMap_append,
    List.flatMap_append, List.flatMap_append, flatMap_silent hsilent, List.append_nil, List.flatMap_map]
  rfl

/-- The declarations above the lines read in silence stay, those below move down. -/
theorem definitions_insert
    (hblock : (s.contextAfter path pre).ReadsSilently s.extent (block.map chomp))
    (post : List (List Char)) :
    let below := ((s.contextAfter path pre).run s.extent (1 + pre.length)
      (post.map chomp)).filterMap Findings.definition
    (Source.mk path (pre ++ post)).definitions s = (Source.mk path pre).definitions s ++ below ∧
      (Source.mk path (pre ++ block ++ post)).definitions s =
        (Source.mk path pre).definitions s ++ below.map (·.later block.length) := by
  obtain ⟨silent, hsilent, hfindings⟩ := findings_insert hblock post
  constructor
  · rw [Source.definitions, findings_append, List.filterMap_append]
    rfl
  · rw [Source.definitions, hfindings, List.filterMap_append, List.filterMap_append,
      filterMap_silent hsilent, List.append_nil, Context.filterMap_later]
    rfl

end Insertion

/-- **Text beside the code is transparent.** An aside between two parts of a file, where code may stand,
leaves the same files and calls. It leaves the same definitions, those that are last declared below it
further down by its length. And an end marker, with whatever comes after it, leaves nothing at all. -/
theorem scanLines_aside (t : Tally) (s : Settings) (path : String) {pre block : List (List Char)}
    (post : List (List Char)) (hpre : (s.contextAfter path pre).IsOpen)
    (hblock : Aside (block.map chomp)) :
    let below := (s.contextAfter path pre).declaredNames s.extent (post.map chomp)
    let plain := t.scanLines s path (pre ++ post)
    let filled := t.scanLines s path (pre ++ block ++ post)
    filled.files = plain.files ∧ filled.calls = plain.calls ∧
      (∀ site, filled.definitions.find? site = (plain.definitions.find? site).map fun d =>
        if site.file = s.identity path ∧ site.name ∈ below then d.later block.length else d) ∧
      ∀ marker rest, marksEnd (chomp marker) = true →
        t.scanLines s path (pre ++ [marker] ++ rest) = t.scanLines s path pre := by
  intro below plain filled
  have hsilent : (s.contextAfter path pre).ReadsSilently s.extent (block.map chomp) :=
    readsSilently_aside hblock hpre
  have hplain : plain = _ := Tally.scanLines_eq t s ⟨path, pre ++ post⟩
  have hfilled : filled = _ := Tally.scanLines_eq t s ⟨path, pre ++ block ++ post⟩
  refine ⟨?_, ?_, fun site => ?_, fun marker rest hmarker => ?_⟩
  · rw [hfilled, hplain]
    rfl
  · rw [hfilled, hplain, calls_insert hsilent]
  · obtain ⟨habove, hbelow⟩ := definitions_insert hsilent post
    have hsites := Context.mem_sites_iff s.extent (s.contextAfter path pre) (1 + pre.length)
      (post.map chomp) site
    rw [show (s.contextAfter path pre).file = s.identity path from Context.after_file ..] at hsites
    rw [hfilled, hplain, habove, hbelow,
      Tally.find?_enterDefinitions_later _ _ _ (fun d hd => Context.run_declared hd)]
    exact congrArg (Option.map · _) (funext fun d => if_congr hsites rfl rfl)
  · rw [List.append_assoc]
    exact scanLines_append_silent t (run_marker hpre hmarker s.extent _ (rest.map chomp))

/-- An aside that looks like the end of the file and like code, between two declarations. -/
theorem scanLines_aside_podWithCode :
    let pre := ["sub above \x7b".toList]
    let block := ["".toList, "  # note".toList, "=cut".toList, "=pod".toList, "__END__".toList,
      "sub fake \x7b fake();".toList, "\x7d".toList, "=cut".toList]
    let post := ["callee(1);".toList, "sub below".toList]
    let plain := ({} : Tally).scanLines {} "a.pl" (pre ++ post)
    let filled := ({} : Tally).scanLines {} "a.pl" (pre ++ block ++ post)
    (Settings.contextAfter {} "a.pl" pre).IsOpen ∧ Aside (block.map chomp) ∧
      filled.calls = plain.calls ∧
      filled.definitions.find? ⟨"a.pl", "below"⟩ = some ⟨"below", "a.pl", 11, false⟩ ∧
      ({} : Tally).scanLines {} "a.pl" (pre ++ ["__DATA__".toList] ++ post) =
        ({} : Tally).scanLines {} "a.pl" pre := by
  intro pre block post plain filled
  have hpre : (Settings.contextAfter {} "a.pl" pre).IsOpen := ⟨by decide +kernel, by decide +kernel⟩
  have hblock : Aside (block.map chomp) :=
    .skipped (by decide +kernel) (.skipped (by decide +kernel) (.stray (by decide +kernel)
      (@Aside.pod _ _ ["__END__".toList, "sub fake \x7b fake();".toList, "\x7d".toList] _
        (by decide +kernel) (by decide +kernel) (by decide +kernel) (by decide +kernel) .nil)))
  obtain ⟨-, hcalls, hdefinitions, hmarker⟩ := scanLines_aside {} {} "a.pl" post hpre hblock
  refine ⟨hpre, hblock, hcalls, ?_, hmarker _ _ (by decide +kernel)⟩
  rw [hdefinitions]
  decide +kernel

end Scan

end PerlCalls

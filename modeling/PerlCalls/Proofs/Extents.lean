import Mathlib
import PerlCalls.Proofs.CodeLines

/-! What the choice of a body extent changes.

A line's role depends on where it stands, in documentation, past the end of the code or neither, and
not on the subroutine around it. Two readings of the same lines, one for each extent, are therefore in
step all the way (`after_inStep`): they declare the same names and see the same lines as code, which are
those that look like code (`codeLines_eq`). They may differ in who calls. They also differ in what is called on closing lines in the first column,
which end a body for one extent and are code like any other for the other (`calledNames_columnZero`,
`calledNames_braceDepth`). Once callers are added up, nothing else is left (`extents_agree`). -/
namespace PerlCalls

/-- Adding to the amount under a key adds to the sum over a choice of keys, if it is among them. -/
theorem SortedMap.sum_filter_alter {κ : Type} [Ord κ] [Std.TransOrd κ] [Std.LawfulEqOrd κ]
    (m : SortedMap κ Int) (p : κ → Bool) (k : κ) (w : Int) :
    (((m.alter k (fun old => old.getD 0 + w)).entries.filter (fun e => p e.1)).map Prod.snd).sum =
      ((m.entries.filter (fun e => p e.1)).map Prod.snd).sum + if p k then w else 0 := by
  show (((alterList k _ m.entries).filter _).map Prod.snd).sum = _
  induction m.entries with
  | nil => cases hk : p k <;> simp [alterList, hk]
  | cons e rest ih =>
    simp only [alterList]
    cases hcompare : compare k e.1 with
    | lt => cases hk : p k <;> simp [List.filter_cons, hk, add_comm]
    | eq =>
      obtain rfl : k = e.1 := Std.LawfulEqCmp.eq_of_compare hcompare
      cases hk : p e.1 <;> simp [hk, add_right_comm]
    | gt =>
      rw [List.filter_cons, List.filter_cons]
      cases p e.1 <;> simp [ih, add_assoc]

namespace Scan

open PerlCalls.Graph PerlCalls.Perl
open Text

namespace Context

/-! ### Two readings in step -/

variable {c c' : Context}

theorem InStep.role (h : c.InStep c') (line : List Char) : c.role line = c'.role line := by
  simp only [Context.role, h.inPod, h.afterEnd]

theorem InStep.trans {c'' : Context} (h : c.InStep c') (h' : c'.InStep c'') : c.InStep c'' :=
  ⟨h.file.trans h'.file, h.inPod.trans h'.inPod, h.afterEnd.trans h'.afterEnd⟩

theorem InStep.symm (h : c.InStep c') : c'.InStep c :=
  ⟨h.file.symm, h.inPod.symm, h.afterEnd.symm⟩

/-- One line keeps the readings in step. -/
theorem InStep.next (h : c.InStep c') (extent extent' : BodyExtent) (line : List Char) :
    (c.next extent line).InStep (c'.next extent' line) := by
  refine (next_place extent c line).symm.trans (InStep.trans ?_ (next_place extent' c' line))
  rw [h.role]
  cases c'.role line with
  | entersPod => exact ⟨h.file, rfl, h.afterEnd⟩
  | leavesPod => exact ⟨h.file, rfl, h.afterEnd⟩
  | endsCode => exact ⟨h.file, h.inPod, rfl⟩
  | _ => exact h

/-- So do all lines. -/
theorem after_inStep (h : c.InStep c') (extent extent' : BodyExtent) (lines : List (List Char)) :
    (c.after extent lines).InStep (c'.after extent' lines) := by
  induction lines generalizing c c' with
  | nil => exact h
  | cons line rest ih => exact ih (h.next extent extent' line)

/-- Readings in step declare the same. -/
theorem InStep.definitions (h : c.InStep c') (extent extent' : BodyExtent) (number : Int)
    (lines : List (List Char)) :
    (c.run extent number lines).map Findings.definition =
      (c'.run extent' number lines).map Findings.definition := by
  induction lines generalizing c c' number with
  | nil => rfl
  | cons line rest ih =>
    have hline : (c.findings extent number line).definition =
        (c'.findings extent' number line).definition :=
      Option.ext fun d => by rw [findings_definition, findings_definition, h.role, h.file]
    rw [run, run, List.map_cons, List.map_cons, hline, ih (h.next extent extent' line)]

/-! ### Lines of code -/

/-- The lines that are read as code and may call. -/
def codeLines (extent : BodyExtent) (c : Context) : List (List Char) → List (List Char)
  | [] => []
  | line :: rest =>
    let later := (c.next extent line).codeLines extent rest
    if c.role line = .code then line :: later else later

theorem role_ne_code {line : List Char} (h : ¬(c.IsOpen ∧ IsCode line)) : c.role line ≠ .code := by
  intro hrole
  rw [role] at hrole
  split_ifs at hrole with hend hpod hcloses hmarks hopens hcloses hskipped
  exact h ⟨⟨by simpa using hpod, by simpa using hend⟩, by simpa using hmarks, by simpa using hopens,
    by simpa using hskipped⟩

/-- Whatever the extent, these are the lines of code that declare nothing. -/
theorem codeLines_eq (extent : BodyExtent) (c : Context) (lines : List (List Char)) :
    c.codeLines extent lines = (c.codeAhead lines).filter (fun line => (declaration line).isNone) := by
  induction lines generalizing c with
  | nil => rw [codeAhead_nil]; rfl
  | cons line rest ih =>
    rw [codeLines, ih]
    by_cases hcode : c.IsOpen ∧ IsCode line
    · obtain ⟨hopen, hline⟩ := hcode
      rw [hopen.codeAhead_cons hline extent, hopen.role_isCode hline]
      cases hdecl : declaration line <;> simp [hdecl]
    · rw [if_neg (role_ne_code hcode), (skips_of_not_isCode hcode extent rest).2.2]

/-- All names that the lines call, whoever calls them. -/
def calledNames (extent : BodyExtent) (c : Context) (number : Int) (lines : List (List Char)) :
    List String :=
  (c.run extent number lines).flatMap Findings.calls

theorem calledNames_braceDepth (c : Context) (number : Int) (lines : List (List Char)) :
    c.calledNames .braceDepth number lines = (c.codeLines .braceDepth lines).flatMap calls := by
  induction lines generalizing c number with
  | nil => rfl
  | cons line rest ih =>
    rw [calledNames, run, List.flatMap_cons, ← calledNames, ih, findings_calls, codeLines]
    by_cases hcode : c.role line = .code <;> simp [hcode]

/-- Closing lines in the first column call nothing if they are what ends a body. -/
theorem calledNames_columnZero (c : Context) (number : Int) (lines : List (List Char)) :
    c.calledNames .columnZero number lines =
      ((c.codeLines .columnZero lines).filter (fun line => !closesBody line)).flatMap calls := by
  induction lines generalizing c number with
  | nil => rfl
  | cons line rest ih =>
    rw [calledNames, run, List.flatMap_cons, ← calledNames, ih, findings_calls, codeLines]
    by_cases hcode : c.role line = .code <;> cases hclose : closesBody line <;> simp [hcode, hclose]

theorem count_calledNames (c : Context) (number : Int) (lines : List (List Char)) (callee : String) :
    (c.calledNames .braceDepth number lines).count callee =
      (c.calledNames .columnZero number lines).count callee +
        (((c.codeLines .columnZero lines).filter closesBody).flatMap calls).count callee := by
  have hperm : ((c.codeLines .columnZero lines).filter (fun line => !closesBody line) ++
      (c.codeLines .columnZero lines).filter closesBody).Perm (c.codeLines .columnZero lines) :=
    List.perm_append_comm.trans (List.filter_append_perm closesBody _)
  have hsame : c.codeLines .braceDepth lines = c.codeLines .columnZero lines := by
    rw [codeLines_eq, codeLines_eq]
  rw [calledNames_braceDepth, calledNames_columnZero, hsame, ← List.count_append, ← List.flatMap_append,
    (hperm.flatMap_right calls).count_eq]

end Context

/-! ### Tallies -/

namespace Tally

/-- How often a name is called, whoever calls it. -/
def callsOf (t : Tally) (callee : String) : Int :=
  ((t.callList.filter (fun c => c.callee == callee)).map Call.count).sum

theorem callsOf_eq (t : Tally) (callee : String) :
    t.callsOf callee =
      ((t.calls.entries.filter (fun e => e.1.callee == callee)).map Prod.snd).sum := by
  rw [callsOf, callList, List.filter_map, List.map_map]
  rfl

theorem sum_enterCalls (m : SortedMap CallKey Int) (keys : List CallKey) (callee : String) :
    (((enterCalls m keys).entries.filter (fun e => e.1.callee == callee)).map Prod.snd).sum =
      ((m.entries.filter (fun e => e.1.callee == callee)).map Prod.snd).sum +
        ((keys.map CallKey.callee).count callee : Int) := by
  induction keys generalizing m with
  | nil => simp [enterCalls]
  | cons k keys ih =>
    rw [enterCalls, List.foldl_cons, ← enterCalls, ih,
      SortedMap.sum_filter_alter m (fun k => k.callee == callee), List.map_cons, List.count_cons]
    push_cast
    exact add_assoc _ _ _ |>.trans (congrArg _ (add_comm _ _))

/-- Scanning a source adds its calls of the name. -/
theorem callsOf_scanLines (t : Tally) (s : Settings) (path : String) (lines : List (List Char))
    (callee : String) :
    (t.scanLines s path lines).callsOf callee = t.callsOf callee +
      (({ file := s.identity path } : Context).calledNames s.extent 1 (lines.map chomp)).count callee := by
  have hnames : ((Source.mk path lines).calls s).map CallKey.callee =
      ({ file := s.identity path } : Context).calledNames s.extent 1 (lines.map chomp) := by
    rw [Source.calls, List.map_flatMap, Context.calledNames]
    simp only [List.map_map]
    exact List.flatMap_congr fun f _ => List.map_id f.calls
  rw [callsOf_eq, scanLines_eq t s ⟨path, lines⟩, sum_enterCalls, ← callsOf_eq, hnames]

end Tally

/-- **The two extents find the same, but for who calls and for closing lines.** Scanned with either,
the lines of a file leave the same definitions, are documentation or past the end at the same places, and
those that may call are the same: the lines of code that declare nothing. Counted over all callers, a name is
called as often, except that balanced braces also count its calls on those of these lines that have a closing
brace in the first column. -/
theorem extents_agree (t : Tally) (stripPaths : Bool) (path : String) (lines : List (List Char)) :
    let columnZero : Settings := ⟨stripPaths, .columnZero⟩
    let braceDepth : Settings := ⟨stripPaths, .braceDepth⟩
    let start : Context := { file := columnZero.identity path }
    let code := (codeOf (lines.map chomp)).filter (fun line => (declaration line).isNone)
    (t.scanLines columnZero path lines).definitions = (t.scanLines braceDepth path lines).definitions ∧
      (∀ n, let before := (lines.take n).map chomp
        (start.after .columnZero before).inPod = (start.after .braceDepth before).inPod ∧
          (start.after .columnZero before).afterEnd = (start.after .braceDepth before).afterEnd) ∧
      (∀ extent, start.codeLines extent (lines.map chomp) = code) ∧
      ∀ callee, (t.scanLines braceDepth path lines).callsOf callee =
        (t.scanLines columnZero path lines).callsOf callee +
          ((code.filter closesBody).flatMap calls).count callee := by
  intro columnZero braceDepth start code
  have hstart : start.InStep start := ⟨rfl, rfl, rfl⟩
  have hcode : ∀ extent, start.codeLines extent (lines.map chomp) = code :=
    fun extent => Context.codeLines_eq extent start (lines.map chomp)
  have hdefinitions : (Source.mk path lines).definitions columnZero =
      (Source.mk path lines).definitions braceDepth := by
    have hmap := hstart.definitions .columnZero .braceDepth 1 (lines.map chomp)
    have hfilterMap := congrArg (List.filterMap id) hmap
    rw [List.filterMap_map, List.filterMap_map] at hfilterMap
    exact congrArg (List.cons _) hfilterMap
  refine ⟨?_, fun n => ?_, hcode, fun callee => ?_⟩
  · rw [Tally.scanLines_eq t columnZero ⟨path, lines⟩, Tally.scanLines_eq t braceDepth ⟨path, lines⟩,
      hdefinitions]
  · have hstep := Context.after_inStep hstart .columnZero .braceDepth ((lines.take n).map chomp)
    exact ⟨hstep.inPod, hstep.afterEnd⟩
  · have hcount := start.count_calledNames 1 (lines.map chomp) callee
    have hidentity : braceDepth.identity path = columnZero.identity path := rfl
    rw [Tally.callsOf_scanLines, Tally.callsOf_scanLines, hidentity, hcount, hcode]
    push_cast
    exact (add_assoc _ _ _).symm

end Scan

end PerlCalls

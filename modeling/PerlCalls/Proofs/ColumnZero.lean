import Mathlib
import PerlCalls.Proofs.CodeLines

/-! Who calls, when closing braces in the first column end a body.

The subroutine around a line is settled by the last boundary before it: a line of code that declares a
subroutine or has a closing brace in the first column (`enclosing`). Reading line after line keeps to
that (`subroutine_after`), so the calls of a file are those of its code off the boundaries, each made by
what encloses it (`madeCalls_columnZero`). Over all files, `callList_columnZero` counts them. -/
namespace PerlCalls

namespace Perl

open PerlCalls.Graph

/-- The line declares a subroutine, or has a closing brace in the first column. -/
def isBoundary (line : List Char) : Bool := (declaration line).isSome || closesBody line

/-- The subroutine that the last boundary of some code declares. It is the top level if that boundary is
a closing brace, or if there is none. -/
def enclosing (code : List (List Char)) : String :=
  ((code.filter isBoundary).getLast?.bind declaration).getD mainScope

/-- The calls on each line that is no boundary, made by what encloses the line. -/
def enclosedCalls (code : List (List Char)) : List (String × String) :=
  code.zipIdx.flatMap fun ⟨line, k⟩ =>
    if isBoundary line then [] else (calls line).map (Prod.mk (enclosing (code.take k)))

theorem enclosing_concat (code : List (List Char)) (line : List Char) :
    enclosing (code ++ [line]) =
      if isBoundary line then (declaration line).getD mainScope else enclosing code := by
  rw [enclosing, List.filter_append]
  cases hline : isBoundary line with
  | true => simp [hline]
  | false => simp [hline, enclosing]

theorem enclosedCalls_concat (code : List (List Char)) (line : List Char) :
    enclosedCalls (code ++ [line]) = enclosedCalls code ++
      if isBoundary line then [] else (calls line).map (Prod.mk (enclosing code)) := by
  have hbefore : ∀ p ∈ code.zipIdx, (code ++ [line]).take p.2 = code.take p.2 := by
    intro p hp
    exact List.take_append_of_le_length (List.snd_lt_of_mem_zipIdx hp).le
  rw [enclosedCalls, List.zipIdx_append, List.flatMap_append]
  congr 1
  · exact List.flatMap_congr fun ⟨l, k⟩ hp => by simp only [hbefore (l, k) hp]
  · simp

end Perl

namespace Scan

open PerlCalls.Graph PerlCalls.Perl
open Text

/-! ### Line by line -/

namespace Context

variable {c : Context} {line : List Char} {code : List (List Char)}

/-- A boundary opens what it declares or nothing; any other line leaves open what is. -/
theorem IsOpen.next_columnZero (h : c.IsOpen) (hline : IsCode line) :
    (c.next .columnZero line).subroutine =
      if isBoundary line then (declaration line).getD mainScope else c.subroutine := by
  rw [Context.next, h.role_isCode hline, isBoundary]
  cases declaration line with
  | some name => rfl
  | none => cases closesBody line <;> rfl

theorem IsOpen.calls_columnZero (h : c.IsOpen) (hline : IsCode line) :
    (c.findings .columnZero 0 line).calls = if isBoundary line then [] else calls line := by
  rw [findings_calls, h.role_isCode hline, isBoundary]
  cases declaration line with
  | some name => simp
  | none => cases closesBody line <;> simp

/-- The subroutine that is open after some code of a file is the one that encloses what follows. -/
theorem subroutine_after (h : c.IsOpen) (hmain : c.subroutine = mainScope)
    (hcode : ∀ line ∈ code, IsCode line) :
    (c.after .columnZero code).subroutine = enclosing code := by
  induction code using List.reverseRecOn with
  | nil => exact hmain
  | append_singleton code line ih =>
    have hbefore : ∀ l ∈ code, IsCode l := fun l hl => hcode l (List.mem_append_left _ hl)
    have hline : IsCode line := hcode line (List.mem_append_right _ (List.mem_singleton.mpr rfl))
    rw [after_append, enclosing_concat, ← ih hbefore]
    exact (h.after hbefore .columnZero).next_columnZero hline

theorem madeCalls_columnZero (h : c.IsOpen) (hmain : c.subroutine = mainScope)
    (hcode : ∀ line ∈ code, IsCode line) : c.madeCalls .columnZero code = enclosedCalls code := by
  induction code using List.reverseRecOn with
  | nil => rfl
  | append_singleton code line ih =>
    have hbefore : ∀ l ∈ code, IsCode l := fun l hl => hcode l (List.mem_append_left _ hl)
    have hline : IsCode line := hcode line (List.mem_append_right _ (List.mem_singleton.mpr rfl))
    rw [madeCalls_append, ih hbefore, enclosedCalls_concat, madeCalls, madeCalls, List.append_nil,
      subroutine_after h hmain hbefore, (h.after hbefore .columnZero).calls_columnZero hline]
    split <;> rfl

end Context

/-! ### Counts -/

namespace Tally

/-- Calls are counted as often as they are entered. -/
theorem find?_enterCalls_eq_some_iff (keys : List CallKey) (k : CallKey) (n : Int) :
    (enterCalls SortedMap.empty keys).find? k = some n ↔ 0 < n ∧ n = keys.count k := by
  have hsum : ((keys.filter (fun j => j = k)).map fun _ => (1 : Int)).sum = keys.count k := by
    simp [List.count_eq_length_filter, beq_eq_decide]
  rw [find?_enterCalls, sumOf?]
  split
  · rename_i hsome
    obtain ⟨j, hj, rfl⟩ := hsome
    have hpos : 0 < keys.count j := List.count_pos_iff.mpr hj
    rw [hsum, Option.some.injEq]
    omega
  · rename_i hnone
    have hzero : keys.count k = 0 := List.count_eq_zero.mpr fun hk => hnone ⟨k, hk, rfl⟩
    simp only [reduceCtorEq, false_iff]
    omega

theorem mem_callList_iff (t : Tally) (call : Call) :
    call ∈ t.callList ↔ t.calls.find? ⟨call.caller, call.file, call.callee⟩ = some call.count := by
  rw [callList, List.mem_map, ← SortedMap.mem_entries_iff]
  constructor
  · rintro ⟨e, he, rfl⟩
    exact he
  · exact fun h => ⟨_, h, rfl⟩

end Tally

/-- A file's calls are counted under the name by which it is known. -/
theorem Source.count_calls (s : Settings) (sources : List Source) (caller file callee : String) :
    (sources.flatMap (Source.calls s)).count ⟨caller, file, callee⟩ =
      ((sources.filter fun source => source.identity s = file).flatMap fun source =>
        (source.start s).madeCalls s.extent source.code).count (caller, callee) := by
  induction sources with
  | nil => rfl
  | cons source rest ih =>
    rw [List.flatMap_cons, List.count_append, ih, List.filter_cons, calls_eq]
    by_cases hfile : source.identity s = file
    · have hinj : Function.Injective fun made : String × String =>
          (⟨made.1, source.identity s, made.2⟩ : CallKey) := by
        rintro ⟨a, b⟩ ⟨a', b'⟩ h
        cases h
        rfl
      have hown := List.count_map_of_injective ((source.start s).madeCalls s.extent source.code) _ hinj
        (caller, callee)
      subst hfile
      rw [if_pos (decide_eq_true rfl), List.flatMap_cons, List.count_append, hown]
    · have hother : (⟨caller, file, callee⟩ : CallKey) ∉ ((source.start s).madeCalls s.extent
          source.code).map fun made => ⟨made.1, source.identity s, made.2⟩ := by
        intro h
        obtain ⟨made, -, hkey⟩ := List.mem_map.mp h
        exact hfile (congrArg CallKey.file hkey)
      rw [if_neg (by simpa using hfile), List.count_eq_zero.mpr hother, Nat.zero_add]

/-- **A call is made by what the last boundary before it declares.** Where closing braces in the first
column end a body, the calls that are listed after any scans are those on the files' lines of code that
are no boundary, made by what encloses them, each with the number of times it occurs in files of that
name. -/
theorem callList_columnZero (stripPaths : Bool) (sources : List Source) (call : Call) :
    let s : Settings := ⟨stripPaths, .columnZero⟩
    let files := sources.filter fun source => source.identity s = call.file
    call ∈ (Tally.scanAll s sources).callList ↔ 0 < call.count ∧
      call.count = (files.flatMap fun source =>
        enclosedCalls (codeOf (source.lines.map chomp))).count (call.caller, call.callee) := by
  intro s files
  have hmade : ∀ source : Source, (source.start s).madeCalls s.extent source.code =
      enclosedCalls (codeOf (source.lines.map chomp)) := fun source =>
    Context.madeCalls_columnZero ⟨rfl, rfl⟩ rfl fun _ => isCode_of_mem_codeOf
  rw [Tally.mem_callList_iff, Tally.calls_scanAll, Tally.find?_enterCalls_eq_some_iff,
    Source.count_calls, List.flatMap_congr fun source _ => hmade source]

end Scan

end PerlCalls

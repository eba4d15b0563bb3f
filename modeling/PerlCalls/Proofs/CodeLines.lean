import Mathlib
import PerlCalls.Proofs.Asides

/-! Reading a file is reading its code.

`codeOf` picks the lines of a text that are code, by their looks alone: those that are neither blank nor
a comment, nor part of documentation, nor past the end marker. Reading a text in a context that is open
for code makes the same calls as reading its code (`IsOpen.madeCalls_codeOf`), and leaves the same subroutine
open (`atCode_after`). In an open context a line of code either declares a name or may call
(`IsOpen.role_isCode`), so a statement on who calls what in a file is one on a list of such lines
(`Source.calls_eq`). -/
namespace PerlCalls

namespace Perl

/-- The line is code, where code may stand. -/
structure IsCode (line : List Char) : Prop where
  notEnd : marksEnd line = false
  notPod : opensPod line = false
  notSkipped : isSkipped line = false

/-- The lines that are code. `inPod` tells whether documentation is open before the first one. -/
def codeFrom (inPod : Bool) : List (List Char) → List (List Char)
  | [] => []
  | line :: rest =>
    if inPod then codeFrom (!closesPod line) rest
    else if marksEnd line then []
    else if opensPod line then codeFrom (!closesPod line) rest
    else if isSkipped line then codeFrom false rest
    else line :: codeFrom false rest

/-- The lines of a text that are code. -/
def codeOf (lines : List (List Char)) : List (List Char) := codeFrom false lines

theorem isCode_of_mem_codeFrom {inPod : Bool} {lines : List (List Char)} {line : List Char}
    (h : line ∈ codeFrom inPod lines) : IsCode line := by
  induction lines generalizing inPod with
  | nil => cases h
  | cons first rest ih =>
    rw [codeFrom] at h
    split_ifs at h with hpod hend hopens hskipped
    · exact ih h
    · cases h
    · exact ih h
    · exact ih h
    · rcases List.mem_cons.mp h with rfl | h
      · exact ⟨by simpa using hend, by simpa using hopens, by simpa using hskipped⟩
      · exact ih h

theorem isCode_of_mem_codeOf {lines : List (List Char)} {line : List Char} (h : line ∈ codeOf lines) :
    IsCode line :=
  isCode_of_mem_codeFrom h

end Perl

namespace Scan

open PerlCalls.Graph PerlCalls.Perl
open Text

namespace Context

variable {extent : BodyExtent} {c : Context} {line : List Char} {lines : List (List Char)}

/-! ### One line -/

/-- The contexts stand at the same place of the same file, whatever subroutine each takes it for. -/
structure InStep (c c' : Context) : Prop where
  file : c.file = c'.file
  inPod : c.inPod = c'.inPod
  afterEnd : c.afterEnd = c'.afterEnd

theorem balance_place (c : Context) (delta : Int) : c.InStep (c.balance delta) := by
  unfold balance
  split_ifs
  · exact ⟨rfl, rfl, rfl⟩
  · dsimp only
    split_ifs <;> exact ⟨rfl, rfl, rfl⟩

/-- Where a line leads to is settled by its role. -/
theorem next_place (extent : BodyExtent) (c : Context) (line : List Char) :
    (match c.role line with
      | .entersPod => { c with inPod := true }
      | .leavesPod => { c with inPod := false }
      | .endsCode => { c with afterEnd := true }
      | _ => c).InStep (c.next extent line) := by
  unfold next
  cases c.role line with
  | declares name => cases extent <;> exact ⟨rfl, rfl, rfl⟩
  | code =>
    cases extent with
    | columnZero =>
      dsimp only
      split_ifs <;> exact ⟨rfl, rfl, rfl⟩
    | braceDepth => exact balance_place c (braceDelta line)
  | _ => exact ⟨rfl, rfl, rfl⟩

theorem findings_calls (extent : BodyExtent) (c : Context) (number : Int) (line : List Char) :
    (c.findings extent number line).calls =
      if c.role line = .code ∧ ¬(extent = .columnZero ∧ closesBody line = true) then calls line
      else [] := by
  unfold findings
  cases c.role line with
  | code => cases extent <;> cases hclose : closesBody line <;> simp
  | _ => simp

/-! ### Calls with their callers -/

/-- The calls that the lines make, each with its caller, in order. -/
def madeCalls (extent : BodyExtent) (c : Context) : List (List Char) → List (String × String)
  | [] => []
  | line :: rest =>
    (c.findings extent 0 line).calls.map (Prod.mk c.subroutine) ++
      (c.next extent line).madeCalls extent rest

theorem madeCalls_append (extent : BodyExtent) (c : Context) (a b : List (List Char)) :
    c.madeCalls extent (a ++ b) = c.madeCalls extent a ++ (c.after extent a).madeCalls extent b := by
  induction a generalizing c with
  | nil => rfl
  | cons line rest ih =>
    rw [List.cons_append, madeCalls, madeCalls, ih, List.append_assoc]
    rfl

/-- These are the calls that reading the lines tells. -/
theorem flatMap_run (extent : BodyExtent) (c : Context) (number : Int) (lines : List (List Char)) :
    ((c.run extent number lines).flatMap fun f => f.calls.map (Prod.mk f.caller)) =
      c.madeCalls extent lines := by
  induction lines generalizing c number with
  | nil => rfl
  | cons line rest ih =>
    rw [run, List.flatMap_cons, ih, findings_caller, findings_calls, madeCalls, findings_calls]

/-- They are entered for the file that is read. -/
theorem flatMap_run_keys (extent : BodyExtent) (c : Context) (number : Int) (lines : List (List Char))
    (file : String) :
    ((c.run extent number lines).flatMap fun f =>
      f.calls.map fun callee => (⟨f.caller, file, callee⟩ : CallKey)) =
      (c.madeCalls extent lines).map fun made => ⟨made.1, file, made.2⟩ := by
  rw [← flatMap_run extent c number, List.map_flatMap]
  simp only [List.map_map]
  rfl

/-! ### Contexts open for code -/

/-- The same subroutine, where code may stand. -/
def atCode (c : Context) : Context := { c with inPod := false, afterEnd := false }

theorem IsOpen.atCode (h : c.IsOpen) : c.atCode = c := by
  obtain ⟨hpod, hend⟩ := h
  cases c
  simp only at hpod hend
  subst hpod hend
  rfl

/-- The code among the lines that follow. -/
def codeAhead (c : Context) (lines : List (List Char)) : List (List Char) :=
  if c.afterEnd then [] else codeFrom c.inPod lines

theorem codeAhead_nil (c : Context) : c.codeAhead [] = [] := by
  unfold codeAhead
  split <;> rfl

/-- A line of code declares a name or may call. -/
theorem IsOpen.role_isCode (h : c.IsOpen) (hline : IsCode line) :
    c.role line = (declaration line).elim .code .declares := by
  simp only [role, h.inPod, h.afterEnd, hline.notEnd, hline.notPod, hline.notSkipped, Bool.false_eq_true,
    if_false]
  cases declaration line <;> rfl

theorem IsOpen.next (h : c.IsOpen) (hline : IsCode line) (extent : BodyExtent) :
    (c.next extent line).IsOpen := by
  have hplace : c.InStep (c.next extent line) := by
    have hplace := next_place extent c line
    rw [h.role_isCode hline] at hplace
    cases hdecl : declaration line with
    | none =>
      rw [hdecl] at hplace
      exact hplace
    | some name =>
      rw [hdecl] at hplace
      exact hplace
  exact ⟨hplace.inPod.symm.trans h.inPod, hplace.afterEnd.symm.trans h.afterEnd⟩

theorem IsOpen.after (h : c.IsOpen) (hlines : ∀ line ∈ lines, IsCode line) (extent : BodyExtent) :
    (c.after extent lines).IsOpen := by
  induction lines generalizing c with
  | nil => exact h
  | cons line rest ih =>
    exact ih (h.next (hlines line (List.mem_cons_self ..)) extent)
      fun l hl => hlines l (List.mem_cons_of_mem _ hl)

theorem IsOpen.codeAhead_cons (h : c.IsOpen) (hline : IsCode line) (extent : BodyExtent)
    (rest : List (List Char)) :
    c.codeAhead (line :: rest) = line :: (c.next extent line).codeAhead rest := by
  have hnext := h.next hline extent
  simp [codeAhead, codeFrom, h.inPod, h.afterEnd, hnext.inPod, hnext.afterEnd, hline.notEnd, hline.notPod,
    hline.notSkipped]

/-- Any other line makes no call, moves no body and is no code. -/
theorem skips_of_not_isCode (h : ¬(c.IsOpen ∧ IsCode line)) (extent : BodyExtent)
    (rest : List (List Char)) :
    (c.findings extent 0 line).calls = [] ∧ (c.next extent line).atCode = c.atCode ∧
      c.codeAhead (line :: rest) = (c.next extent line).codeAhead rest := by
  rw [findings_calls]
  cases hend : c.afterEnd with
  | true =>
    have hrole : c.role line = .silent := by rw [role, if_pos hend]
    simp [next, hrole, codeAhead, hend]
  | false =>
    cases hpod : c.inPod with
    | true =>
      cases hcloses : closesPod line <;>
        simp [next, role, codeAhead, codeFrom, hend, hpod, hcloses, Context.atCode]
    | false =>
      cases hmarks : marksEnd line with
      | true => simp [next, role, codeAhead, codeFrom, hend, hpod, hmarks, Context.atCode]
      | false =>
        cases hopens : opensPod line with
        | true =>
          cases hcloses : closesPod line <;>
            simp [next, role, codeAhead, codeFrom, hend, hpod, hmarks, hopens, hcloses, Context.atCode]
        | false =>
          cases hskipped : isSkipped line with
          | true => simp [next, role, codeAhead, codeFrom, hend, hpod, hmarks, hopens, hskipped]
          | false => exact absurd ⟨⟨hpod, hend⟩, hmarks, hopens, hskipped⟩ h

/-- What is open after the lines is open after their code. -/
theorem atCode_after (extent : BodyExtent) (c : Context) (lines : List (List Char)) :
    (c.after extent lines).atCode = c.atCode.after extent (c.codeAhead lines) := by
  induction lines generalizing c with
  | nil => rw [codeAhead_nil]; rfl
  | cons line rest ih =>
    show ((c.next extent line).after extent rest).atCode = _
    rw [ih]
    by_cases hcode : c.IsOpen ∧ IsCode line
    · obtain ⟨hopen, hline⟩ := hcode
      rw [hopen.codeAhead_cons hline extent, (hopen.next hline extent).atCode, hopen.atCode]
      rfl
    · obtain ⟨-, hsame, hcode⟩ := skips_of_not_isCode hcode extent rest
      rw [hsame, hcode]

/-- The lines make the calls that their code makes. -/
theorem madeCalls_codeAhead (extent : BodyExtent) (c : Context) (lines : List (List Char)) :
    c.madeCalls extent lines = c.atCode.madeCalls extent (c.codeAhead lines) := by
  induction lines generalizing c with
  | nil => rw [codeAhead_nil]; rfl
  | cons line rest ih =>
    rw [madeCalls, ih]
    by_cases hcode : c.IsOpen ∧ IsCode line
    · obtain ⟨hopen, hline⟩ := hcode
      rw [hopen.codeAhead_cons hline extent, (hopen.next hline extent).atCode, hopen.atCode, madeCalls]
    · obtain ⟨hcalls, hsame, hcode⟩ := skips_of_not_isCode hcode extent rest
      rw [hsame, hcode, hcalls, List.map_nil, List.nil_append]

theorem IsOpen.madeCalls_codeOf (h : c.IsOpen) (extent : BodyExtent) (lines : List (List Char)) :
    c.madeCalls extent lines = c.madeCalls extent (codeOf lines) := by
  rw [madeCalls_codeAhead, h.atCode, codeAhead, h.inPod, h.afterEnd]
  rfl

theorem codeAhead_append (extent : BodyExtent) (c : Context) (a b : List (List Char)) :
    c.codeAhead (a ++ b) = c.codeAhead a ++ (c.after extent a).codeAhead b := by
  induction a generalizing c with
  | nil => rw [codeAhead_nil]; rfl
  | cons line rest ih =>
    rw [List.cons_append]
    by_cases hcode : c.IsOpen ∧ IsCode line
    · obtain ⟨hopen, hline⟩ := hcode
      rw [hopen.codeAhead_cons hline extent, hopen.codeAhead_cons hline extent, ih]
      rfl
    · rw [(skips_of_not_isCode hcode extent _).2.2, (skips_of_not_isCode hcode extent _).2.2, ih]
      rfl

end Context

/-! ### Files -/

/-- The context at the beginning of a file. -/
def Source.start (s : Settings) (source : Source) : Context := { file := source.identity s }

/-- The code of a file. -/
def Source.code (source : Source) : List (List Char) := codeOf (source.lines.map chomp)

/-- The calls of a file are those that its code makes. -/
theorem Source.calls_eq (s : Settings) (source : Source) :
    source.calls s = ((source.start s).madeCalls s.extent source.code).map
      fun made => ⟨made.1, source.identity s, made.2⟩ := by
  have hopen : (source.start s).IsOpen := ⟨rfl, rfl⟩
  rw [Source.code, ← hopen.madeCalls_codeOf]
  exact Context.flatMap_run_keys ..

end Scan

end PerlCalls

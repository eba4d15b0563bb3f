import Mathlib
import PerlCalls.Proofs.Asides
import PerlCalls.Proofs.Extents

/-! Where the reading of a file can stand.

`Reached` holds of every context that lines of a file lead to, together with what these lines have told.
A line opens documentation or ends the code only where code may stand (`IsOpen.of_role`), so the two never
hold at once. The flag of an open body and the depth of its braces
say the same thing (`Braced`): a declaration sets both anew, and a line of code keeps them together
(`Braced.balance`), which is why a body may be left at depth zero on the word of the flag. And no scope
comes from nowhere: it is the top level, or a line before has declared it (`Coherent.next`). -/
namespace PerlCalls.Scan

open PerlCalls.Graph PerlCalls.Perl

namespace Context

variable {extent : BodyExtent} {c : Context} {line : List Char}

/-! ### Places -/

/-- A line that neither is silent nor closes documentation stands where code may stand. -/
theorem IsOpen.of_role {role : Role} (h : c.role line = role) (hsilent : role ≠ .silent)
    (hleaves : role ≠ .leavesPod) : c.IsOpen := by
  subst h
  unfold Context.role at hsilent hleaves
  cases hend : c.afterEnd with
  | true => simp [hend] at hsilent
  | false =>
    cases hpod : c.inPod with
    | true => cases hcloses : closesPod line <;> simp [hend, hpod, hcloses] at hsilent hleaves
    | false => exact ⟨hpod, hend⟩

/-- What is past the end is not in documentation. -/
theorem apart_next (h : ¬(c.inPod = true ∧ c.afterEnd = true)) (extent : BodyExtent) (line : List Char) :
    ¬((c.next extent line).inPod = true ∧ (c.next extent line).afterEnd = true) := by
  have hplace := next_place extent c line
  rw [← hplace.inPod, ← hplace.afterEnd]
  cases hrole : c.role line with
  | entersPod => simp [(IsOpen.of_role hrole nofun nofun).afterEnd]
  | leavesPod => simp
  | endsCode => simp [(IsOpen.of_role hrole nofun nofun).inPod]
  | _ => exact h

/-! ### Braces -/

/-- The depth is never negative, the body is open exactly above depth zero, and where closing braces in
the first column end a body, no depth is kept. -/
structure Braced (extent : BodyExtent) (c : Context) : Prop where
  nonneg : 0 ≤ c.depth
  bodyOpen : c.bodyOpen = true ↔ 0 < c.depth
  flat : extent = .columnZero → c.depth = 0

theorem braced_leave (extent : BodyExtent) (c : Context) : c.leave.Braced extent :=
  ⟨le_refl 0, by simp [leave], fun _ => rfl⟩

theorem braced_enter (extent : BodyExtent) (c : Context) (name : String) (line : List Char) :
    (c.enter extent name line).Braced extent := by
  cases extent with
  | columnZero => exact ⟨le_refl 0, by simp [enter], fun _ => rfl⟩
  | braceDepth => exact ⟨le_max_right .., by simp [enter], nofun⟩

/-- However many braces a line of code opens or closes, flag and depth stay together. -/
theorem Braced.balance (h : c.Braced .braceDepth) (delta : Int) :
    (c.balance delta).Braced .braceDepth := by
  unfold Context.balance
  split_ifs
  · exact h
  · dsimp only
    split_ifs with hopen
    · exact ⟨hopen.le, iff_of_true rfl hopen, nofun⟩
    · exact braced_leave .braceDepth c
    · exact h

theorem Braced.next (h : c.Braced extent) (line : List Char) : (c.next extent line).Braced extent := by
  unfold Context.next
  cases c.role line with
  | declares name => exact braced_enter extent c name line
  | code =>
    cases extent with
    | columnZero =>
      dsimp only
      split_ifs
      · exact ⟨h.nonneg, h.bodyOpen, h.flat⟩
      · exact h
    | braceDepth => exact h.balance (braceDelta line)
  | _ => exact ⟨h.nonneg, h.bodyOpen, h.flat⟩

/-! ### Runs -/

/-- The contexts that lines of `file` lead to, one after the other and under whatever numbers, with what
the lines have told so far. -/
inductive Reached (extent : BodyExtent) (file : String) : Context → List Findings → Prop where
  | start : Reached extent file { file := file } []
  | line {c : Context} {told : List Findings} (number : Int) (line : List Char) :
      Reached extent file c told →
      Reached extent file (c.step extent number line).1 (told ++ [(c.step extent number line).2])

/-- The lines of a file, numbered in a row, lead to such a context. -/
theorem reached_after (extent : BodyExtent) (file : String) (number : Int) (lines : List (List Char)) :
    Reached extent file (({ file := file } : Context).after extent lines)
      (({ file := file } : Context).run extent number lines) := by
  induction lines using List.reverseRecOn with
  | nil => exact .start
  | append_singleton lines line ih =>
    rw [after_append, run_append]
    exact ih.line (number + lines.length) line

/-- What holds of a context of `file` after the lines that have told `told`. -/
structure Coherent (extent : BodyExtent) (file : String) (c : Context) (told : List Findings) : Prop where
  sameFile : c.file = file
  apart : ¬(c.inPod = true ∧ c.afterEnd = true)
  braced : c.Braced extent
  scope : c.subroutine = mainScope ∨
    ∃ f ∈ told, ∃ d, f.definition = some d ∧ d.file = file ∧ d.name = c.subroutine

theorem coherent_start (extent : BodyExtent) (file : String) :
    Coherent extent file { file := file } [] :=
  ⟨rfl, by simp, ⟨le_refl 0, by simp, fun _ => rfl⟩, Or.inl rfl⟩

/-- One more line. -/
theorem Coherent.next {file : String} {told : List Findings} (h : Coherent extent file c told)
    (number : Int) (line : List Char) :
    Coherent extent file (c.next extent line) (told ++ [c.findings extent number line]) := by
  obtain ⟨hfile, hscope⟩ := next_scope extent c line
  refine ⟨hfile.trans h.sameFile, apart_next h.apart extent line, h.braced.next line, ?_⟩
  rcases hscope with hsame | hmain | hdeclares
  · -- the line leaves the scope as it is, so what declared it before still does
    rw [hsame]
    refine h.scope.imp_right ?_
    rintro ⟨f, hf, hd⟩
    exact ⟨f, List.mem_append_left _ hf, hd⟩
  · exact Or.inl hmain
  · let d : Definition := ⟨(c.next extent line).subroutine, c.file, number, false⟩
    have hd := (findings_definition extent c number line d).mpr ⟨hdeclares, rfl, rfl, rfl⟩
    exact Or.inr ⟨_, List.mem_append_right _ (List.mem_singleton.mpr rfl), d, hd, h.sameFile, rfl⟩

theorem Reached.coherent {file : String} {told : List Findings} (h : Reached extent file c told) :
    Coherent extent file c told := by
  induction h with
  | start => exact coherent_start extent file
  | line number line _ ih => exact ih.next number line

/-- **The states of a reading.** Whatever lines of a file are read, the file stays; documentation and the
end of the code exclude each other, and past the end nothing changes any more; the depth is not negative,
and a body is open exactly above depth zero; where closing braces in the first column end a body, no depth
is kept at all; and the subroutine is the top level or has been declared in the file before. -/
theorem reached_states {file : String} {told : List Findings} (h : Reached extent file c told) :
    c.file = file ∧
      ¬(c.inPod = true ∧ c.afterEnd = true) ∧
      (c.afterEnd = true → ∀ lines, c.after extent lines = c) ∧
      0 ≤ c.depth ∧ (c.bodyOpen = true ↔ 0 < c.depth) ∧
      (extent = .columnZero → c.depth = 0 ∧ c.bodyOpen = false) ∧
      (c.subroutine = mainScope ∨
        ∃ f ∈ told, ∃ d, f.definition = some d ∧ d.file = file ∧ d.name = c.subroutine) := by
  have hc := h.coherent
  refine ⟨hc.sameFile, hc.apart, fun hend lines => (silent_of_afterEnd hend lines).1, hc.braced.nonneg,
    hc.braced.bodyOpen, fun hextent => ?_, hc.scope⟩
  have hzero := hc.braced.flat hextent
  refine ⟨hzero, Bool.eq_false_iff.mpr fun hopen => ?_⟩
  have hpos := hc.braced.bodyOpen.mp hopen
  omega

/-- A body two braces deep, behind documentation with a brace in it and before the end of the code. -/
theorem reached_states_nestedBody :
    let lines := ["sub f".toList, "\x7b if (x) \x7b".toList, "=pod".toList, "\x7d".toList, "=cut".toList,
      "__END__".toList]
    let start : Context := { file := "a.pl" }
    let c := start.after .braceDepth lines
    c = ⟨"a.pl", "f", false, true, true, 2⟩ ∧ Reached .braceDepth "a.pl" c (start.run .braceDepth 1 lines) ∧
      (∀ more, c.after .braceDepth more = c) ∧
      ∃ f ∈ start.run .braceDepth 1 lines, ∃ d, f.definition = some d ∧ d.file = "a.pl" ∧ d.name = "f" := by
  intro lines start c
  have hc : c = ⟨"a.pl", "f", false, true, true, 2⟩ := by decide +kernel
  have hreached : Reached .braceDepth "a.pl" c (start.run .braceDepth 1 lines) := reached_after ..
  obtain ⟨-, -, hend, -, -, -, hscope⟩ := reached_states hreached
  rw [hc] at hend hscope
  refine ⟨hc, hreached, ?_, hscope.resolve_left (by decide)⟩
  rw [hc]
  exact hend rfl

end Context

end PerlCalls.Scan

import Mathlib
import PerlCalls.Proofs.CodeLines
import PerlCalls.Proofs.DeclarationDepth

/-! Who calls, when braces that balance end a body.

The depth after each line of a body is a sum of the lines' braces (`depthAfter`). A body is closed by the
first line at whose end the depth has fallen below zero, or to zero from above (`ClosesAt`). Reading keeps
the depth and whether it is above zero as long as the body is open (`InBody`): a line of code either closes
the body in this sense (`InBody.balance_leaves`) or keeps it open at the next depth
(`InBody.balance_stays`). So a declaration is the caller of all calls up to the line that closes its
body, that line included, and the top level of those that follow (`InBody.reads`). A declaration forgets
what was open before it (`madeCalls_declaration`), so `scanLines_braceDepth` holds of every declaration in
a file, whatever comes before and after. -/
namespace PerlCalls

namespace Perl

/-- The depth after the first `j` of some lines, read from depth `d` on. -/
def depthAfter (d : Int) (code : List (List Char)) (j : Nat) : Int :=
  d + ((code.take j).map braceDelta).sum

/-- The `j`-th line, counted from one, ends below depth zero, or at depth zero after one that ends
above. -/
def ClosesAt (d : Int) (code : List (List Char)) (j : Nat) : Prop :=
  1 ≤ j ∧ j ≤ code.length ∧
    (depthAfter d code j < 0 ∨ depthAfter d code j = 0 ∧ 0 < depthAfter d code (j - 1))

instance (d : Int) (code : List (List Char)) (j : Nat) : Decidable (ClosesAt d code j) :=
  inferInstanceAs (Decidable (_ ∧ _ ∧ (_ ∨ _ ∧ _)))

/-- The calls on a line, made by `caller`. -/
def callsBy (caller : String) (line : List Char) : List (String × String) :=
  (calls line).map (Prod.mk caller)

variable {d : Int} {line : List Char} {rest : List (List Char)} {j : Nat}

theorem depthAfter_zero (d : Int) (code : List (List Char)) : depthAfter d code 0 = d := by
  simp [depthAfter]

theorem depthAfter_cons (d : Int) (line : List Char) (rest : List (List Char)) (j : Nat) :
    depthAfter d (line :: rest) (j + 1) = depthAfter (d + braceDelta line) rest j := by
  simp [depthAfter, add_assoc]

/-- A line closes the body if it is the first and does so, or if it does so among the others. -/
theorem closesAt_cons :
    ClosesAt d (line :: rest) (j + 1) ↔
      j = 0 ∧ (d + braceDelta line < 0 ∨ d + braceDelta line = 0 ∧ 0 < d) ∨
        ClosesAt (d + braceDelta line) rest j := by
  simp only [ClosesAt, List.length_cons, depthAfter_cons, Nat.add_sub_cancel]
  cases j with
  | zero => simp [depthAfter_zero]
  | succ i => simp [depthAfter_cons]

theorem not_closesAt_nil : ¬ClosesAt d [] j := by
  rintro ⟨hpos, hle, -⟩
  rw [List.length_nil] at hle
  omega

/-- Where the first line does not close the body, it takes one line more than the others do. -/
theorem isLeast_closesAt_cons {e : Nat}
    (hopen : ¬(d + braceDelta line < 0 ∨ d + braceDelta line = 0 ∧ 0 < d))
    (h : IsLeast {j | ClosesAt (d + braceDelta line) rest j} e) :
    IsLeast {j | ClosesAt d (line :: rest) j} (e + 1) := by
  refine ⟨closesAt_cons.mpr (Or.inr h.1), fun j hj => ?_⟩
  cases j with
  | zero => exact absurd hj.1 (by omega)
  | succ i =>
    rcases closesAt_cons.mp hj with ⟨-, hclose⟩ | hi
    · exact absurd hclose hopen
    · exact Nat.succ_le_succ (h.2 hi)

end Perl

namespace Scan

open PerlCalls.Graph PerlCalls.Perl
open Text

namespace Context

variable {c c' : Context} {n : String} {d : Int} {line : List Char} {code : List (List Char)}

/-! ### One line -/

/-- A line of code that declares nothing calls, and its braces count. -/
theorem IsOpen.step_braceDepth (h : c.IsOpen) (hline : IsCode line) (hplain : declaration line = none) :
    (c.findings .braceDepth 0 line).calls = calls line ∧
      c.next .braceDepth line = c.balance (braceDelta line) := by
  have hrole : c.role line = .code := by rw [h.role_isCode hline, hplain]; rfl
  exact ⟨by simp [findings_calls, hrole], by simp only [Context.next, hrole]⟩

/-- The context is in the body of `n`, at depth `d`. Before its first brace a body is at depth zero. -/
structure InBody (c : Context) (n : String) (d : Int) : Prop where
  isOpen : c.IsOpen
  subroutine : c.subroutine = n
  depth : c.depth = d
  nonneg : 0 ≤ d
  bodyOpen : c.bodyOpen = decide (0 < d)

/-- The line closes the body. -/
theorem InBody.balance_leaves (h : c.InBody n d) (hn : n ≠ mainScope) {delta : Int}
    (hclose : d + delta < 0 ∨ d + delta = 0 ∧ 0 < d) : c.balance delta = c.leave := by
  have hsub : (c.subroutine == mainScope) = false := by simpa [h.subroutine] using hn
  have hnot : ¬0 < d + delta := by omega
  have hends : (c.bodyOpen || decide (d + delta < 0)) = true := by
    rw [h.bodyOpen, Bool.or_eq_true, decide_eq_true_eq, decide_eq_true_eq]
    omega
  simp only [balance, hsub, h.depth, hnot, hends, if_true, if_false, Bool.false_eq_true]

/-- The line leaves the body open. -/
theorem InBody.balance_stays (h : c.InBody n d) (hn : n ≠ mainScope) {delta : Int}
    (hopen : ¬(d + delta < 0 ∨ d + delta = 0 ∧ 0 < d)) : (c.balance delta).InBody n (d + delta) := by
  have hsub : (c.subroutine == mainScope) = false := by simpa [h.subroutine] using hn
  by_cases hpos : 0 < d + delta
  · have hbalance : c.balance delta = { c with bodyOpen := true, depth := d + delta } := by
      simp only [balance, hsub, h.depth, hpos, if_true, Bool.false_eq_true, if_false]
    rw [hbalance]
    exact ⟨⟨h.isOpen.inPod, h.isOpen.afterEnd⟩, h.subroutine, rfl, hpos.le, (decide_eq_true hpos).symm⟩
  · -- no brace has been opened yet, and none is now
    have hnonneg := h.nonneg
    obtain ⟨rfl, rfl⟩ : d = 0 ∧ delta = 0 := by omega
    have hbalance : c.balance 0 = c := by
      simp [balance, hsub, h.depth, h.bodyOpen]
    rw [hbalance]
    exact h

/-! ### A body -/

/-- Outside every subroutine braces are of no account. -/
theorem reads_main (h : c.IsOpen) (hmain : c.subroutine = mainScope)
    (hcode : ∀ line ∈ code, IsCode line ∧ declaration line = none) :
    c.madeCalls .braceDepth code = code.flatMap (callsBy mainScope) ∧ c.after .braceDepth code = c := by
  induction code with
  | nil => exact ⟨rfl, rfl⟩
  | cons line rest ih =>
    obtain ⟨hline, hplain⟩ := hcode line (List.mem_cons_self ..)
    obtain ⟨hcalls, hnext⟩ := h.step_braceDepth hline hplain
    have hsame : c.next .braceDepth line = c := by
      rw [hnext, balance, hmain, if_pos (beq_self_eq_true _)]
    obtain ⟨hmade, hafter⟩ := ih fun l hl => hcode l (List.mem_cons_of_mem _ hl)
    constructor
    · rw [madeCalls, hsame, hmade, hcalls, hmain, List.flatMap_cons, callsBy]
    · show (c.next .braceDepth line).after .braceDepth rest = c
      rw [hsame, hafter]

/-- Reading a body up to the line that closes it and beyond, or as far as it goes. The induction is on
the lines, and the depth that each leaves is where the next begins. -/
theorem InBody.reads (h : c.InBody n d) (hn : n ≠ mainScope)
    (hcode : ∀ line ∈ code, IsCode line ∧ declaration line = none) :
    (∃ e, IsLeast {j | ClosesAt d code j} e ∧
      c.madeCalls .braceDepth code =
        (code.take e).flatMap (callsBy n) ++ (code.drop e).flatMap (callsBy mainScope) ∧
      (c.after .braceDepth code).subroutine = mainScope) ∨
    ((∀ j, ¬ClosesAt d code j) ∧ c.madeCalls .braceDepth code = code.flatMap (callsBy n) ∧
      (c.after .braceDepth code).subroutine = n) := by
  induction code generalizing c d with
  | nil => exact Or.inr ⟨fun j => not_closesAt_nil, rfl, h.subroutine⟩
  | cons line rest ih =>
    obtain ⟨hline, hplain⟩ := hcode line (List.mem_cons_self ..)
    have hrest : ∀ l ∈ rest, IsCode l ∧ declaration l = none :=
      fun l hl => hcode l (List.mem_cons_of_mem _ hl)
    obtain ⟨hcalls, hnext⟩ := h.isOpen.step_braceDepth hline hplain
    have hmade : c.madeCalls .braceDepth (line :: rest) =
        callsBy n line ++ (c.balance (braceDelta line)).madeCalls .braceDepth rest := by
      rw [madeCalls, hcalls, hnext, h.subroutine, callsBy]
    have hafter : c.after .braceDepth (line :: rest) =
        (c.balance (braceDelta line)).after .braceDepth rest := by
      rw [← hnext]
      rfl
    rw [hmade, hafter]
    by_cases hclose : d + braceDelta line < 0 ∨ d + braceDelta line = 0 ∧ 0 < d
    · rw [h.balance_leaves hn hclose]
      obtain ⟨hmain, hstay⟩ := reads_main (c := c.leave) ⟨h.isOpen.inPod, h.isOpen.afterEnd⟩ rfl hrest
      refine Or.inl ⟨1, ⟨closesAt_cons.mpr (Or.inl ⟨rfl, hclose⟩), fun j hj => hj.1⟩, ?_, ?_⟩
      · rw [hmain]
        simp
      · rw [hstay]
        rfl
    · have hstays := h.balance_stays hn hclose
      rcases ih hstays hrest with ⟨e, hleast, hcalls, hmain⟩ | ⟨hnone, hcalls, hopen⟩
      · refine Or.inl ⟨e + 1, isLeast_closesAt_cons hclose hleast, ?_, hmain⟩
        rw [hcalls, List.take_succ_cons, List.drop_succ_cons, List.flatMap_cons, List.append_assoc]
      · refine Or.inr ⟨fun j hj => ?_, ?_, hopen⟩
        · cases j with
          | zero => exact absurd hj.1 (by omega)
          | succ i =>
            rcases closesAt_cons.mp hj with ⟨-, hfirst⟩ | hlater
            · exact hclose hfirst
            · exact hnone i hlater
        · rw [hcalls, List.flatMap_cons]

/-! ### Declarations -/

theorem IsOpen.next_declaration (h : c.IsOpen) (hline : IsCode line) (hdecl : declaration line = some n)
    (extent : BodyExtent) :
    (c.findings extent 0 line).calls = [] ∧ c.next extent line = c.enter extent n line := by
  have hrole : c.role line = .declares n := by rw [h.role_isCode hline, hdecl]; rfl
  exact ⟨by simp [findings_calls, hrole], by simp only [Context.next, hrole]⟩

/-- A declaration opens its body at the depth of its own braces. -/
theorem IsOpen.enters (h : c.IsOpen) (hdecl : declaration line = some n) :
    (c.enter .braceDepth n line).InBody n (braceDelta line) := by
  have hnonneg : 0 ≤ braceDelta line := by
    rcases braceDelta_declaration hdecl with hzero | hone <;> omega
  exact ⟨⟨h.inPod, h.afterEnd⟩, rfl, max_eq_left hnonneg, hnonneg, rfl⟩

/-- A declaration forgets what was open before it. -/
theorem madeCalls_declaration (h : c.IsOpen) (h' : c'.IsOpen) (hfile : c.file = c'.file)
    (hcode : ∀ line ∈ code, IsCode line) (hdecl : ∀ line ∈ code.head?, (declaration line).isSome = true) :
    c.madeCalls .braceDepth code = c'.madeCalls .braceDepth code := by
  cases code with
  | nil => rfl
  | cons line rest =>
    obtain ⟨n, hn⟩ := Option.isSome_iff_exists.mp (hdecl line rfl)
    have hline := hcode line (List.mem_cons_self ..)
    obtain ⟨hcalls, hnext⟩ := h.next_declaration hline hn .braceDepth
    obtain ⟨hcalls', hnext'⟩ := h'.next_declaration hline hn .braceDepth
    have hsame : c.enter .braceDepth n line = c'.enter .braceDepth n line := by
      simp only [enter, hfile, h.inPod, h.afterEnd, h'.inPod, h'.afterEnd]
    rw [madeCalls, madeCalls, hcalls, hcalls', hnext, hnext', hsame]
    rfl

/-- What is called before a declaration, in its body and from the next declaration on. -/
theorem IsOpen.madeCalls_around (h : c.IsOpen) {before body later : List (List Char)} {decl : List Char}
    (hcode : ∀ line ∈ before ++ decl :: (body ++ later), IsCode line) (hdecl : declaration decl = some n)
    (hlater : ∀ line ∈ later.head?, (declaration line).isSome = true) :
    c.madeCalls .braceDepth (before ++ decl :: (body ++ later)) = c.madeCalls .braceDepth before ++
      ((c.after .braceDepth before).enter .braceDepth n decl).madeCalls .braceDepth body ++
        c.madeCalls .braceDepth later := by
  have hbefore : ∀ l ∈ before, IsCode l := fun l hl => hcode l (List.mem_append_left _ hl)
  have hline : IsCode decl := hcode decl (List.mem_append_right _ (List.mem_cons_self ..))
  have hrest : ∀ l ∈ body ++ later, IsCode l := fun l hl =>
    hcode l (List.mem_append_right _ (List.mem_cons_of_mem _ hl))
  have hopen := h.after hbefore .braceDepth
  obtain ⟨hcalls, hnext⟩ := hopen.next_declaration hline hdecl .braceDepth
  have hentered : ((c.after .braceDepth before).enter .braceDepth n decl).IsOpen :=
    hnext ▸ hopen.next hline .braceDepth
  have hbody := hentered.after (fun l hl => hrest l (List.mem_append_left _ hl)) .braceDepth
  have hfile : (((c.after .braceDepth before).enter .braceDepth n decl).after .braceDepth body).file =
      c.file := (after_file ..).trans (after_file ..)
  rw [madeCalls_append, madeCalls, hcalls, hnext, List.map_nil, List.nil_append, madeCalls_append,
    madeCalls_declaration hbody h hfile (fun l hl => hrest l (List.mem_append_right _ hl)) hlater,
    List.append_assoc]

end Context

/-- **A declaration is the caller up to where its body is closed.** Take any declaration of `n` in the code
of a file, and the lines of code that follow it up to the next one. If `e` is the first of them that closes
the body, the calls on the first `e` lines are counted for `n` and those on the others for the top level;
if none closes it, all are counted for `n`. What is called before the declaration and from the next one on
is as if the file held nothing else. -/
theorem scanLines_braceDepth (t : Tally) (stripPaths : Bool) (path : String) {lines : List (List Char)}
    {before rest : List (List Char)} {decl : List Char} {n : String}
    (hcode : codeOf (lines.map chomp) = before ++ decl :: rest) (hdecl : declaration decl = some n)
    (hn : n ≠ mainScope) :
    let s : Settings := ⟨stripPaths, .braceDepth⟩
    let start : Context := { file := s.identity path }
    let body := rest.takeWhile fun line => (declaration line).isNone
    let later := rest.dropWhile fun line => (declaration line).isNone
    ∃ made,
      (t.scanLines s path lines).calls = Tally.enterCalls t.calls
        ((start.madeCalls .braceDepth before ++ made ++ start.madeCalls .braceDepth later).map
          fun call => ⟨call.1, s.identity path, call.2⟩) ∧
      (∀ e, IsLeast {j | ClosesAt (braceDelta decl) body j} e →
        made = (body.take e).flatMap (callsBy n) ++ (body.drop e).flatMap (callsBy mainScope)) ∧
      ((∀ j, ¬ClosesAt (braceDelta decl) body j) → made = body.flatMap (callsBy n)) := by
  intro s start body later
  have hsplit : body ++ later = rest := List.takeWhile_append_dropWhile
  have hall : ∀ line ∈ before ++ decl :: (body ++ later), IsCode line := fun line hline =>
    isCode_of_mem_codeOf (by rwa [hsplit, ← hcode] at hline)
  have hopen : start.IsOpen := ⟨rfl, rfl⟩
  have hbefore : (start.after .braceDepth before).IsOpen :=
    hopen.after (fun line hline => hall line (List.mem_append_left _ hline)) .braceDepth
  have hbody : ∀ line ∈ body, IsCode line ∧ declaration line = none := by
    intro line hline
    refine ⟨hall line (by simp [hline]), Option.isNone_iff_eq_none.mp ?_⟩
    exact List.mem_takeWhile_imp (p := fun line => (declaration line).isNone) hline
  have hlater : ∀ line ∈ later.head?, (declaration line).isSome = true := by
    intro line hline
    have hhead := List.head?_dropWhile_not (fun line => (declaration line).isNone) rest
    rw [Option.mem_def.mp hline] at hhead
    simpa [Option.isSome_iff_ne_none] using hhead
  have hreads := (hbefore.enters hdecl).reads hn hbody
  refine ⟨((start.after .braceDepth before).enter .braceDepth n decl).madeCalls .braceDepth body, ?_, ?_, ?_⟩
  · have hcalls : (Source.mk path lines).calls s = _ := Source.calls_eq s ⟨path, lines⟩
    have hfile : (Source.mk path lines).code = before ++ decl :: (body ++ later) := by
      rw [hsplit, ← hcode]
      rfl
    rw [Tally.scanLines_eq t s ⟨path, lines⟩, hcalls, hfile]
    exact congrArg _ (congrArg _ (hopen.madeCalls_around hall hdecl hlater))
  · intro e he
    rcases hreads with ⟨e', he', hmade, -⟩ | ⟨hnone, -⟩
    · rw [he.unique he', hmade]
    · exact absurd he.1 (hnone e)
  · intro hnone
    rcases hreads with ⟨e, he, -⟩ | ⟨-, hmade, -⟩
    · exact absurd he.1 (hnone e)
    · exact hmade

/-- A body that is opened below its declaration and closed behind a call, with braces beside the code. -/
theorem scanLines_braceDepth_lateBody :
    let s : Settings := ⟨true, .braceDepth⟩
    let lines := ["x();".toList, "sub foo".toList, "=pod".toList, "\x7d".toList, "=cut".toList,
      "\x7b f('\x7d');".toList, "# \x7d".toList, "g(); \x7d".toList, "h();".toList, "sub bar \x7b".toList,
      "k();".toList]
    let body := ["\x7b f('\x7d');".toList, "g(); \x7d".toList, "h();".toList]
    let rest := body ++ ["sub bar \x7b".toList, "k();".toList]
    codeOf (lines.map chomp) = ["x();".toList] ++ "sub foo".toList :: rest ∧
      declaration "sub foo".toList = some "foo" ∧ "foo" ≠ mainScope ∧
      IsLeast {j | ClosesAt (braceDelta "sub foo".toList) body j} 2 ∧
      (({} : Tally).scanLines s "a.pl" lines).calls = Tally.enterCalls SortedMap.empty
        ([("main", "x"), ("foo", "f"), ("foo", "g"), ("main", "h"), ("bar", "k")].map
          fun call => ⟨call.1, "a.pl", call.2⟩) := by
  intro s lines body rest
  have hcode : codeOf (lines.map chomp) = ["x();".toList] ++ "sub foo".toList :: rest := by decide +kernel
  have hdecl : declaration "sub foo".toList = some "foo" := by decide +kernel
  have hn : "foo" ≠ mainScope := by decide
  have hleast : IsLeast {j | ClosesAt (braceDelta "sub foo".toList) body j} 2 := by
    refine ⟨by decide +kernel, fun j hj => ?_⟩
    have hfirst : ¬ClosesAt (braceDelta "sub foo".toList) body 1 := by decide +kernel
    by_contra hlt
    obtain rfl : j = 1 := by have := hj.1; omega
    exact hfirst hj
  refine ⟨hcode, hdecl, hn, hleast, ?_⟩
  obtain ⟨made, hcalls, hclosed, -⟩ := scanLines_braceDepth {} true "a.pl" hcode hdecl hn
  have hbody : (rest.takeWhile fun line => (declaration line).isNone) = body := by decide +kernel
  rw [hbody] at hclosed
  rw [hcalls, hclosed 2 hleast]
  exact congrArg (Tally.enterCalls SortedMap.empty) (by decide +kernel)

end Scan

end PerlCalls

import Mathlib
import PerlCalls.Proofs.BraceDepth

/-! Where a body is over.

The braces of a body may close anywhere in a line, but reading counts the depth at the ends of lines only. A
body is over if it is not the one that is open (`isOver_iff_subroutine`), and so, where its braces close, if
and only if the end of a line has shown it (`subroutine_contextAfter`). It has if the line on which they
close holds no opening brace (`closesAt_of_returnsToZero`). It has not if the body is opened on that line as
well, or if another block is opened behind it: the depth at the end of such a line is what it was at the end
of the line before. -/
namespace PerlCalls

namespace Perl

/-- Counted character by character, the depth is above zero and then returns to zero at a character of
`text`, which follows `before`. -/
def ReturnsToZero (before text : List Char) : Prop :=
  ∃ inner ch outer, text = inner ++ ch :: outer ∧ 0 < depthOf (before ++ inner) ∧
    depthOf (before ++ inner ++ [ch]) = 0

/-- In the code of a text, `decl` declares `n`, the lines of `between` follow, and on the line `last`, which
comes next, the braces of the body close. -/
structure BracesClose (lines : List (List Char)) (last : List Char) (n : String) (decl : List Char)
    (between : List (List Char)) : Prop where
  code : ∃ before, codeOf lines = before ++ decl :: between
  reached : codeOf (lines ++ [last]) = codeOf lines ++ [last]
  declares : declaration decl = some n
  plain : ∀ line ∈ between ++ [last], declaration line = none
  closes : ReturnsToZero ((decl :: between).flatMap stripLiterals) (stripLiterals last)

theorem depthOf_nonpos {text : List Char} (h : '{' ∉ text) : depthOf text ≤ 0 := by
  rw [depthOf, List.count_eq_zero.mpr h]
  omega

/-- The depth at the end of lines is that of their text. -/
theorem sum_braceDelta (code : List (List Char)) :
    (code.map braceDelta).sum = depthOf (code.flatMap stripLiterals) := by
  induction code with
  | nil => rfl
  | cons line rest ih =>
    rw [List.map_cons, List.sum_cons, ih, List.flatMap_cons, depthOf_append]
    rfl

/-- Where the last line closes the braces and opens none, the end of the line shows it. -/
theorem closesAt_of_returnsToZero {decl last : List Char} {between : List (List Char)}
    (h : ReturnsToZero ((decl :: between).flatMap stripLiterals) (stripLiterals last))
    (hopen : '{' ∉ stripLiterals last) :
    ClosesAt (braceDelta decl) (between ++ [last]) (between.length + 1) := by
  obtain ⟨inner, ch, outer, htext, hpos, hzero⟩ := h
  have hbefore : depthAfter (braceDelta decl) (between ++ [last]) between.length =
      depthOf ((decl :: between).flatMap stripLiterals) := by
    rw [← sum_braceDelta, depthAfter, List.take_left, List.map_cons, List.sum_cons]
  have hend : depthAfter (braceDelta decl) (between ++ [last]) (between.length + 1) =
      depthOf ((decl :: between).flatMap stripLiterals) + depthOf (stripLiterals last) := by
    rw [← hbefore, depthAfter, depthAfter, List.take_left, List.take_of_length_le (by simp)]
    simp [add_assoc]
    rfl
  -- on this line the depth only falls
  have hinner : depthOf inner ≤ 0 := depthOf_nonpos fun hc => hopen (by simp [htext, hc])
  have houter : depthOf outer ≤ 0 := depthOf_nonpos fun hc => hopen (by simp [htext, hc])
  have hsplit : depthOf (stripLiterals last) = depthOf inner + (depthOf [ch] + depthOf outer) := by
    rw [htext, depthOf_append, ← depthOf_append [ch] outer]
    rfl
  rw [depthOf_append] at hpos hzero
  rw [depthOf_append] at hzero
  refine ⟨by omega, by simp, ?_⟩
  rw [Nat.add_sub_cancel, hbefore]
  omega

end Perl

namespace Scan

open PerlCalls.Graph PerlCalls.Perl
open Text

/-! ### What further lines add -/

namespace Context

variable {extent : BodyExtent} {c : Context} {n : String} {lines : List (List Char)}

/-- Lines that do not declare `n` make no call from it, unless they are read in its body. -/
theorem madeCalls_caller (hlines : ∀ line ∈ lines, declaration line ≠ some n) (hn : n ≠ mainScope)
    (hscope : c.subroutine ≠ n) : ∀ made ∈ c.madeCalls extent lines, made.1 ≠ n := by
  induction lines generalizing c with
  | nil => intro made hmade; cases hmade
  | cons line rest ih =>
    have hnext : (c.next extent line).subroutine ≠ n := by
      rcases (next_scope extent c line).2 with hsame | hmain | hrole
      · rw [hsame]
        exact hscope
      · rw [hmain]
        exact hn.symm
      · intro hsub
        rw [hsub] at hrole
        exact hlines line (List.mem_cons_self ..) (declaration_of_role hrole)
    intro made hmade
    rcases List.mem_append.mp hmade with hline | hrest
    · obtain ⟨callee, -, rfl⟩ := List.mem_map.mp hline
      exact hscope
    · exact ih (fun l hl => hlines l (List.mem_cons_of_mem _ hl)) hnext made hrest

end Context

theorem Tally.find?_enterCalls_of_not_mem (m : SortedMap CallKey Int) {keys : List CallKey} {k : CallKey}
    (h : k ∉ keys) : (enterCalls m keys).find? k = m.find? k := by
  induction keys generalizing m with
  | nil => rfl
  | cons j keys ih =>
    obtain ⟨hj, hkeys⟩ := not_or.mp (List.mem_cons.not.mp h)
    rw [enterCalls, List.foldl_cons, ← enterCalls, ih _ hkeys, SortedMap.find?_alter, if_neg hj]

/-- Further lines enter the calls that they make where the first ones lead to. -/
theorem Tally.calls_scanLines_append (t : Tally) (s : Settings) (path : String)
    (lines further : List (List Char)) :
    (t.scanLines s path (lines ++ further)).calls = enterCalls (t.scanLines s path lines).calls
      (((s.contextAfter path lines).madeCalls s.extent (further.map chomp)).map
        fun made => ⟨made.1, s.identity path, made.2⟩) := by
  have hcalls : (Source.mk path (lines ++ further)).calls s = (Source.mk path lines).calls s ++
      ((s.contextAfter path lines).madeCalls s.extent (further.map chomp)).map
        fun made => ⟨made.1, s.identity path, made.2⟩ := by
    rw [Source.calls, findings_append, List.flatMap_append]
    exact congrArg _ (Context.flatMap_run_keys ..)
  rw [scanLines_eq t s ⟨path, lines ++ further⟩, scanLines_eq t s ⟨path, lines⟩, hcalls, enterCalls,
    List.foldl_append]
  rfl

/-- Whatever lines follow, none of their calls is counted for `n`, until `n` is declared again. -/
def Settings.IsOver (s : Settings) (path : String) (lines : List (List Char)) (n : String) : Prop :=
  ∀ (t : Tally) (further : List (List Char)),
    (∀ line ∈ codeOf (further.map chomp), declaration line ≠ some n) →
      ∀ callee, (t.scanLines s path (lines ++ further)).calls.find? ⟨n, s.identity path, callee⟩ =
        (t.scanLines s path lines).calls.find? ⟨n, s.identity path, callee⟩

section Over
variable {s : Settings} {path : String} {lines : List (List Char)} {last : List Char} {n : String}

/-- Lines that declare no `n` are read without a call from it, unless its body is open. -/
theorem isOver_of_subroutine (hopen : (s.contextAfter path lines).IsOpen) (hn : n ≠ mainScope)
    (hscope : (s.contextAfter path lines).subroutine ≠ n) : s.IsOver path lines n := by
  intro t further hfurther callee
  rw [Tally.calls_scanLines_append, hopen.madeCalls_codeOf]
  refine Tally.find?_enterCalls_of_not_mem _ fun hmem => ?_
  obtain ⟨made, hmem, hkey⟩ := List.mem_map.mp hmem
  exact Context.madeCalls_caller hfurther hn hscope made hmem (congrArg CallKey.caller hkey)

/-- A body is over exactly if it is not open. The call that shows an open one is that of `f` on a line of
its own. -/
theorem isOver_iff_subroutine (hs : s.extent = .braceDepth) (hopen : (s.contextAfter path lines).IsOpen)
    (hn : n ≠ mainScope) : s.IsOver path lines n ↔ (s.contextAfter path lines).subroutine ≠ n := by
  refine ⟨fun hover hscope => ?_, isOver_of_subroutine hopen hn⟩
  have hline : IsCode "f()".toList := ⟨by decide +kernel, by decide +kernel, by decide +kernel⟩
  have hplain : declaration "f()".toList = none := by decide +kernel
  have hchomp : ["f()".toList].map chomp = ["f()".toList] := by decide +kernel
  have hcode : ∀ line ∈ codeOf (["f()".toList].map chomp), declaration line ≠ some n := by
    intro line hline
    have hsame : codeOf (["f()".toList].map chomp) = ["f()".toList] := by decide +kernel
    rw [hsame, List.mem_singleton] at hline
    rw [hline, hplain]
    exact (Option.some_ne_none n).symm
  have hmade : (s.contextAfter path lines).madeCalls .braceDepth (["f()".toList].map chomp) =
      [(n, "f")] := by
    have hcalls : calls "f()".toList = ["f"] := by decide +kernel
    rw [hchomp, Context.madeCalls, (hopen.step_braceDepth hline hplain).1, hcalls, hscope]
    rfl
  have hcount := hover {} ["f()".toList] hcode "f"
  rw [Tally.calls_scanLines_append, hs, hmade, List.map_singleton, Tally.enterCalls, List.foldl_cons,
    List.foldl_nil, SortedMap.find?_alter, if_pos rfl] at hcount
  cases hold : (({} : Tally).scanLines s path lines).calls.find? ⟨n, s.identity path, "f"⟩ with
  | none =>
    rw [hold] at hcount
    cases hcount
  | some count =>
    rw [hold] at hcount
    simp at hcount

/-- Where the last line is reached as code, it leaves the file open for more. -/
theorem isOpen_contextAfter_concat
    (hreached : codeOf ((lines ++ [last]).map chomp) = codeOf (lines.map chomp) ++ [chomp last]) :
    (s.contextAfter path (lines ++ [last])).IsOpen := by
  have hahead : (s.contextAfter path lines).codeAhead [chomp last] = [chomp last] := by
    have happend := Context.codeAhead_append s.extent { file := s.identity path } (lines.map chomp)
      [chomp last]
    rw [← List.map_singleton, ← List.map_append] at happend
    exact List.append_cancel_left (happend.symm.trans hreached)
  have hcode : (s.contextAfter path lines).IsOpen ∧ IsCode (chomp last) := by
    by_contra hnot
    rw [(Context.skips_of_not_isCode hnot s.extent []).2.2, Context.codeAhead_nil] at hahead
    cases hahead
  have hnext := hcode.1.next hcode.2 s.extent
  rw [Settings.contextAfter, List.map_append, Context.after_append]
  exact hnext

variable {decl : List Char} {between : List (List Char)}

/-- The body of `n` is open after the last line, unless the end of a line has shown it closed. -/
theorem subroutine_contextAfter (hs : s.extent = .braceDepth) (hn : n ≠ mainScope)
    (h : BracesClose (lines.map chomp) (chomp last) n decl between) :
    (s.contextAfter path (lines ++ [last])).subroutine ≠ n ↔
      ∃ j, ClosesAt (braceDelta decl) (between ++ [chomp last]) j := by
  obtain ⟨before, hbefore⟩ := h.code
  have hlines : codeOf ((lines ++ [last]).map chomp) =
      before ++ decl :: (between ++ [chomp last]) := by
    rw [List.map_append, List.map_singleton, h.reached, hbefore, List.append_assoc, List.cons_append]
  have hcode : ∀ line ∈ before ++ decl :: (between ++ [chomp last]), IsCode line :=
    fun line hline => isCode_of_mem_codeOf (hlines ▸ hline)
  let start : Context := { file := s.identity path }
  have hopen : (start.after .braceDepth before).IsOpen :=
    Context.IsOpen.after ⟨rfl, rfl⟩ (fun line hline => hcode line (List.mem_append_left _ hline)) _
  have hdecl : IsCode decl := hcode decl (List.mem_append_right _ (List.mem_cons_self ..))
  -- the subroutine is that after the code, which is that of the body read from its declaration on
  have hsub : (s.contextAfter path (lines ++ [last])).subroutine =
      (((start.after .braceDepth before).enter .braceDepth n decl).after .braceDepth
        (between ++ [chomp last])).subroutine := by
    have hafter : (s.contextAfter path (lines ++ [last])).atCode =
        start.after s.extent (codeOf ((lines ++ [last]).map chomp)) := Context.atCode_after ..
    rw [hs, hlines, Context.after_append] at hafter
    rw [← (hopen.next_declaration hdecl h.declares .braceDepth).2]
    have hname := congrArg Context.subroutine hafter
    exact hname
  have hbody : ∀ line ∈ between ++ [chomp last], IsCode line ∧ declaration line = none := fun line hline =>
    ⟨hcode line (List.mem_append_right _ (List.mem_cons_of_mem _ hline)), h.plain line hline⟩
  rw [hsub]
  rcases (hopen.enters h.declares).reads hn hbody with ⟨e, hleast, -, hmain⟩ | ⟨hnone, -, hname⟩
  · exact ⟨fun _ => ⟨e, hleast.1⟩, fun _ => hmain ▸ hn.symm⟩
  · exact ⟨fun hne => absurd hname hne, fun ⟨j, hj⟩ => absurd hj (hnone j)⟩

end Over

/-- **A body is over once the end of a line shows it closed.** Where the braces of a body close on a line,
nothing that follows is counted for `n`, until `n` is declared again, exactly if this line or one before it
ends below depth zero, or at depth zero after a line that ends above. That is so if the line on which the
braces close holds no opening brace. -/
theorem isOver_iff_closesAt (stripPaths : Bool) (path : String) {lines between : List (List Char)}
    {last decl : List Char} {n : String} (hn : n ≠ mainScope)
    (h : BracesClose (lines.map chomp) (chomp last) n decl between) :
    let s : Settings := ⟨stripPaths, .braceDepth⟩
    (s.IsOver path (lines ++ [last]) n ↔
      ∃ j, ClosesAt (braceDelta decl) (between ++ [chomp last]) j) ∧
    ('{' ∉ stripLiterals (chomp last) → s.IsOver path (lines ++ [last]) n) := by
  intro s
  have hreached : codeOf ((lines ++ [last]).map chomp) = codeOf (lines.map chomp) ++ [chomp last] := by
    rw [List.map_append]
    exact h.reached
  have hover : s.IsOver path (lines ++ [last]) n ↔
      ∃ j, ClosesAt (braceDelta decl) (between ++ [chomp last]) j := by
    rw [isOver_iff_subroutine rfl (isOpen_contextAfter_concat hreached) hn, subroutine_contextAfter rfl hn h]
  exact ⟨hover, fun hbrace => hover.mpr ⟨_, closesAt_of_returnsToZero h.closes hbrace⟩⟩

/-- A body below its declaration, with a block inside, a brace in a comment, and a last line that calls. -/
theorem isOver_iff_closesAt_nestedBody :
    let s : Settings := ⟨true, .braceDepth⟩
    let lines := ["x();".toList, "sub foo".toList, "\x7b if (f()) \x7b".toList, "# \x7d \x7d".toList,
      "g(); \x7d".toList]
    let between := ["\x7b if (f()) \x7b".toList, "g(); \x7d".toList]
    let last := "h(); \x7d".toList
    "foo" ≠ mainScope ∧ BracesClose (lines.map chomp) (chomp last) "foo" "sub foo".toList between ∧
      '{' ∉ stripLiterals (chomp last) ∧ s.IsOver "a.pl" (lines ++ [last]) "foo" ∧
      ∃ j, ClosesAt (braceDelta "sub foo".toList) (between ++ [chomp last]) j := by
  intro s lines between last
  have hn : "foo" ≠ mainScope := by decide
  have hclose : BracesClose (lines.map chomp) (chomp last) "foo" "sub foo".toList between :=
    { code := ⟨["x();".toList], by decide +kernel⟩
      reached := by decide +kernel
      declares := by decide +kernel
      plain := by decide +kernel
      closes := ⟨"h(); ".toList, '\x7d', [], by decide +kernel, by decide +kernel, by decide +kernel⟩ }
  have hbrace : '{' ∉ stripLiterals (chomp last) := by decide +kernel
  obtain ⟨hiff, hover⟩ := isOver_iff_closesAt true "a.pl" hn hclose
  exact ⟨hn, hclose, hbrace, hover hbrace, hiff.mp (hover hbrace)⟩

/-- The braces of a body close, but no end of a line shows it: the body stands on one line, or another
block is opened behind it. A call on the next line is then still counted for the subroutine. -/
theorem closed_not_over :
    let s : Settings := ⟨true, .braceDepth⟩
    (BracesClose ["sub foo".toList] "\x7b bar(); \x7d".toList "foo" "sub foo".toList [] ∧
      (({} : Tally).scanLines s "a.pl"
        ["sub foo".toList, "\x7b bar(); \x7d".toList, "baz();".toList]).calls.find?
          ⟨"foo", "a.pl", "baz"⟩ = some 1 ∧
      ¬s.IsOver "a.pl" ["sub foo".toList, "\x7b bar(); \x7d".toList] "foo") ∧
    BracesClose ["sub foo \x7b".toList] "\x7d \x7b".toList "foo" "sub foo \x7b".toList [] ∧
      (({} : Tally).scanLines s "a.pl"
        ["sub foo \x7b".toList, "\x7d \x7b".toList, "c();".toList]).calls.find?
          ⟨"foo", "a.pl", "c"⟩ = some 1 ∧
      ¬s.IsOver "a.pl" ["sub foo \x7b".toList, "\x7d \x7b".toList] "foo" := by
  intro s
  refine ⟨⟨?_, by decide +kernel, fun hover => ?_⟩, ?_, by decide +kernel, fun hover => ?_⟩
  · exact
      { code := ⟨[], by decide +kernel⟩
        reached := by decide +kernel
        declares := by decide +kernel
        plain := by decide +kernel
        closes :=
          ⟨"\x7b bar(); ".toList, '\x7d', [], by decide +kernel, by decide +kernel, by decide +kernel⟩ }
  · exact absurd (hover {} ["baz();".toList] (by decide +kernel) "baz") (by decide +kernel)
  · exact
      { code := ⟨[], by decide +kernel⟩
        reached := by decide +kernel
        declares := by decide +kernel
        plain := by decide +kernel
        closes := ⟨[], '\x7d', " \x7b".toList, by decide +kernel, by decide +kernel, by decide +kernel⟩ }
  · exact absurd (hover {} ["c();".toList] (by decide +kernel) "c") (by decide +kernel)

end Scan

end PerlCalls

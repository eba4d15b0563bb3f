import Mathlib
import PerlCalls.Perl.Literal
import PerlCalls.Proofs.DeclarationForm
import PerlCalls.Scan.Context

/-! The braces of a declaration.

The depth of a text is what its opening braces outnumber the closing ones by (`depthOf`). The characters of
a declaration, up to its comment, neither hide others nor are hidden (`stripLiterals_append`), and the comment is
removed whole, whatever it holds (`stripLiterals_comment`). So a declaration opens the brace that its form shows,
or none (`DeclarationForm.braceDelta`), and never closes any. Since a line has one depth and declares one name, all
ways to take it apart agree on both (`DeclarationForm.unique`). -/
namespace PerlCalls

namespace Perl

open Text

/-- How many more braces the text opens than it closes. -/
def depthOf (text : List Char) : Int := (text.count '{' : Int) - (text.count '}' : Int)

theorem depthOf_append (a b : List Char) : depthOf (a ++ b) = depthOf a + depthOf b := by
  simp only [depthOf, List.count_append]
  omega

theorem depthOf_of_not_mem {text : List Char} (hopen : '{' ∉ text) (hclose : '}' ∉ text) :
    depthOf text = 0 := by
  rw [depthOf, List.count_eq_zero.mpr hopen, List.count_eq_zero.mpr hclose, sub_self]

/-! ### What literals leave -/

theorem dropEscapes_sublist (cs : List Char) : (dropEscapes cs).Sublist cs := by
  fun_induction dropEscapes cs with
  | case1 c rest h ih => exact (ih.cons_cons _).cons_cons _
  | case2 c rest h ih => exact (ih.cons _).cons _
  | case3 c rest _ ih => exact ih.cons_cons _
  | case4 => exact .slnil

theorem afterQuote?_suffix {quote : Char} {cs beyond : List Char}
    (h : afterQuote? quote cs = some beyond) : beyond <:+ cs := by
  induction cs with
  | nil => cases h
  | cons c rest ih =>
    rw [afterQuote?] at h
    split at h
    · cases h
      exact List.suffix_cons ..
    · exact (ih h).trans (List.suffix_cons ..)

theorem dropStrings_sublist (cs : List Char) : (dropStrings cs).Sublist cs := by
  fun_induction dropStrings cs with
  | case1 => exact .slnil
  | case2 c rest _ beyond h ih => exact (ih.trans (afterQuote?_suffix h).sublist).cons _
  | case3 c rest _ _ ih => exact ih.cons_cons _
  | case4 c rest _ ih => exact ih.cons_cons _

/-- The characters that begin an escape, a string or a comment, or keep a comment from beginning. -/
def hidingMarks : List Char := ['\\', '"', Char.ofNat 0x27, '#', '$']

theorem stripLiterals_nil : stripLiterals [] = [] := by
  simp [stripLiterals, dropEscapes, dropStrings, dropComment]

/-- Any other character at the beginning of a text stays. -/
theorem stripLiterals_cons {c : Char} (h : c ∉ hidingMarks) (rest : List Char) :
    stripLiterals (c :: rest) = c :: stripLiterals rest := by
  simp only [hidingMarks, List.mem_cons, List.not_mem_nil, or_false, not_or] at h
  obtain ⟨hescape, hdouble, hsingle, hhash, hdollar⟩ := h
  have hquote : isQuote c = false := by simp [isQuote, hdouble, hsingle]
  have hescapes : dropEscapes (c :: rest) = c :: dropEscapes rest := by
    cases rest <;> simp [dropEscapes, hescape]
  have hcomment : ∀ cs, dropComment false (c :: cs) = c :: dropComment false cs := by
    intro cs
    have hdollar : (c == '$') = false := by simpa using hdollar
    simp [dropComment, hhash, hdollar]
  rw [stripLiterals, hescapes, dropStrings, if_neg (by simp [hquote]), hcomment, ← stripLiterals]

theorem stripLiterals_append {head : List Char} (h : ∀ c ∈ head, c ∉ hidingMarks) (rest : List Char) :
    stripLiterals (head ++ rest) = head ++ stripLiterals rest := by
  induction head with
  | nil => rfl
  | cons c head ih =>
    rw [List.cons_append, stripLiterals_cons (h c (List.mem_cons_self ..)),
      ih fun d hd => h d (List.mem_cons_of_mem _ hd), List.cons_append]

/-- Of a comment nothing is left but the line feed that ends it. Removing escapes and strings in it first
moves no line feed into it. -/
theorem stripLiterals_comment {comment : List Char}
    (h : atLineEnd (comment.dropWhile (· != '\n')) = true) :
    stripLiterals ('#' :: comment) = [] ∨ stripLiterals ('#' :: comment) = ['\n'] := by
  have hescapes : dropEscapes ('#' :: comment) = '#' :: dropEscapes comment := by
    cases comment <;> simp [dropEscapes]
  have hstrings : ∀ cs, dropStrings ('#' :: cs) = '#' :: dropStrings cs := by
    intro cs
    rw [dropStrings, if_neg (by decide)]
  have hsub := (dropStrings_sublist _).trans (dropEscapes_sublist comment)
  rw [stripLiterals, hescapes, hstrings]
  generalize dropStrings (dropEscapes comment) = left at hsub
  rw [← List.takeWhile_append_dropWhile (p := (· != '\n')) (l := comment)] at hsub
  obtain ⟨before, behind, rfl, hbefore, hbehind⟩ := List.sublist_append_iff.mp hsub
  have hskip : ∀ c ∈ before, (c != '\n') = true := fun c hc =>
    List.mem_takeWhile_imp (p := (· != '\n')) (hbefore.subset hc)
  have hend : behind = [] ∨ behind = ['\n'] := by
    rcases eq_of_atLineEnd h with hnil | hfeed
    · rw [hnil] at hbehind
      exact Or.inl (List.sublist_nil.mp hbehind)
    · rw [hfeed] at hbehind
      exact List.sublist_singleton.mp hbehind
  have hdrop : (before ++ behind).dropWhile (· != '\n') = behind.dropWhile (· != '\n') :=
    List.dropWhile_append_of_pos hskip
  rcases hend with rfl | rfl
  · left
    simp only [dropComment, hdrop]
    rfl
  · right
    simp only [dropComment, hdrop]
    rfl

/-! ### Declarations -/

/-- The characters that matter for the depth of a line. -/
def depthMarks : List Char := '{' :: '}' :: hidingMarks

theorem not_depthMark {p : Char → Bool} (hp : depthMarks.all (fun d => !p d) = true) {c : Char}
    (h : p c = true) : c ∉ depthMarks := fun hc => by
  have hnot := List.all_eq_true.mp hp c hc
  rw [h] at hnot
  cases hnot

theorem not_depthMark_of_isBlank {c : Char} (h : isBlank c = true) : c ∉ depthMarks :=
  not_depthMark (by decide) h

theorem not_depthMark_of_isWord {c : Char} (h : isWord c = true) : c ∉ depthMarks :=
  not_depthMark (by decide) h

/-- Other characters add nothing to the depth. -/
theorem braceDelta_append {head : List Char} (h : ∀ c ∈ head, c ∉ depthMarks) (rest : List Char) :
    braceDelta (head ++ rest) = braceDelta rest := by
  have hopen : '{' ∉ head := fun hc => h _ hc (by decide)
  have hclose : '}' ∉ head := fun hc => h _ hc (by decide)
  have hplain : ∀ c ∈ head, c ∉ hidingMarks := fun c hc hmark =>
    h c hc (List.mem_cons_of_mem _ (List.mem_cons_of_mem _ hmark))
  show depthOf (stripLiterals (head ++ rest)) = depthOf (stripLiterals rest)
  rw [stripLiterals_append hplain, depthOf_append, depthOf_of_not_mem hopen hclose, zero_add]

theorem braceDelta_endsOrComments {rest : List Char} (h : endsOrComments rest = true) :
    braceDelta rest = 0 := by
  unfold endsOrComments at h
  split at h
  · show depthOf (stripLiterals []) = 0
    rw [stripLiterals_nil]
    rfl
  · rename_i comment
    show depthOf (stripLiterals ('#' :: comment)) = 0
    rcases stripLiterals_comment h with hnil | hfeed
    · rw [hnil]
      rfl
    · rw [hfeed]
      rfl
  · cases h

theorem braceDelta_closing {blanks : List Char} (hblanks : ∀ c ∈ blanks, isBlank c = true)
    {comment : Option (List Char)} (hcomment : ∀ text, comment = some text → '\n' ∉ text) (feed : Bool) :
    braceDelta (closing blanks comment feed) = 0 := by
  have hends := endsOrComments_closing hblanks hcomment feed
  rw [← List.takeWhile_append_dropWhile (p := isBlank) (l := closing blanks comment feed),
    braceDelta_append fun c hc => not_depthMark_of_isBlank (List.mem_takeWhile_imp hc),
    braceDelta_endsOrComments hends]

theorem DeclarationEnd.braceDelta (e : DeclarationEnd) :
    braceDelta e.text = if e.brace.isSome then 1 else 0 := by
  rw [e.text_eq]
  cases hbrace : e.brace with
  | none => exact braceDelta_closing e.trail_blank e.comment_line e.feed
  | some blanks =>
    have hopen : ∀ more, Perl.braceDelta ('{' :: more) = 1 + Perl.braceDelta more := by
      intro more
      show depthOf (stripLiterals ('{' :: more)) = 1 + depthOf (stripLiterals more)
      rw [stripLiterals_cons (by decide)]
      exact depthOf_append ['{'] _
    rw [Option.elim_some, braceDelta_append fun c hc => not_depthMark_of_isBlank (e.trail_blank c hc), hopen,
      braceDelta_closing (e.brace_blank blanks hbrace) e.comment_line]
    rfl

/-- A declaration opens the brace that it shows, whatever its comment holds. -/
theorem DeclarationForm.braceDelta (d : DeclarationForm) :
    braceDelta d.text = if d.brace.isSome then 1 else 0 := by
  have hsub : ∀ c ∈ "sub".toList, c ∉ depthMarks := fun c hc =>
    not_depthMark_of_isWord (List.all_eq_true.mp (by decide : "sub".toList.all isWord = true) c hc)
  rw [DeclarationForm.text, braceDelta_append fun c hc => not_depthMark_of_isBlank (d.lead_blank c hc),
    braceDelta_append hsub, braceDelta_append fun c hc => not_depthMark_of_isBlank (d.gap_blank c hc),
    braceDelta_append fun c hc => not_depthMark_of_isWord (d.name_word c hc), DeclarationEnd.braceDelta]

/-- A declaration opens one brace or none. -/
theorem braceDelta_declaration {line : List Char} {name : String} (h : declaration line = some name) :
    braceDelta line = 0 ∨ braceDelta line = 1 := by
  obtain ⟨d, rfl, -⟩ := exists_declarationForm h
  rw [d.braceDelta]
  split
  · exact Or.inr rfl
  · exact Or.inl rfl

/-- The parts of a line tell the name that it declares and whether it opens the body. -/
theorem DeclarationForm.unique {d e : DeclarationForm} (h : d.text = e.text) :
    d.name = e.name ∧ d.brace.isSome = e.brace.isSome := by
  constructor
  · have hname := d.declaration
    rw [h, e.declaration] at hname
    exact (String.ofList_injective (Option.some.inj hname)).symm
  · have hdelta := d.braceDelta
    rw [h, e.braceDelta] at hdelta
    cases hd : d.brace.isSome <;> cases he : e.brace.isSome <;> simp_all

end Perl

namespace Scan

open PerlCalls.Perl

/-- **A declaration is known by its form.** A line declares a name exactly if it is put together as a
declaration of it. Its parts are not determined by the line, but the name is and so is whether the body's brace
is among them. That brace is the only one that counts, whatever stands in the comment, so the depth at which
the body begins needs no bound from below. -/
theorem declaration_forms (line : List Char) :
    (∀ name, declaration line = some name ↔
      ∃ d : DeclarationForm, d.text = line ∧ String.ofList d.name = name) ∧
    (∀ d e : DeclarationForm, d.text = line → e.text = line →
      d.name = e.name ∧ d.brace.isSome = e.brace.isSome) ∧
    ∀ d : DeclarationForm, d.text = line →
      braceDelta line = (if d.brace.isSome then 1 else 0) ∧
      ∀ (c : Context) (name : String), c.enter .braceDepth name line =
        { c with subroutine := name, bodyOpen := d.brace.isSome, depth := braceDelta line } := by
  refine ⟨declaration_eq_some_iff line, fun d e hd he => ?_, fun d hd => ?_⟩
  · exact DeclarationForm.unique (hd.trans he.symm)
  · have hdelta : braceDelta line = if d.brace.isSome then 1 else 0 := hd ▸ d.braceDelta
    refine ⟨hdelta, fun c name => ?_⟩
    rw [Context.enter, hdelta]
    cases d.brace.isSome <;> rfl

-- The comment holds braces, quotes, an escape and a further hash sign.
example : declaration "\tsub f\n\x7b # \x7d \\' \" # \x7d ' \x7b\n".toList = some "f" ∧
    braceDelta "\tsub f\n\x7b # \x7d \\' \" # \x7d ' \x7b\n".toList = 1 := by
  decide +kernel

end Scan

end PerlCalls

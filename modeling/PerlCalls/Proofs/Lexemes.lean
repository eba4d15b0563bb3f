import Mathlib
import PerlCalls.Proofs.DeclarationDepth

/-! The code of a line, found in one pass.

Escapes, strings and the comment are removed from a line one kind after the other, each from all of it.
`lexemes` cuts the line up in one pass instead, from left to right: what comes next is an escape, a string
that is closed later on, the comment, or a character of code. Removing the escapes first only hides the
quotes that are escaped (`afterQuote?_dropEscapes`), and what is removed behind a hash sign does not
matter for the comment that it begins. So on a line without a line feed the code that is left is the same
(`dropComment_lexFrom`). -/
namespace PerlCalls.Perl

/-! ### Lexemes -/

/-- A piece of a line. -/
inductive Lexeme where
  /-- A backslash, and the character that it escapes. -/
  | escape (c : Char)
  /-- A quote, the text up to its partner, and the partner. -/
  | string (quote : Char) (body : List Char)
  /-- A hash sign and all that follows it. -/
  | comment (text : List Char)
  | code (c : Char)
deriving DecidableEq

def Lexeme.text : Lexeme → List Char
  | .escape c => ['\\', c]
  | .string quote body => quote :: (body ++ [quote])
  | .comment text => '#' :: text
  | .code c => [c]

def Lexeme.code? : Lexeme → Option Char
  | .code c => some c
  | _ => none

/-- What stands before the first `quote` that is not escaped, and what behind it. -/
def cutAtQuote? (quote : Char) : List Char → Option (List Char × List Char)
  | [] => none
  | '\\' :: c :: rest => (cutAtQuote? quote rest).map fun cut => ('\\' :: c :: cut.1, cut.2)
  | c :: rest =>
    if c == quote then some ([], rest) else (cutAtQuote? quote rest).map fun cut => (c :: cut.1, cut.2)

/-- The string that a character begins: what it holds, and what stands behind it. -/
def stringAt? (c : Char) (rest : List Char) : Option (List Char × List Char) :=
  if isQuote c then cutAtQuote? c rest else none

theorem eq_of_cutAtQuote? {quote : Char} {cs body beyond : List Char}
    (h : cutAtQuote? quote cs = some (body, beyond)) : cs = body ++ quote :: beyond := by
  fun_induction cutAtQuote? quote cs generalizing body with
  | case1 => cases h
  | case2 c rest ih =>
    obtain ⟨⟨inner, rest'⟩, hcut, hpair⟩ := Option.map_eq_some_iff.mp h
    obtain ⟨rfl, rfl⟩ := Prod.mk.inj hpair
    rw [ih hcut]
    rfl
  | case3 c rest _ hc =>
    obtain ⟨rfl, rfl⟩ := Prod.mk.inj (Option.some.inj h)
    rw [eq_of_beq hc]
    rfl
  | case4 c rest _ _ ih =>
    obtain ⟨⟨inner, rest'⟩, hcut, hpair⟩ := Option.map_eq_some_iff.mp h
    obtain ⟨rfl, rfl⟩ := Prod.mk.inj hpair
    rw [ih hcut]
    rfl

theorem eq_of_stringAt? {c : Char} {rest body beyond : List Char}
    (h : stringAt? c rest = some (body, beyond)) : rest = body ++ c :: beyond := by
  rw [stringAt?] at h
  split at h
  · exact eq_of_cutAtQuote? h
  · cases h

/-- The lexemes of the rest of a line. `last` is the last character of code so far, if there is one. -/
def lexFrom (last : Option Char) (line : List Char) : List Lexeme :=
  match line with
  | [] => []
  | '\\' :: c :: rest => .escape c :: lexFrom last rest
  | c :: rest =>
    match _h : stringAt? c rest with
    | some (body, beyond) => .string c body :: lexFrom last beyond
    | none =>
      if c == '#' && last != some '$' then [.comment rest] else .code c :: lexFrom (some c) rest
termination_by line.length
decreasing_by
  · simp only [List.length_cons]
    omega
  · rw [eq_of_stringAt? _h]
    simp only [List.length_cons, List.length_append]
    omega
  · simp

/-- The lexemes of a line. -/
def lexemes (line : List Char) : List Lexeme := lexFrom none line

/-- Nothing of the line is lost. -/
theorem flatMap_text_lexFrom (last : Option Char) (line : List Char) :
    (lexFrom last line).flatMap Lexeme.text = line := by
  fun_induction lexFrom last line with
  | case1 => rfl
  | case2 last c rest ih => rw [List.flatMap_cons, ih]; rfl
  | case3 last c rest _ body beyond h ih =>
    rw [List.flatMap_cons, ih, eq_of_stringAt? h]
    simp [Lexeme.text]
  | case4 last c rest _ _ hcomment =>
    rw [Bool.and_eq_true, beq_iff_eq] at hcomment
    rw [hcomment.1]
    simp [Lexeme.text]
  | case5 last c rest _ _ _ ih => rw [List.flatMap_cons, ih]; rfl

/-! ### One kind after the other -/

/-- A character that escapes nothing stays. -/
theorem dropEscapes_cons {c : Char} {rest : List Char}
    (h : ∀ d more, c = '\\' → rest = d :: more → False) : dropEscapes (c :: rest) = c :: dropEscapes rest := by
  rw [dropEscapes]
  exact h

/-- Without the escapes, the first quote is the first that was not escaped. -/
theorem afterQuote?_dropEscapes (quote : Char) {cs : List Char} (h : '\n' ∉ cs) :
    afterQuote? quote (dropEscapes cs) = (cutAtQuote? quote cs).map fun cut => dropEscapes cut.2 := by
  fun_induction cutAtQuote? quote cs with
  | case1 => rfl
  | case2 c rest ih =>
    simp only [List.mem_cons, not_or] at h
    have hc : (c == '\n') = false := beq_eq_false_iff_ne.mpr (Ne.symm h.2.1)
    rw [dropEscapes, hc, Option.map_map]
    exact ih h.2.2
  | case3 c rest hescape hc =>
    rw [dropEscapes_cons hescape, afterQuote?, if_pos hc]
    rfl
  | case4 c rest hescape hc ih =>
    rw [dropEscapes_cons hescape, afterQuote?, if_neg hc, ih (List.not_mem_of_not_mem_cons h), Option.map_map]
    rfl

/-- Without the escapes, the strings are those that begin at a quote with a partner that is not escaped. -/
theorem dropStrings_dropEscapes_cons (c : Char) {rest : List Char} (h : '\n' ∉ rest) :
    dropStrings (c :: dropEscapes rest) =
      (stringAt? c rest).elim (c :: dropStrings (dropEscapes rest)) fun cut =>
        dropStrings (dropEscapes cut.2) := by
  have hafter := afterQuote?_dropEscapes c h
  rw [dropStrings, stringAt?]
  by_cases hquote : isQuote c
  · rw [if_pos hquote, if_pos hquote]
    split
    · rename_i beyond hsome
      rw [hafter] at hsome
      obtain ⟨cut, hcut, rfl⟩ := Option.map_eq_some_iff.mp hsome
      rw [hcut]
      rfl
    · rename_i hnone
      rw [hafter, Option.map_eq_none_iff] at hnone
      rw [hnone]
      rfl
  · rw [if_neg hquote, if_neg hquote]
    rfl

/-- On a line without a line feed the comment goes to the end. -/
theorem dropComment_hash {rest : List Char} (h : '\n' ∉ rest) : dropComment false ('#' :: rest) = [] := by
  have hend : rest.dropWhile (· != '\n') = [] :=
    List.dropWhile_eq_nil_iff.mpr fun c hc => bne_iff_ne.mpr fun heq => h (heq ▸ hc)
  simp only [dropComment, hend]
  rfl

/-- What is left when escapes, strings and the comment are removed one after the other is the code that the
one pass finds. The induction follows the pass; the last character of code is what the search for the comment
has seen last. -/
theorem dropComment_lexFrom (last : Option Char) {line : List Char} (h : '\n' ∉ line) :
    dropComment (last == some '$') (dropStrings (dropEscapes line)) =
      (lexFrom last line).filterMap Lexeme.code? := by
  fun_induction lexFrom last line with
  | case1 => simp [dropEscapes, dropStrings, dropComment]
  | case2 last c rest ih =>
    simp only [List.mem_cons, not_or] at h
    have hc : (c == '\n') = false := beq_eq_false_iff_ne.mpr (Ne.symm h.2.1)
    rw [dropEscapes, hc]
    exact ih h.2.2
  | case3 last c rest hescape body beyond hstring ih =>
    have hrest := List.not_mem_of_not_mem_cons h
    have hbeyond : '\n' ∉ beyond := fun hmem => hrest (by
      rw [eq_of_stringAt? hstring]
      exact List.mem_append_right _ (List.mem_cons_of_mem _ hmem))
    rw [dropEscapes_cons hescape, dropStrings_dropEscapes_cons c hrest, hstring, Option.elim_some, ih hbeyond]
    rfl
  | case4 last c rest hescape hstring hcomment =>
    have hrest := List.not_mem_of_not_mem_cons h
    have hleft : '\n' ∉ dropStrings (dropEscapes rest) := fun hmem =>
      hrest (((dropStrings_sublist _).trans (dropEscapes_sublist rest)).subset hmem)
    rw [Bool.and_eq_true, beq_iff_eq, bne, Bool.not_eq_true'] at hcomment
    rw [dropEscapes_cons hescape, dropStrings_dropEscapes_cons c hrest, hstring, Option.elim_none, hcomment.1,
      hcomment.2, dropComment_hash hleft]
    rfl
  | case5 last c rest hescape hstring hcomment ih =>
    have hrest := List.not_mem_of_not_mem_cons h
    rw [bne] at hcomment
    rw [dropEscapes_cons hescape, dropStrings_dropEscapes_cons c hrest, hstring, Option.elim_none, dropComment,
      if_neg hcomment]
    exact congrArg (c :: ·) (ih hrest)

theorem count_filterMap_code? (c : Char) (ls : List Lexeme) :
    (ls.filterMap Lexeme.code?).count c = ls.count (.code c) := by
  induction ls with
  | nil => rfl
  | cons l ls ih =>
    cases l with
    | code d =>
      show (d :: ls.filterMap Lexeme.code?).count c = _
      rw [List.count_cons, List.count_cons, ih]
      simp
    | _ =>
      rw [List.count_cons_of_ne (by simp)]
      exact ih

/-- **The code of a line is what one pass keeps.** On a line without a line feed the lexemes make up the line,
the characters of code among them are what is left when escapes, strings and the comment are removed in turn,
and the depth counts the braces among those. -/
theorem stripLiterals_lexemes {line : List Char} (h : '\n' ∉ line) :
    (lexemes line).flatMap Lexeme.text = line ∧
      stripLiterals line = (lexemes line).filterMap Lexeme.code? ∧
      braceDelta line = ((lexemes line).count (.code '{') : Int) - ((lexemes line).count (.code '}') : Int) := by
  have hcode : stripLiterals line = (lexemes line).filterMap Lexeme.code? := dropComment_lexFrom none h
  refine ⟨flatMap_text_lexFrom none line, hcode, ?_⟩
  show depthOf (stripLiterals line) = _
  rw [hcode, depthOf, count_filterMap_code?, count_filterMap_code?]

/-- A line in which each kind of literal looks like another. -/
theorem stripLiterals_lexemes_mixed :
    let line := "f(\"\\\"\x7d\", '#\x7b') \x7b $#a; # it's \x7d \\".toList
    '\n' ∉ line ∧ stripLiterals line = "f(, ) \x7b $#a; ".toList ∧ braceDelta line = 1 := by
  intro line
  have hline : '\n' ∉ line := by decide
  obtain ⟨-, hcode, hdelta⟩ := stripLiterals_lexemes hline
  refine ⟨hline, ?_, ?_⟩
  · rw [hcode]
    decide +kernel
  · rw [hdelta]
    decide +kernel

end PerlCalls.Perl

import Mathlib
import PerlCalls.Proofs.Tally

/-! What a scan records about names and callers.

A name that a line declares is made of word characters, so it holds no colon, and the last colon of
an identifier is the one that joins file and name (`splitQualified_qualify`). The scope of a line is
the top level or has been declared before it, so every call is made from a subroutine that its own
source defines (`Source.caller_defined`). A tally therefore holds under each key a definition that
belongs there, and one for each caller (`Recorded.scanAll`). -/
namespace PerlCalls

namespace Graph

/-! ### Identifiers -/

/-- A name without a colon. -/
def IsPlain (name : String) : Prop := ':' ∉ name.toList

theorem isPlain_mainScope : IsPlain mainScope := by
  unfold IsPlain mainScope
  decide

theorem splitQualifiedChars_append {file name : List Char} (h : ':' ∉ name) :
    splitQualifiedChars (file ++ ':' :: name) = (file, name) := by
  have hword : ∀ c ∈ name.reverse, (c != ':') = true := by
    intro c hc
    rw [bne_iff_ne]
    rintro rfl
    exact h (List.mem_reverse.mp hc)
  have hback : (file ++ ':' :: name).reverse = name.reverse ++ ':' :: file.reverse := by simp
  simp only [splitQualifiedChars, hback]
  rw [List.takeWhile_append_of_pos hword, List.dropWhile_append_of_pos hword]
  simp

/-- An identifier splits into its file and its name, whatever colons the file holds. -/
theorem splitQualified_qualify (file : String) {name : String} (h : IsPlain name) :
    splitQualified (qualify file name) = (file, name) := by
  have hchars : (qualify file name).toList = file.toList ++ ':' :: name.toList := by
    simp [qualify, String.toList_append]
  simp only [splitQualified, hchars, splitQualifiedChars_append h, String.ofList_toList]

theorem qualify_inj {file file' name name' : String} (h : IsPlain name) (h' : IsPlain name')
    (heq : qualify file name = qualify file' name') : file = file' ∧ name = name' := by
  have hsplit := congrArg splitQualified heq
  rw [splitQualified_qualify file h, splitQualified_qualify file' h'] at hsplit
  exact Prod.mk.inj hsplit

end Graph

namespace Perl

open PerlCalls.Graph

/-- A declared name is made of word characters. -/
theorem isPlain_of_declaration {line : List Char} {name : String}
    (h : declaration line = some name) : IsPlain name := by
  obtain ⟨cs, hcs, rfl⟩ := Option.map_eq_some_iff.mp h
  rw [IsPlain, String.toList_ofList]
  intro hcolon
  unfold declaredName at hcs
  split at hcs
  · cases hcs
  · simp only at hcs
    split at hcs
    · cases hcs
      have hword : Text.isWord ':' = true := List.mem_takeWhile_imp hcolon
      exact absurd hword (by decide)
    · cases hcs

end Perl

namespace Scan

open PerlCalls.Graph PerlCalls.Perl

/-! ### What a line leaves behind -/

namespace Context

variable {extent : BodyExtent} {c : Context} {line : List Char}

theorem declaration_of_role {name : String} (h : c.role line = .declares name) :
    declaration line = some name := by
  unfold role at h
  split_ifs at h
  cases hd : declaration line with
  | none => simp [hd] at h
  | some n =>
    rw [hd] at h
    exact congrArg some (Role.declares.inj h)

/-- Code moves neither to another file nor into another subroutine, except out of one. -/
theorem balance_scope (c : Context) (delta : Int) :
    (c.balance delta).file = c.file ∧
      ((c.balance delta).subroutine = c.subroutine ∨ (c.balance delta).subroutine = mainScope) := by
  unfold balance
  split_ifs
  · exact ⟨rfl, Or.inl rfl⟩
  · simp only
    split_ifs
    · exact ⟨rfl, Or.inl rfl⟩
    · exact ⟨rfl, Or.inr rfl⟩
    · exact ⟨rfl, Or.inl rfl⟩

/-- The scope after a line is the one before it, the top level, or what the line declares. -/
theorem next_scope (extent : BodyExtent) (c : Context) (line : List Char) :
    (c.next extent line).file = c.file ∧
      ((c.next extent line).subroutine = c.subroutine ∨
        (c.next extent line).subroutine = mainScope ∨
        c.role line = .declares (c.next extent line).subroutine) := by
  unfold next
  cases c.role line with
  | declares name => cases extent <;> exact ⟨rfl, Or.inr (Or.inr rfl)⟩
  | code =>
    cases extent with
    | columnZero =>
      simp only
      split_ifs
      · exact ⟨rfl, Or.inr (Or.inl rfl)⟩
      · exact ⟨rfl, Or.inl rfl⟩
    | braceDepth =>
      obtain ⟨hfile, hsame | hmain⟩ := balance_scope c (braceDelta line)
      · exact ⟨hfile, Or.inl hsame⟩
      · exact ⟨hfile, Or.inr (Or.inl hmain)⟩
  | _ => exact ⟨rfl, Or.inl rfl⟩

theorem findings_caller (extent : BodyExtent) (c : Context) (number : Int) (line : List Char) :
    (c.findings extent number line).caller = c.subroutine := by
  unfold findings
  cases c.role line with
  | code =>
    simp only
    split_ifs <;> rfl
  | _ => rfl

/-- A line is a definition exactly if it declares a name, in its file, at its number. -/
theorem findings_definition (extent : BodyExtent) (c : Context) (number : Int) (line : List Char)
    (d : Definition) :
    (c.findings extent number line).definition = some d ↔
      c.role line = .declares d.name ∧ d.file = c.file ∧ d.line = number ∧ d.implicit = false := by
  obtain ⟨name, file, at_, implicit⟩ := d
  unfold findings
  cases c.role line with
  | declares n =>
    simp only [Option.some.injEq, Definition.mk.injEq, Role.declares.injEq]
    tauto
  | code =>
    simp only
    split_ifs <;> simp
  | _ => simp

/-- What the lines of a file declare has a plain name and belongs to the file. -/
theorem run_definition {number : Int} {lines : List (List Char)} {f : Findings} {d : Definition}
    (hf : f ∈ c.run extent number lines) (hd : f.definition = some d) :
    d.file = c.file ∧ IsPlain d.name := by
  induction lines generalizing c number with
  | nil => simp [run] at hf
  | cons line rest ih =>
    rcases List.mem_cons.mp hf with rfl | hf
    · obtain ⟨hrole, hfile, -⟩ := (findings_definition ..).mp hd
      exact ⟨hfile, isPlain_of_declaration (declaration_of_role hrole)⟩
    · obtain ⟨hfile, hplain⟩ := ih hf
      exact ⟨hfile.trans (next_scope extent c line).1, hplain⟩

/-- The caller of a line is the scope at the beginning, the top level, or declared on the way. -/
theorem run_caller {number : Int} {lines : List (List Char)} {f : Findings}
    (hf : f ∈ c.run extent number lines) :
    f.caller = c.subroutine ∨ f.caller = mainScope ∨
      ∃ f' ∈ c.run extent number lines, ∃ d, f'.definition = some d ∧ d.name = f.caller := by
  induction lines generalizing c number with
  | nil => simp [run] at hf
  | cons line rest ih =>
    rcases List.mem_cons.mp hf with rfl | hf
    · exact Or.inl (findings_caller ..)
    · rcases ih hf with hscope | hmain | ⟨f', hf', hd⟩
      · rw [hscope]
        rcases (next_scope extent c line).2 with hsame | hmain | hrole
        · exact Or.inl hsame
        · exact Or.inr (Or.inl hmain)
        · let d : Definition := ⟨(c.next extent line).subroutine, c.file, number, false⟩
          have hd := (findings_definition extent c number line d).mpr ⟨hrole, rfl, rfl, rfl⟩
          exact Or.inr (Or.inr ⟨_, List.mem_cons_self .., d, hd, rfl⟩)
      · exact Or.inr (Or.inl hmain)
      · exact Or.inr (Or.inr ⟨f', List.mem_cons_of_mem _ hf', hd⟩)

end Context

/-! ### What a scan records -/

namespace Source

variable {s : Settings} {source : Source}

theorem definition_site {d : Definition} (h : d ∈ source.definitions s) :
    d.file = source.identity s ∧ IsPlain d.name := by
  rcases List.mem_cons.mp h with rfl | h
  · exact ⟨rfl, isPlain_mainScope⟩
  · obtain ⟨f, hf, hd⟩ := List.mem_filterMap.mp h
    exact Context.run_definition hf hd

/-- Every call is made from a subroutine that the source defines. -/
theorem caller_defined {k : CallKey} (h : k ∈ source.calls s) :
    ∃ d ∈ source.definitions s, d.site = ⟨k.file, k.caller⟩ := by
  obtain ⟨f, hf, hk⟩ := List.mem_flatMap.mp h
  obtain ⟨callee, -, rfl⟩ := List.mem_map.mp hk
  have hmain : ∃ d ∈ source.definitions s, d.name = mainScope := ⟨_, List.mem_cons_self .., rfl⟩
  have hdefined : ∃ d ∈ source.definitions s, d.name = f.caller := by
    rcases Context.run_caller hf with hscope | htop | ⟨f', hf', d, hd, hname⟩
    · rw [hscope]
      exact hmain
    · rw [htop]
      exact hmain
    · exact ⟨d, List.mem_cons_of_mem _ (List.mem_filterMap.mpr ⟨f', hf', hd⟩), hname⟩
  obtain ⟨d, hd, hname⟩ := hdefined
  exact ⟨d, hd, by rw [Definition.site, (definition_site hd).1, hname]⟩

end Source

/-- What a tally holds under a key belongs there, and callers are defined. -/
structure Recorded (t : Tally) : Prop where
  definition : ∀ {site d}, t.definitions.find? site = some d → d.site = site ∧ IsPlain d.name
  caller : ∀ {k n}, t.calls.find? k = some n → ∃ d, t.definitions.find? ⟨k.file, k.caller⟩ = some d

theorem Recorded.scanAll (s : Settings) (sources : List Source) :
    Recorded (Tally.scanAll s sources) where
  definition {site d} h := by
    rw [Tally.definitions_scanAll, Tally.find?_enterDefinitions] at h
    rcases Tally.mem_of_foldl_settle h with hmem | hnone
    · obtain ⟨hd, hsite⟩ := List.mem_filter.mp hmem
      obtain ⟨source, -, hsource⟩ := List.mem_flatMap.mp hd
      exact ⟨of_decide_eq_true hsite, (Source.definition_site hsource).2⟩
    · cases hnone
  caller {k n} h := by
    rw [Tally.calls_scanAll, Tally.find?_enterCalls] at h
    obtain ⟨j, hj, rfl⟩ := (exists_sumOf?_iff ..).mp ⟨n, h⟩
    obtain ⟨source, hsource, hk⟩ := List.mem_flatMap.mp hj
    obtain ⟨d, hd, hsite⟩ := Source.caller_defined hk
    rw [Tally.definitions_scanAll, ← hsite]
    exact Tally.exists_find?_enterDefinitions (List.mem_flatMap.mpr ⟨source, hsource, hd⟩)

end Scan

end PerlCalls

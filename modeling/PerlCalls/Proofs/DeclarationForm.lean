import Mathlib
import PerlCalls.Perl.Line
import PerlCalls.Proofs.Pieces

/-! What a declaration looks like.

A declaration is put together from blanks, the word `sub`, a name and what may follow the name
(`DeclarationForm`). It can be taken apart again because a blank is never a word character, so each part
ends where a character of another kind begins. A line declares a name exactly if it is put together
so (`declaration_eq_some_iff`). -/
namespace PerlCalls

namespace Text

/-! ### Blanks and words -/

theorem ascii_blank_apart :
    (List.range 0x80).all (fun n => !(isBlank (Char.ofNat n) && isWord (Char.ofNat n))) = true := by
  decide +kernel

/-- Checked for each two ranges: one lies below the other. -/
theorem blank_ranges_apart :
    blankRanges.all (fun b => wordRanges.all fun w => Nat.blt b.2 w.1 || Nat.blt w.2 b.1) = true := by
  decide +kernel

/-- No blank is part of a word. -/
theorem not_isWord_of_isBlank {c : Char} (h : isBlank c = true) : isWord c = false := by
  rw [Bool.eq_false_iff]
  intro hword
  by_cases hascii : isAscii c
  · have hc := List.all_eq_true.mp ascii_blank_apart c.toNat
      (List.mem_range.mpr (by simpa [isAscii] using hascii))
    simp [Char.ofNat_toNat, h, hword] at hc
  · simp only [isBlank, isWord, hascii, Bool.false_eq_true, if_false, Ranges.has, List.any_eq_true,
      Bool.and_eq_true, Nat.ble_eq] at h hword
    obtain ⟨b, hb, hlow, hhigh⟩ := h
    obtain ⟨w, hw, hlow', hhigh'⟩ := hword
    have hapart := List.all_eq_true.mp (List.all_eq_true.mp blank_ranges_apart b hb) w hw
    simp only [Bool.or_eq_true, Nat.blt_eq] at hapart
    omega

theorem not_isBlank_of_isWord {c : Char} (h : isWord c = true) : isBlank c = false := by
  rw [Bool.eq_false_iff]
  intro hblank
  rw [not_isWord_of_isBlank hblank] at h
  cases h

end Text

namespace Perl

open Text

/-! ### What may follow the name -/

/-- Blanks, a comment to the end of the line, and a line feed; each may be missing. -/
def closing (blanks : List Char) (comment : Option (List Char)) (feed : Bool) : List Char :=
  blanks ++ comment.elim [] ('#' :: ·) ++ if feed then ['\n'] else []

theorem dropWhile_closing {blanks : List Char} (hblanks : ∀ c ∈ blanks, isBlank c = true)
    (comment : Option (List Char)) (feed : Bool) :
    (closing blanks comment feed).dropWhile isBlank =
      comment.elim [] fun text => '#' :: (text ++ if feed then ['\n'] else []) := by
  rw [closing, List.append_assoc, List.dropWhile_append_of_pos hblanks]
  cases comment with
  | none => cases feed <;> decide
  | some text => exact List.dropWhile_cons_of_neg (by decide)

theorem endsOrComments_closing {blanks : List Char} (hblanks : ∀ c ∈ blanks, isBlank c = true)
    {comment : Option (List Char)} (hcomment : ∀ text, comment = some text → '\n' ∉ text)
    (feed : Bool) : endsOrComments ((closing blanks comment feed).dropWhile isBlank) = true := by
  rw [dropWhile_closing hblanks]
  cases comment with
  | none => rfl
  | some text =>
    have hline : ∀ c ∈ text, (c != '\n') = true := fun c hc =>
      bne_iff_ne.mpr fun h => hcomment text rfl (h ▸ hc)
    show atLineEnd ((text ++ _).dropWhile (· != '\n')) = true
    rw [List.dropWhile_append_of_pos hline]
    cases feed <;> rfl

theorem eq_of_atLineEnd {cs : List Char} (h : atLineEnd cs = true) : cs = [] ∨ cs = ['\n'] := by
  unfold atLineEnd at h
  split at h
  · exact Or.inl rfl
  · exact Or.inr rfl
  · cases h

theorem exists_closing {rest : List Char} (h : endsOrComments (rest.dropWhile isBlank) = true) :
    ∃ blanks comment feed, closing blanks comment feed = rest ∧ (∀ c ∈ blanks, isBlank c = true) ∧
      ∀ text, comment = some text → '\n' ∉ text := by
  have hsplit := List.takeWhile_append_dropWhile (p := isBlank) (l := rest)
  have hblanks : ∀ c ∈ rest.takeWhile isBlank, isBlank c = true := fun c hc => List.mem_takeWhile_imp hc
  unfold endsOrComments at h
  split at h
  · rename_i hnil
    rw [hnil] at hsplit
    exact ⟨_, none, false, by simpa [closing] using hsplit, hblanks, by simp⟩
  · rename_i comment hhash
    rw [hhash, ← List.takeWhile_append_dropWhile (p := (· != '\n')) (l := comment)] at hsplit
    have hline : '\n' ∉ comment.takeWhile (· != '\n') := fun hc =>
      absurd (List.mem_takeWhile_imp hc) (by decide)
    rcases eq_of_atLineEnd h with hend | hend
    · exact ⟨_, some (comment.takeWhile (· != '\n')), false, by simpa [closing, hend] using hsplit, hblanks,
        by simpa using hline⟩
    · exact ⟨_, some (comment.takeWhile (· != '\n')), true, by simpa [closing, hend] using hsplit, hblanks,
        by simpa using hline⟩
  · cases h

/-- What may follow the name that is declared. -/
structure DeclarationEnd where
  trail : List Char
  /-- The blanks behind the opening brace, if there is one. -/
  brace : Option (List Char)
  /-- The text behind the hash sign, if there is one. -/
  comment : Option (List Char)
  /-- Whether a line feed ends the line. -/
  feed : Bool
  trail_blank : ∀ c ∈ trail, isBlank c = true
  brace_blank : ∀ blanks, brace = some blanks → ∀ c ∈ blanks, isBlank c = true
  comment_line : ∀ text, comment = some text → '\n' ∉ text

def DeclarationEnd.text (e : DeclarationEnd) : List Char :=
  e.trail ++ e.brace.elim [] ('{' :: ·) ++ e.comment.elim [] ('#' :: ·) ++ if e.feed then ['\n'] else []

theorem DeclarationEnd.text_eq (e : DeclarationEnd) :
    e.text = e.brace.elim (closing e.trail e.comment e.feed)
      fun blanks => e.trail ++ '{' :: closing blanks e.comment e.feed := by
  rw [text]
  cases e.brace <;> simp [closing]

theorem DeclarationEnd.endsDeclaration (e : DeclarationEnd) : endsDeclaration e.text = true := by
  rw [e.text_eq, Perl.endsDeclaration]
  cases hbrace : e.brace with
  | none =>
    have hends := endsOrComments_closing e.trail_blank e.comment_line e.feed
    rw [Option.elim_none]
    split
    · rename_i hmore
      rw [hmore] at hends
      cases hends
    · exact hends
  | some blanks =>
    have hopen : (e.trail ++ '{' :: closing blanks e.comment e.feed).dropWhile isBlank =
        '{' :: closing blanks e.comment e.feed :=
      (span_append e.trail_blank (by simp; decide)).2
    rw [Option.elim_some, hopen]
    exact endsOrComments_closing (e.brace_blank blanks hbrace) e.comment_line e.feed

theorem exists_declarationEnd {rest : List Char} (h : endsDeclaration rest = true) :
    ∃ e : DeclarationEnd, e.text = rest := by
  have hsplit := List.takeWhile_append_dropWhile (p := isBlank) (l := rest)
  unfold endsDeclaration at h
  split at h
  · rename_i more hmore
    obtain ⟨blanks, comment, feed, rfl, hblanks, hcomment⟩ := exists_closing h
    refine ⟨⟨rest.takeWhile isBlank, some blanks, comment, feed, fun c hc => List.mem_takeWhile_imp hc,
      by simpa using hblanks, hcomment⟩, ?_⟩
    rw [DeclarationEnd.text_eq, Option.elim_some, ← hmore, hsplit]
  · obtain ⟨blanks, comment, feed, rfl, hblanks, hcomment⟩ := exists_closing h
    exact ⟨⟨blanks, none, comment, feed, hblanks, by simp, hcomment⟩, DeclarationEnd.text_eq _⟩

/-! ### The whole line -/

/-- The parts of a line that declares a name. -/
structure DeclarationForm extends DeclarationEnd where
  lead : List Char
  gap : List Char
  name : List Char
  lead_blank : ∀ c ∈ lead, isBlank c = true
  gap_blank : ∀ c ∈ gap, isBlank c = true
  gap_ne_nil : gap ≠ []
  name_word : ∀ c ∈ name, isWord c = true
  name_ne_nil : name ≠ []

def DeclarationForm.text (d : DeclarationForm) : List Char :=
  d.lead ++ ("sub".toList ++ (d.gap ++ (d.name ++ d.toDeclarationEnd.text)))

theorem after?_append (beginning rest : List Char) : after? beginning (beginning ++ rest) = some rest := by
  induction beginning with
  | nil => rfl
  | cons c beginning ih => rw [List.cons_append, after?, if_pos (beq_self_eq_true c), ih]

theorem eq_append_of_after? {beginning line rest : List Char} (h : after? beginning line = some rest) :
    line = beginning ++ rest := by
  induction beginning generalizing line with
  | nil => exact Option.some.inj h
  | cons c beginning ih =>
    cases line with
    | nil => cases h
    | cons d line =>
      rw [after?] at h
      split at h
      · rename_i hc
        rw [ih h, ← eq_of_beq hc]
        rfl
      · cases h

/-- The name ends where its end begins. -/
theorem DeclarationEnd.not_isWord_head (e : DeclarationEnd) {c : Char} (h : e.text.head? = some c) :
    isWord c = false := by
  rw [DeclarationEnd.text] at h
  cases htrail : e.trail with
  | cons b trail =>
    obtain rfl : b = c := by simpa [htrail] using h
    exact not_isWord_of_isBlank (e.trail_blank b (htrail ▸ List.mem_cons_self ..))
  | nil =>
    rw [htrail] at h
    cases hbrace : e.brace with
    | some blanks =>
      obtain rfl : '{' = c := by simpa [hbrace] using h
      decide
    | none =>
      cases hcomment : e.comment with
      | some text =>
        obtain rfl : '#' = c := by simpa [hbrace, hcomment] using h
        decide
      | none =>
        cases hfeed : e.feed with
        | true =>
          obtain rfl : '\n' = c := by simpa [hbrace, hcomment, hfeed] using h
          decide
        | false => simp [hbrace, hcomment, hfeed] at h

theorem DeclarationForm.declaration (d : DeclarationForm) :
    declaration d.text = some (String.ofList d.name) := by
  have hlead : d.text.dropWhile isBlank = "sub".toList ++ (d.gap ++ (d.name ++ d.toDeclarationEnd.text)) :=
    (span_append d.lead_blank fun c hc => by
      obtain rfl : 's' = c := by simpa using hc
      decide).2
  obtain ⟨first, others, hname⟩ := List.exists_cons_of_ne_nil d.name_ne_nil
  have hgap : (d.gap ++ (d.name ++ d.toDeclarationEnd.text)).dropWhile isBlank =
      d.name ++ d.toDeclarationEnd.text :=
    (span_append d.gap_blank fun c hc => by
      obtain rfl : first = c := by simpa [hname] using hc
      exact not_isBlank_of_isWord (d.name_word first (hname ▸ List.mem_cons_self ..))).2
  obtain ⟨htake, hdrop⟩ := span_append d.name_word fun c hc => d.not_isWord_head hc
  have hlength : 0 < d.gap.length := List.length_pos_iff.mpr d.gap_ne_nil
  rw [Perl.declaration, declaredName, hlead, after?_append]
  simp only
  rw [hgap, htake, hdrop, d.endsDeclaration, if_pos]
  · rfl
  · simp [hname, hlength]

theorem exists_declarationForm {line : List Char} {name : String} (h : declaration line = some name) :
    ∃ d : DeclarationForm, d.text = line ∧ String.ofList d.name = name := by
  obtain ⟨word, hword, rfl⟩ := Option.map_eq_some_iff.mp h
  unfold declaredName at hword
  split at hword
  · cases hword
  · rename_i rest hrest
    simp only at hword
    split at hword
    · rename_i hform
      simp only [Bool.and_eq_true, decide_eq_true_eq, Bool.not_eq_true', List.isEmpty_eq_false_iff] at hform
      obtain ⟨⟨hgap, hname⟩, hends⟩ := hform
      obtain ⟨e, he⟩ := exists_declarationEnd hends
      have hblank : ∀ {cs : List Char}, ∀ c ∈ cs.takeWhile isBlank, isBlank c = true := fun c hc =>
        List.mem_takeWhile_imp hc
      have hgap_ne_nil : rest.takeWhile isBlank ≠ [] := by
        intro hnil
        have hsplit := List.takeWhile_append_dropWhile (p := isBlank) (l := rest)
        rw [hnil, List.nil_append] at hsplit
        rw [hsplit] at hgap
        exact lt_irrefl _ hgap
      refine ⟨⟨e, line.takeWhile isBlank, rest.takeWhile isBlank, _, hblank, hblank, hgap_ne_nil,
        fun c hc => List.mem_takeWhile_imp hc, hname⟩, ?_, congrArg String.ofList (Option.some.inj hword)⟩
      rw [DeclarationForm.text, he, List.takeWhile_append_dropWhile, List.takeWhile_append_dropWhile,
        ← eq_append_of_after? hrest, List.takeWhile_append_dropWhile]
    · cases hword

/-- A line declares a name exactly if it has the form of a declaration of that name. -/
theorem declaration_eq_some_iff (line : List Char) (name : String) :
    declaration line = some name ↔ ∃ d : DeclarationForm, d.text = line ∧ String.ofList d.name = name := by
  refine ⟨exists_declarationForm, ?_⟩
  rintro ⟨d, rfl, rfl⟩
  exact d.declaration

end Perl

end PerlCalls

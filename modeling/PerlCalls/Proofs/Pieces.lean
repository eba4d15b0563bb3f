import Mathlib
import PerlCalls.Text.Lines

/-! The pieces of a text that is cut at every separator.

No piece holds the separator, and pieces that hold none are what is left when they are joined and cut
again (`splitOnChar_joinWith`). A beginning or an ending without the separator stays with the first or
the last piece. A text that is cut only once, where a test first fails, has the two parts that the cut
shows (`span_append`). -/
namespace PerlCalls.Text

/-! ### Where a test first fails -/

section Test
variable {p : Char → Bool} {cs : List Char}

theorem dropWhile_eq_self (h : ∀ c, cs.head? = some c → p c = false) : cs.dropWhile p = cs := by
  cases cs with
  | nil => rfl
  | cons c rest => rw [List.dropWhile_cons_of_neg (by simp [h c rfl])]

theorem not_of_head?_dropWhile {c : Char} (h : (cs.dropWhile p).head? = some c) : p c = false := by
  have hhead := List.head?_dropWhile_not p cs
  rwa [h] at hhead

/-- Characters that pass, before one that fails or before nothing, are those up to the first failure. -/
theorem span_append {head rest : List Char} (hhead : ∀ c ∈ head, p c = true)
    (hrest : ∀ c, rest.head? = some c → p c = false) :
    (head ++ rest).takeWhile p = head ∧ (head ++ rest).dropWhile p = rest := by
  have hdrop : (head ++ rest).dropWhile p = rest := by
    rw [List.dropWhile_append_of_pos hhead, dropWhile_eq_self hrest]
  have hwhole := List.takeWhile_append_dropWhile (p := p) (l := head ++ rest)
  rw [hdrop] at hwhole
  exact ⟨List.append_cancel_right hwhole, hdrop⟩

end Test

/-! ### Separators -/

variable {sep : Char} {cs : List Char}

theorem splitOnChar_of_not_mem (h : sep ∉ cs) : splitOnChar sep cs = [cs] := by
  induction cs with
  | nil => rfl
  | cons c rest ih =>
    obtain ⟨hne, hrest⟩ := not_or.mp (mt List.mem_cons.mpr h)
    have hc : (c == sep) = false := beq_eq_false_iff_ne.mpr (Ne.symm hne)
    simp [splitOnChar, hc, ih hrest]

theorem splitOnChar_append (h : sep ∉ cs) (rest : List Char) :
    splitOnChar sep (cs ++ sep :: rest) = cs :: splitOnChar sep rest := by
  induction cs with
  | nil => simp [splitOnChar]
  | cons c cs ih =>
    obtain ⟨hne, hcs⟩ := not_or.mp (mt List.mem_cons.mpr h)
    have hc : (c == sep) = false := beq_eq_false_iff_ne.mpr (Ne.symm hne)
    simp [splitOnChar, hc, ih hcs]

/-- Pieces that are joined by the separator and hold none are cut apart again. -/
theorem splitOnChar_joinWith {pieces : List (List Char)} (hne : pieces ≠ [])
    (h : ∀ piece ∈ pieces, sep ∉ piece) : splitOnChar sep (joinWith [sep] pieces) = pieces := by
  induction pieces with
  | nil => exact absurd rfl hne
  | cons piece rest ih =>
    have hpiece := h piece (List.mem_cons_self ..)
    have hrest := fun l hl => h l (List.mem_cons_of_mem piece hl)
    cases rest with
    | nil => exact splitOnChar_of_not_mem hpiece
    | cons next rest =>
      rw [joinWith, List.append_assoc, List.singleton_append, splitOnChar_append hpiece,
        ih (List.cons_ne_nil next rest) hrest]

/-- One character in front begins a new piece, or is the beginning of the first. -/
theorem splitOnChar_cons (sep c : Char) (cs : List Char) :
    (c = sep ∧ splitOnChar sep (c :: cs) = [] :: splitOnChar sep cs) ∨
      (c ≠ sep ∧ ∃ first pieces, splitOnChar sep cs = first :: pieces ∧
        splitOnChar sep (c :: cs) = (c :: first) :: pieces) := by
  obtain ⟨first, pieces, hsplit⟩ := List.exists_cons_of_ne_nil (splitOnChar_ne_nil sep cs)
  rw [splitOnChar]
  by_cases hc : c = sep
  · exact Or.inl ⟨hc, by rw [if_pos (beq_iff_eq.mpr hc)]⟩
  · refine Or.inr ⟨hc, first, pieces, hsplit, ?_⟩
    rw [if_neg (mt beq_iff_eq.mp hc), hsplit]

theorem not_mem_of_mem_splitOnChar {piece : List Char} (h : piece ∈ splitOnChar sep cs) :
    sep ∉ piece := by
  induction cs generalizing piece with
  | nil =>
    rw [splitOnChar, List.mem_singleton] at h
    rw [h]
    exact List.not_mem_nil
  | cons c rest ih =>
    rcases splitOnChar_cons sep c rest with ⟨-, hsplit⟩ | ⟨hc, first, pieces, hrest, hsplit⟩
    · rw [hsplit] at h
      rcases List.mem_cons.mp h with rfl | hpiece
      · exact List.not_mem_nil
      · exact ih hpiece
    · rw [hsplit] at h
      rcases List.mem_cons.mp h with rfl | hpiece
      · have hfirst : sep ∉ first := ih (hrest ▸ List.mem_cons_self ..)
        exact List.not_mem_cons_of_ne_of_not_mem (Ne.symm hc) hfirst
      · exact ih (hrest ▸ List.mem_cons_of_mem first hpiece)

/-- An ending without the separator is the ending of the last piece. -/
theorem splitOnChar_ends {ending : List Char} (hsep : sep ∉ ending) (h : ending <:+ cs) :
    ∃ pieces last, splitOnChar sep cs = pieces ++ [last] ∧ ending <:+ last := by
  obtain ⟨front, rfl⟩ := h
  induction front with
  | nil => exact ⟨[], ending, splitOnChar_of_not_mem hsep, List.suffix_refl ending⟩
  | cons c front ih =>
    obtain ⟨pieces, last, hpieces, hlast⟩ := ih
    rw [List.cons_append]
    rcases splitOnChar_cons sep c (front ++ ending) with ⟨-, hsplit⟩ | ⟨-, first, rest, hrest, hsplit⟩
    · exact ⟨[] :: pieces, last, by rw [hsplit, hpieces]; rfl, hlast⟩
    · rw [hpieces] at hrest
      cases pieces with
      | nil =>
        obtain ⟨rfl, rfl⟩ := List.cons.inj hrest
        exact ⟨[], c :: last, hsplit, hlast.trans (List.suffix_cons c last)⟩
      | cons piece pieces =>
        obtain ⟨rfl, rfl⟩ := List.cons.inj hrest
        exact ⟨(c :: piece) :: pieces, last, hsplit, hlast⟩

theorem joinWith_eq_intercalate (sep : List Char) (pieces : List (List Char)) :
    joinWith sep pieces = sep.intercalate pieces := by
  induction pieces with
  | nil => rfl
  | cons piece rest ih =>
    cases rest with
    | nil => simp [joinWith, List.intercalate]
    | cons next rest =>
      rw [joinWith, ih]
      simp [List.intercalate]

theorem joinWith_concat_ends (sep : List Char) (pieces : List (List Char)) (last : List Char) :
    last <:+ joinWith sep (pieces ++ [last]) := by
  induction pieces with
  | nil => exact List.suffix_refl last
  | cons piece rest ih =>
    obtain ⟨next, more, hrest⟩ := List.exists_cons_of_ne_nil (List.append_ne_nil_of_right_ne_nil rest
      (List.cons_ne_nil last []))
    rw [List.cons_append, hrest, joinWith, ← hrest]
    exact ih.trans (List.suffix_append ..)

end PerlCalls.Text

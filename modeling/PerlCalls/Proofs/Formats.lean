import Mathlib
import PerlCalls.Proofs.LowerCase
import PerlCalls.Proofs.Pieces
import PerlCalls.Run.Settings

/-! Formats, normalised once and again.

White space around a format goes first and the dots before it last. What is left is in lower case, does
not begin with a dot and does not end in white space (`IsTidied`), but it may begin with the white space
that stood behind the dots, or be nothing at all. Normalised again it then loses the white space, or is
dropped; all other formats stay as they are (`normalFormats_eq_self_iff`). -/
namespace PerlCalls

/-! ### Trimming -/

namespace Text

theorem not_blank_of_getLast?_trim {cs : List Char} {c : Char} (h : (trim cs).getLast? = some c) :
    isBlank c = false := by
  rw [trim, trimOf, List.getLast?_reverse] at h
  exact not_of_head?_dropWhile h

theorem trim_eq_self {cs : List Char} (hhead : ∀ c, cs.head? = some c → isBlank c = false)
    (hlast : ∀ c, cs.getLast? = some c → isBlank c = false) : trim cs = cs := by
  rw [trim, trimOf, dropWhile_eq_self hhead, dropWhile_eq_self, List.reverse_reverse]
  intro c hc
  exact hlast c (by rwa [List.head?_reverse] at hc)

theorem trim_sublist (cs : List Char) : (trim cs).Sublist cs := by
  have hend := (List.dropWhile_sublist isBlank (l := (cs.dropWhile isBlank).reverse)).reverse
  rw [List.reverse_reverse] at hend
  exact hend.trans (List.dropWhile_sublist isBlank)

theorem trim_cons_blank {c : Char} (h : isBlank c = true) (rest : List Char) :
    trim (c :: rest) = trim rest := by
  rw [trim, trimOf, List.dropWhile_cons_of_pos h, ← trimOf, ← trim]

end Text

namespace Run

open Text

/-! ### One format -/

/-- What normalising leaves of a format. -/
structure IsTidied (f : String) : Prop where
  lower_eq : lower f.toList = f.toList
  head_ne_dot : f.toList.head? ≠ some '.'
  last_visible : ∀ c, f.toList.getLast? = some c → isBlank c = false

theorem isTidied_of_normalFormat {s f : String} (h : normalFormat s = some f) : IsTidied f := by
  rw [normalFormat] at h
  split at h
  · cases h
  · rename_i hne
    obtain rfl := Option.some.inj h
    have hsuffix := List.dropWhile_suffix (· == '.') (l := lower (trim s.toList))
    refine ⟨?_, fun hdot => ?_, fun c hc => ?_⟩
    · rw [String.toList_ofList]
      exact lower_eq_self _ hsuffix.sublist
    · rw [String.toList_ofList] at hdot
      exact absurd (not_of_head?_dropWhile hdot) (by decide)
    · -- Only the beginning is lost with the dots, so the last character is that of the trimmed text.
      rw [String.toList_ofList] at hc
      obtain ⟨last, hlast⟩ := Option.ne_none_iff_exists'.mp
        (mt List.getLast?_eq_none_iff.mp (mt List.isEmpty_iff.mpr hne))
      obtain ⟨d, hd, hink⟩ := getLast?_lowerFrom [] hlast (not_blank_of_getLast?_trim hlast)
      obtain ⟨dots, hdots⟩ := hsuffix
      have hsame : (lower (trim s.toList)).getLast? = some c := by
        rw [← hdots, List.getLast?_append, hc]
        rfl
      obtain rfl : d = c := Option.some.inj (hd.symm.trans hsame)
      exact hink

/-- Something other than white space stands at the beginning. -/
def beginsVisibly (s : String) : Bool := s.toList.head?.any (fun c => !isBlank c)

theorem normalFormat_of_visible {f : String} (h : IsTidied f) (hvisible : beginsVisibly f = true) :
    normalFormat f = some f := by
  obtain ⟨c, hc, hink⟩ := (Option.any_eq_true ..).mp hvisible
  have hhead : ∀ d, f.toList.head? = some d → isBlank d = false := by
    intro d hd
    obtain rfl := Option.some.inj (hc.symm.trans hd)
    simpa using hink
  have hdots : f.toList.dropWhile (· == '.') = f.toList := by
    refine dropWhile_eq_self fun d hd => beq_eq_false_iff_ne.mpr ?_
    rintro rfl
    exact h.head_ne_dot hd
  have hne : f.toList.isEmpty = false := by
    cases hcs : f.toList <;> simp_all
  rw [normalFormat, trim_eq_self hhead h.last_visible, h.lower_eq, hdots, String.ofList_toList, hne]
  rfl

/-- An empty format is dropped, and one that begins with white space gets shorter. -/
theorem normalFormat_of_not_visible {f : String} (h : IsTidied f) (hvisible : beginsVisibly f = false) :
    normalFormat f ≠ some f := by
  intro hself
  rw [normalFormat] at hself
  split at hself
  · cases hself
  rename_i hne
  cases hcs : f.toList with
  | nil => exact hne (by rw [hcs]; rfl)
  | cons c rest =>
    have hblank : isBlank c = true := by simpa [beginsVisibly, hcs] using hvisible
    have htrim : trim f.toList = trim rest := by rw [hcs, trim_cons_blank hblank]
    have hlower : lower (trim f.toList) = trim f.toList :=
      lower_eq_self f.toList (h.lower_eq.symm ▸ trim_sublist f.toList)
    have hlength := congrArg (fun g : String => g.toList.length) (Option.some.inj hself)
    rw [hlower, htrim, String.toList_ofList, hcs] at hlength
    have hdots := (List.dropWhile_sublist (· == '.') (l := trim rest)).length_le
    have hrest := (trim_sublist rest).length_le
    simp only [List.length_cons] at hlength
    omega

theorem normalFormat_eq_self_iff {f : String} (h : IsTidied f) :
    normalFormat f = some f ↔ beginsVisibly f = true := by
  constructor
  · intro hself
    by_contra hvisible
    exact normalFormat_of_not_visible h (by simpa using hvisible) hself
  · exact normalFormat_of_visible h

/-! ### All formats -/

theorem normalFormat_dot : normalFormat "dot" = some "dot" := by decide +kernel

theorem isTidied_of_mem {formats : List String} {f : String} (h : f ∈ normalFormats formats) :
    IsTidied f := by
  rw [normalFormats] at h
  split at h
  · rw [List.mem_singleton.mp h]
    exact isTidied_of_normalFormat normalFormat_dot
  · obtain ⟨s, -, hs⟩ := List.mem_filterMap.mp h
    exact isTidied_of_normalFormat hs

theorem normalFormats_ne_nil (formats : List String) : normalFormats formats ≠ [] := by
  rw [normalFormats]
  split
  · exact List.cons_ne_nil _ _
  · rename_i hne
    exact hne

/-- Formats that have been normalised stay as they are exactly if all of them begin visibly. -/
theorem normalFormats_eq_self_iff (given : List String) :
    normalFormats (normalFormats given) = normalFormats given ↔
      ∀ f ∈ normalFormats given, beginsVisibly f = true := by
  have hfixed : (∀ f ∈ normalFormats given, beginsVisibly f = true) ↔
      (normalFormats given).filterMap normalFormat = normalFormats given := by
    have hmap := List.filterMap_eq_map_iff_forall_eq_some (f := normalFormat) (g := id)
      (l := normalFormats given)
    rw [List.map_id] at hmap
    rw [hmap]
    exact forall₂_congr fun f hf => (normalFormat_eq_self_iff (isTidied_of_mem hf)).symm
  rw [hfixed]
  have hne := normalFormats_ne_nil given
  generalize normalFormats given = formats at hne ⊢
  rw [normalFormats]
  cases hkept : formats.filterMap normalFormat with
  | cons f rest => rfl
  | nil =>
    refine iff_of_false (fun hdefault => ?_) hne.symm
    rw [← hdefault, List.filterMap_cons_some normalFormat_dot] at hkept
    cases hkept

end Run

end PerlCalls

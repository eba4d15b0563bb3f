import Mathlib
import PerlCalls.Text.Blank
import PerlCalls.Text.Case

/-! Lower case, once and for all.

A run of upper-case letters goes down to code points that no run has, its own included
(`no_run_has_target`), so a lower-cased character stays what it is (`lowerChar_settles`). The rules for
a sigma and for a dotted I lead to such characters as well. Lower-casing therefore leaves its own results
alone, and every part of them (`lower_eq_self`). It also makes no blank of anything else. -/
namespace PerlCalls.Text

/-! ### Runs -/

namespace CaseRun

/-- The code points of a run. -/
def points (r : CaseRun) : List Nat :=
  (List.range ((r.last - r.first) / r.step + 1)).map (fun i => r.first + r.step * i)

/-- Where a code point goes. -/
def target (r : CaseRun) (n : Nat) : Nat := ((n : Int) + r.shift).toNat

theorem mem_points {r : CaseRun} {n : Nat} (h : r.has n = true) : n ∈ r.points := by
  simp only [has, Bool.and_eq_true, decide_eq_true_eq, beq_iff_eq] at h
  obtain ⟨⟨hfirst, hlast⟩, hstep⟩ := h
  have hcount : (n - r.first) / r.step ≤ (r.last - r.first) / r.step :=
    Nat.div_le_div_right (by omega)
  have hn : r.step * ((n - r.first) / r.step) = n - r.first :=
    Nat.mul_div_cancel' (Nat.dvd_of_mod_eq_zero hstep)
  exact List.mem_map.mpr ⟨(n - r.first) / r.step, List.mem_range.mpr (by omega), by omega⟩

/-- No code point of the first run goes to one of the second: they lie on one side of it, or miss it one
by one. -/
def avoids (r r' : CaseRun) : Bool :=
  Nat.ble (r.target r.last + 1) r'.first || Nat.ble (r'.last + 1) (r.target r.first) ||
    r.points.all (fun n => !r'.has (r.target n))

theorem has_target_of_avoids {r r' : CaseRun} (h : r.avoids r' = true) {n : Nat}
    (hn : r.has n = true) : r'.has (r.target n) = false := by
  have hpoint := mem_points hn
  simp only [has, Bool.and_eq_true, decide_eq_true_eq] at hn
  have hfirst : r.target r.first ≤ r.target n := Int.toNat_le_toNat (by omega)
  have hlast : r.target n ≤ r.target r.last := Int.toNat_le_toNat (by omega)
  simp only [avoids, Bool.or_eq_true, Nat.ble_eq] at h
  rcases h with (hbelow | habove) | hmissed
  · have hlow : ¬ r'.first ≤ r.target n := by omega
    simp [has, hlow]
  · have hhigh : ¬ r.target n ≤ r'.last := by omega
    simp [has, hhigh]
  · simpa using List.all_eq_true.mp hmissed n hpoint

end CaseRun

/-- Checked for each two runs, since most of them lie far apart. -/
theorem runs_avoid : caseRuns.all (fun r => caseRuns.all r.avoids) = true := by decide +kernel

theorem no_run_has_target {r : CaseRun} (hr : r ∈ caseRuns) {n : Nat} (hn : r.has n = true) :
    caseRuns.find? (·.has (r.target n)) = none := by
  refine List.find?_eq_none.mpr fun r' hr' => ?_
  have havoids := List.all_eq_true.mp (List.all_eq_true.mp runs_avoid r hr) r' hr'
  simp [CaseRun.has_target_of_avoids havoids hn]

/-- All targets are characters, none of them a blank or an upper-case letter of ASCII. -/
theorem targets_sound : caseRuns.all (fun r => r.points.all (fun n =>
    let c := Char.ofNat (r.target n)
    c.toNat == r.target n && !isBlank c && !('A' ≤ c && c ≤ 'Z'))) = true := by
  decide +kernel

/-! ### Characters -/

theorem ascii_lowered : (List.range 0x80).all (fun n =>
    let c := Char.ofNat n
    lowerChar (lowerChar c) == lowerChar c && (isBlank c || !isBlank (lowerChar c))) = true := by
  decide +kernel

/-- Lower-casing a character settles it, and does not make it a blank. -/
theorem lowerChar_settles (c : Char) :
    lowerChar (lowerChar c) = lowerChar c ∧ (isBlank c = false → isBlank (lowerChar c) = false) := by
  by_cases hascii : isAscii c
  · have hc := List.all_eq_true.mp ascii_lowered c.toNat
      (List.mem_range.mpr (by simpa [isAscii] using hascii))
    simp only [Char.ofNat_toNat, Bool.and_eq_true, beq_iff_eq, Bool.or_eq_true, Bool.not_eq_true'] at hc
    exact ⟨hc.1, fun hink => hc.2.resolve_left (by simp [hink])⟩
  · cases hfound : caseRuns.find? (·.has c.toNat) with
    | none =>
      have hself : lowerChar c = c := by simp [lowerChar, hascii, hfound]
      rw [hself]
      exact ⟨hself, id⟩
    | some r =>
      have hr := List.mem_of_find?_eq_some hfound
      have hn := List.find?_some (p := fun r : CaseRun => r.has c.toNat) hfound
      have hlow : lowerChar c = Char.ofNat (r.target c.toNat) := by
        simp [lowerChar, hascii, hfound, CaseRun.target]
      have hsound := List.all_eq_true.mp (List.all_eq_true.mp targets_sound r hr) _ (CaseRun.mem_points hn)
      simp only [Bool.and_eq_true, beq_iff_eq, Bool.not_eq_true'] at hsound
      obtain ⟨⟨hcode, hink⟩, hupper⟩ := hsound
      rw [hlow]
      refine ⟨?_, fun _ => hink⟩
      rw [lowerChar, hcode, no_run_has_target hr hn, hupper]
      simp

/-! ### Texts -/

/-- What becomes of one character of a text. -/
def lowered (before : List Char) (c : Char) (rest : List Char) : List Char :=
  if c.toNat == 0x3A3 then
    if meetsCased before && !meetsCased rest then [Char.ofNat 0x3C2] else [Char.ofNat 0x3C3]
  else if c.toNat == 0x130 then ['i', Char.ofNat 0x307]
  else [lowerChar c]

theorem lowerFrom_cons (before : List Char) (c : Char) (rest : List Char) :
    lowerFrom before (c :: rest) = lowered before c rest ++ lowerFrom (c :: before) rest := rfl

/-- What the rules for single characters of a text lead to. -/
def specialForms : List (List Char) := [[Char.ofNat 0x3C2], [Char.ofNat 0x3C3], ['i', Char.ofNat 0x307]]

theorem specialForms_lowered {form : List Char} (h : form ∈ specialForms) :
    form ≠ [] ∧ ∀ d ∈ form, lowerChar d = d ∧ isBlank d = false := by
  have hall : specialForms.all (fun form =>
      !form.isEmpty && form.all (fun d => lowerChar d == d && !isBlank d)) = true := by
    decide +kernel
  simpa using List.all_eq_true.mp hall form h

/-- The two characters with rules of their own are among those that lower-casing moves. -/
theorem lowered_cases (before : List Char) (c : Char) (rest : List Char) :
    lowered before c rest = [lowerChar c] ∨
      (lowerChar c ≠ c ∧ lowered before c rest ∈ specialForms) := by
  have hmoved : ∀ n ∈ [0x3A3, 0x130], lowerChar (Char.ofNat n) ≠ Char.ofNat n := by decide +kernel
  have hchar : ∀ n, c.toNat = n → c = Char.ofNat n := by
    rintro n rfl
    exact (Char.ofNat_toNat c).symm
  rw [lowered]
  by_cases hsigma : c.toNat = 0x3A3
  · refine Or.inr ⟨by rw [hchar _ hsigma]; exact hmoved _ (by simp), ?_⟩
    rw [if_pos (beq_iff_eq.mpr hsigma)]
    split <;> simp [specialForms]
  · by_cases hdotted : c.toNat = 0x130
    · refine Or.inr ⟨by rw [hchar _ hdotted]; exact hmoved _ (by simp), ?_⟩
      simp [hdotted, specialForms]
    · exact Or.inl (by simp [hsigma, hdotted])

theorem lowered_ne_nil (before : List Char) (c : Char) (rest : List Char) :
    lowered before c rest ≠ [] := by
  rcases lowered_cases before c rest with h | ⟨-, h⟩
  · rw [h]
    exact List.cons_ne_nil _ _
  · exact (specialForms_lowered h).1

theorem mem_lowered {before : List Char} {c : Char} {rest : List Char} {d : Char}
    (hd : d ∈ lowered before c rest) :
    lowerChar d = d ∧ (isBlank c = false → isBlank d = false) := by
  rcases lowered_cases before c rest with h | ⟨-, h⟩
  · rw [h, List.mem_singleton] at hd
    rw [hd]
    exact lowerChar_settles c
  · obtain ⟨hself, hink⟩ := (specialForms_lowered h).2 d hd
    exact ⟨hself, fun _ => hink⟩

theorem lowerChar_of_mem_lowerFrom {before cs : List Char} {d : Char} (h : d ∈ lowerFrom before cs) :
    lowerChar d = d := by
  induction cs generalizing before with
  | nil => cases h
  | cons c rest ih =>
    rw [lowerFrom_cons, List.mem_append] at h
    rcases h with h | h
    · exact (mem_lowered h).1
    · exact ih h

theorem lowerFrom_eq_self {before cs : List Char} (h : ∀ c ∈ cs, lowerChar c = c) :
    lowerFrom before cs = cs := by
  induction cs generalizing before with
  | nil => rfl
  | cons c rest ih =>
    have hc := h c (List.mem_cons_self ..)
    have hlow : lowered before c rest = [c] := by
      rcases lowered_cases before c rest with hlow | ⟨hmoved, -⟩
      · rw [hlow, hc]
      · exact absurd hc hmoved
    rw [lowerFrom_cons, hlow, ih fun d hd => h d (List.mem_cons_of_mem c hd)]
    rfl

/-- A text that does not end in a blank does not do so in lower case either. -/
theorem getLast?_lowerFrom (before : List Char) {cs : List Char} {c : Char}
    (hlast : cs.getLast? = some c) (hink : isBlank c = false) :
    ∃ d, (lowerFrom before cs).getLast? = some d ∧ isBlank d = false := by
  induction cs generalizing before with
  | nil => cases hlast
  | cons first rest ih =>
    rw [lowerFrom_cons, List.getLast?_append]
    by_cases hrest : rest = []
    · subst hrest
      obtain rfl : first = c := by simpa using hlast
      obtain ⟨d, hd⟩ := Option.ne_none_iff_exists'.mp
        (mt List.getLast?_eq_none_iff.mp (lowered_ne_nil before first []))
      exact ⟨d, by simp [lowerFrom, hd], (mem_lowered (List.mem_of_getLast? hd)).2 hink⟩
    · obtain ⟨d, hd, hd'⟩ := ih (first :: before)
        (by rw [← hlast, List.getLast?_cons_of_ne_nil hrest])
      exact ⟨d, by rw [hd]; rfl, hd'⟩

/-- Lower-casing leaves its own results alone, and every part of them. -/
theorem lower_eq_self (cs : List Char) {part : List Char} (h : part.Sublist (lower cs)) :
    lower part = part :=
  lowerFrom_eq_self fun _ hd => lowerChar_of_mem_lowerFrom (h.subset hd)

end PerlCalls.Text

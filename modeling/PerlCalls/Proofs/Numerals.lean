import Mathlib
import PerlCalls.Text.Digit

/-! Numbers as they are written: their digits give the number back, in base sixteen and in base ten,
and a whole number is its digits behind its sign. -/
namespace PerlCalls.Text

/-! ### Base sixteen -/

theorem hexValue?_digitChar {d : Nat} (hd : d < 16) : hexValue? d.digitChar = some d := by
  decide +revert

theorem hexNumber_append (cs : List Char) (c : Char) :
    hexNumber (cs ++ [c]) = 16 * hexNumber cs + (hexValue? c).getD 0 := by
  rw [hexNumber, List.foldl_append]
  rfl

theorem hexNumber_toDigits (n : Nat) : hexNumber (Nat.toDigits 16 n) = n := by
  induction n using Nat.strongRecOn with
  | ind n ih =>
    by_cases hsmall : n < 16
    · rw [Nat.toDigits_of_lt_base hsmall, ← List.nil_append [n.digitChar], hexNumber_append,
        hexValue?_digitChar hsmall]
      exact Nat.zero_add n
    · have hle : 16 ≤ n := Nat.le_of_not_lt hsmall
      rw [Nat.toDigits_of_base_le (by decide) hle, hexNumber_append, ih (n / 16) (by omega),
        hexValue?_digitChar (Nat.mod_lt n (by decide))]
      exact Nat.div_add_mod n 16

theorem hexNumber_replicate_zero (k : Nat) (cs : List Char) :
    hexNumber (List.replicate k '0' ++ cs) = hexNumber cs := by
  induction k with
  | zero => rfl
  | succ k ih => exact ih

/-- Four digits are enough for a unit, and no more are written. -/
theorem hexText_unit {n : Nat} (hn : n < 0x10000) :
    ∃ a b c d, hexText 4 n = [a, b, c, d] ∧ hexNumber [a, b, c, d] = n := by
  have hlength : (Nat.toDigits 16 n).length ≤ 4 :=
    (Nat.length_toDigits_le_iff (by decide) (by decide)).mpr hn
  have hfour : (hexText 4 n).length = 4 := by
    rw [hexText, List.length_append, List.length_replicate]
    omega
  obtain ⟨a, b, c, d, htext⟩ := List.length_eq_four.mp hfour
  refine ⟨a, b, c, d, htext, ?_⟩
  rw [← htext, hexText, hexNumber_replicate_zero, hexNumber_toDigits]

/-! ### Base ten -/

theorem decimalValue_toDigits (n : Nat) : decimalValue (Nat.toDigits 10 n) = n :=
  Nat.ofDigitChars_ten_toDigits

theorem toList_toString (n : Int) :
    (toString n).toList = (if 0 ≤ n then [] else ['-']) ++ Nat.toDigits 10 n.natAbs := by
  have hnat : ∀ m : Nat, m.repr.toList = Nat.toDigits 10 m := fun m => String.toList_ofList
  rw [Int.toString_eq_repr, Int.repr_eq_if]
  by_cases hn : 0 ≤ n
  · rw [if_pos hn, if_pos hn, hnat, List.nil_append]
    congr 1
    omega
  · rw [if_neg hn, if_neg hn, String.toList_append, hnat]
    congr 2
    omega

theorem head_toDigits (n : Nat) : ∃ c cs, Nat.toDigits 10 n = c :: cs ∧ isAsciiDigit c = true := by
  obtain ⟨c, cs, hcs⟩ := List.exists_cons_of_ne_nil (@Nat.toDigits_ne_nil n 10)
  have hc : c ∈ Nat.toDigits 10 n := hcs ▸ List.mem_cons_self ..
  exact ⟨c, cs, hcs, Nat.isDigit_of_mem_toDigits (by decide) (by decide) hc⟩

end PerlCalls.Text

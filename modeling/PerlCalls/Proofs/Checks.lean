import Mathlib
import PerlCalls.Input.Check

/-! Checks that succeed.

A computation that may fail succeeds exactly if its steps do. For a record this means that each field has
been taken from its value, or left at what it falls back on (`Taken`), and that there is no field
besides. -/
namespace PerlCalls

section Steps
variable {ε ε' α β : Type} {x : Except ε α}

theorem bind_eq_ok {f : α → Except ε β} {b : β} :
    (x >>= f) = .ok b ↔ ∃ a, x = .ok a ∧ f a = .ok b := by
  cases x <;> simp [bind, Except.bind]

theorem map_eq_ok {f : α → β} {b : β} : x.map f = .ok b ↔ ∃ a, x = .ok a ∧ f a = b := by
  cases x <;> simp [Except.map]

theorem mapError_eq_ok {f : ε → ε'} {a : α} : x.mapError f = .ok a ↔ x = .ok a := by
  cases x <;> simp [Except.mapError]

end Steps

namespace Input

namespace Checked

variable {α β : Type}

theorem both_eq_ok {x : Checked α} {y : Checked β} {p : α × β} :
    x.both y = .ok p ↔ x = .ok p.1 ∧ y = .ok p.2 := by
  cases x <;> cases y <;> simp [both, Prod.ext_iff]

theorem feed_eq_ok {f : Checked (α → β)} {x : Checked α} {b : β} :
    f.feed x = .ok b ↔ ∃ g a, f = .ok g ∧ x = .ok a ∧ g a = b := by
  simp only [feed, map_eq_ok, both_eq_ok, Prod.exists, and_assoc]

theorem within_eq_ok {x : Checked α} {step : Step} {a : α} : x.within step = .ok a ↔ x = .ok a := by
  cases x <;> simp [within]

end Checked

/-- A field with the value that has been read for it, or with the one kept if nothing is given. -/
def Taken {α : Type} (r : Record) (name : String) (read : Value → Checked α) (kept value : α) : Prop :=
  match r.lookup name with
  | some v => read v = .ok value
  | none => value = kept

/-- What holds of all that can be read and of what is kept holds of the value. -/
theorem Taken.elim {α : Type} {r : Record} {name : String} {read : Value → Checked α} {kept value : α}
    {P : α → Prop} (h : Taken r name read kept value) (hread : ∀ v, read v = .ok value → P value)
    (hkept : P kept) : P value := by
  rw [Taken] at h
  split at h
  · exact hread _ h
  · exact h ▸ hkept

theorem optional_eq_ok_iff {α : Type} {r : Record} {name : String} {read : Value → Checked α}
    {kept value : α} : optional r name read kept = .ok value ↔ Taken r name read kept value := by
  rw [optional, Taken]
  cases r.lookup name with
  | none => simp [eq_comm]
  | some v => exact Checked.within_eq_ok

theorem onlyFields_eq_ok_iff {expected : List String} {r : Record} {u : Unit} :
    onlyFields expected r = .ok u ↔ ∀ e ∈ r, e.1 ∈ expected := by
  have hnone : onlyFields expected r = .ok u ↔ r.filter (fun e => !expected.contains e.1) = [] := by
    rw [onlyFields]
    cases r.filter (fun e => !expected.contains e.1) <;> simp
  rw [hnone, List.filter_eq_nil_iff]
  simp

/-- Items that are each read are read together. -/
theorem readItems_eq_ok {α : Type} {read : Value → Checked α} {shown : α → Value} {items : List α}
    (h : ∀ a ∈ items, read (shown a) = .ok a) (i : Nat) :
    readItems read i (items.map shown) = .ok items := by
  induction items generalizing i with
  | nil => rfl
  | cons a rest ih =>
    rw [List.map_cons, readItems, map_eq_ok]
    refine ⟨(a, rest), Checked.both_eq_ok.mpr ⟨Checked.within_eq_ok.mpr ?_, ?_⟩, rfl⟩
    · exact h a (List.mem_cons_self ..)
    · exact ih (fun b hb => h b (List.mem_cons_of_mem a hb)) (i + 1)

end Input

end PerlCalls

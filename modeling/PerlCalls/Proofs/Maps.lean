import Mathlib
import PerlCalls.Data.SortedMap

/-! Laws of sorted maps, and maps that add up amounts.

Maps that agree key by key agree as lists (`entries_map_eq`), and an increasing list is determined by
its members (`eq_of_increase`). Entering amounts one by one leaves under each key the sum of the amounts
entered there (`sumOf?`), and raises the total of the map by each amount (`total_alter`). -/
namespace PerlCalls

theorem compare_eq_lt_iff {a b : String} : compare a b = .lt ↔ a < b :=
  compareOfLessAndEq_eq_lt

namespace SortedMap

variable {κ : Type} [Ord κ] {ν : Type}

/-! ### Keys -/

theorem keys_increase (m : SortedMap κ ν) : m.keys.Pairwise (fun a b => compare a b = .lt) :=
  List.pairwise_map.mpr m.increasing

section Order
variable [Std.TransOrd κ] [Std.LawfulEqOrd κ]

/-- Increasing lists with the same elements are the same list. -/
theorem eq_of_increase {l l' : List κ} (hl : l.Pairwise (fun a b => compare a b = .lt))
    (hl' : l'.Pairwise (fun a b => compare a b = .lt)) (h : ∀ k, k ∈ l ↔ k ∈ l') : l = l' := by
  have hne : ∀ {a b : κ}, compare a b = .lt → a ≠ b := by
    intro a b hab heq
    subst heq
    simp [Std.ReflCmp.compare_self] at hab
  have hperm : l.Perm l' := (List.perm_ext_iff_of_nodup (hl.imp hne) (hl'.imp hne)).mpr h
  refine hperm.eq_of_pairwise (fun a b _ _ hab hba => ?_) hl hl'
  exact absurd rfl (hne (Std.TransCmp.lt_trans hab hba))

theorem mem_keys_iff {m : SortedMap κ ν} {k : κ} : k ∈ m.keys ↔ ∃ v, m.find? k = some v := by
  rw [← contains_iff_mem_keys, contains, Option.isSome_iff_exists]

theorem mem_values_iff {m : SortedMap κ ν} {v : ν} :
    v ∈ m.values ↔ ∃ k, m.find? k = some v := by
  simp only [values, List.mem_map, Prod.exists, exists_eq_right]
  exact exists_congr fun k => mem_entries_iff

/-- Maps that agree key by key on what `f` reads off the values agree as lists on it. -/
theorem entries_map_eq {m m' : SortedMap κ ν} {μ : Type} (f : ν → μ)
    (h : ∀ k, (m.find? k).map f = (m'.find? k).map f) :
    m.entries.map (fun e => (e.1, f e.2)) = m'.entries.map (fun e => (e.1, f e.2)) := by
  have hmaps : m.mapValues f = m'.mapValues f :=
    ext_find? fun k => by rw [find?_mapValues, find?_mapValues, h]
  exact congrArg entries hmaps

/-! ### Maps of sums -/

/-- What the values of a map come to together, each weighed by `ω`. -/
def total (ω : ν → Int) (m : SortedMap κ ν) : Int := (m.values.map ω).sum

/-- Replacing values by ones that weigh `δ` more makes the map weigh `δ` more. -/
theorem total_alter (ω : ν → Int) (m : SortedMap κ ν) (k : κ) (f : Option ν → ν) (δ : Int)
    (hnone : ω (f none) = δ) (hsome : ∀ v, ω (f (some v)) = ω v + δ) :
    (m.alter k f).total ω = m.total ω + δ := by
  show ((alterList k f m.entries).map Prod.snd |>.map ω).sum = (m.entries.map Prod.snd |>.map ω).sum + δ
  induction m.entries with
  | nil => simp [alterList, hnone]
  | cons e rest ih =>
    simp only [alterList]
    cases compare k e.1 with
    | lt =>
      simp only [List.map_cons, List.sum_cons, hnone]
      omega
    | eq =>
      simp only [List.map_cons, List.sum_cons, hsome]
      omega
    | gt =>
      simp only [List.map_cons, List.sum_cons, ih]
      omega

end Order

end SortedMap

namespace SortedSet

variable {κ : Type} [Ord κ] [Std.TransOrd κ] [Std.LawfulEqOrd κ]

omit [Std.TransOrd κ] [Std.LawfulEqOrd κ] in
theorem elems_increase (s : SortedSet κ) : s.elems.Pairwise (fun a b => compare a b = .lt) :=
  SortedMap.keys_increase s

theorem mem_elems_iff {s : SortedSet κ} {k : κ} : k ∈ s.elems ↔ SortedMap.contains s k = true :=
  SortedMap.contains_iff_mem_keys.symm

omit [Std.TransOrd κ] [Std.LawfulEqOrd κ] in
/-- A set is known by its elements in order. -/
theorem elems_inj {s s' : SortedSet κ} (h : s.elems = s'.elems) : s = s' := by
  have hfst : Function.Injective (Prod.fst : κ × Unit → κ) := fun _ _ hkey => Prod.ext hkey rfl
  have hentries : s.entries = s'.entries := hfst.list_map h
  cases s
  cases s'
  exact (SortedMap.mk.injEq ..).mpr hentries

theorem mem_elems_ofList [DecidableEq κ] (ks : List κ) (k : κ) : k ∈ (ofList ks).elems ↔ k ∈ ks := by
  rw [mem_elems_iff, ofList, contains_addAll]
  simp [SortedMap.contains]

theorem ext_contains {s s' : SortedSet κ}
    (h : ∀ k, SortedMap.contains s k = true ↔ SortedMap.contains s' k = true) : s = s' := by
  refine elems_inj (SortedMap.eq_of_increase (elems_increase s) (elems_increase s') fun k => ?_)
  rw [mem_elems_iff, mem_elems_iff, h]

theorem ofList_congr [DecidableEq κ] {ks ks' : List κ} (h : ∀ k, k ∈ ks ↔ k ∈ ks') :
    ofList ks = ofList ks' :=
  ext_contains fun k => by
    rw [← mem_elems_iff, ← mem_elems_iff, mem_elems_ofList, mem_elems_ofList, h]

theorem addAll_of_contains [DecidableEq κ] {s : SortedSet κ} {ks : List κ}
    (h : ∀ k ∈ ks, SortedMap.contains s k = true) : s.addAll ks = s :=
  ext_contains fun k => by
    rw [contains_addAll]
    exact ⟨fun hk => hk.elim (h k) id, Or.inr⟩

end SortedSet

/-! ### Sums over a list -/

/-- The sum of what the members that satisfy `p` weigh; none if there is no such member. -/
def sumOf? {α : Type} (l : List α) (p : α → Prop) [DecidablePred p] (ω : α → Int) : Option Int :=
  if ∃ a ∈ l, p a then some ((l.filter p).map ω).sum else none

section Sum
variable {α : Type} (p : α → Prop) [DecidablePred p] (ω : α → Int)

theorem sumOf?_nil : sumOf? ([] : List α) p ω = none := by simp [sumOf?]

theorem exists_sumOf?_iff {l : List α} : (∃ w, sumOf? l p ω = some w) ↔ ∃ a ∈ l, p a := by
  rw [sumOf?]
  split
  · rename_i h
    exact ⟨fun _ => h, fun _ => ⟨_, rfl⟩⟩
  · rename_i h
    exact ⟨fun ⟨_, hw⟩ => by simp at hw, fun h' => absurd h' h⟩

theorem sumOf?_concat (l : List α) (a : α) :
    sumOf? (l ++ [a]) p ω = if p a then some ((sumOf? l p ω).getD 0 + ω a) else sumOf? l p ω := by
  by_cases ha : p a
  · have hsome : ∃ b ∈ l ++ [a], p b := ⟨a, by simp, ha⟩
    rw [sumOf?, if_pos hsome, if_pos ha, List.filter_append, List.map_append, List.sum_append]
    by_cases hl : ∃ b ∈ l, p b
    · simp [sumOf?, hl, ha]
    · have hnil : l.filter p = [] := List.filter_eq_nil_iff.mpr fun b hb => by
        simpa using fun hp => hl ⟨b, hb, hp⟩
      simp [sumOf?, hl, hnil, ha]
  · simp [sumOf?, ha]

/-- The same sum over what the members are turned into. -/
theorem sumOf?_filterMap {β : Type} (f : β → Option α) (ψ : β → Int)
    (hψ : ∀ b a, f b = some a → ω a = ψ b) {q : β → Prop} [DecidablePred q]
    (hq : ∀ b, q b ↔ ∃ a, f b = some a ∧ p a) (l : List β) :
    sumOf? (l.filterMap f) p ω = sumOf? l q ψ := by
  induction l using List.reverseRecOn with
  | nil => rw [List.filterMap_nil, sumOf?_nil, sumOf?_nil]
  | append_singleton l b ih =>
    rw [List.filterMap_append, sumOf?_concat, ← ih]
    cases hb : f b with
    | none =>
      have hnot : ¬q b := fun h => by simpa [hb] using (hq b).mp h
      simp [hb, hnot]
    | some a =>
      have hiff : q b ↔ p a := by simp [hq, hb]
      rw [List.filterMap_cons, hb, List.filterMap_nil, sumOf?_concat]
      simp only [hiff, hψ b a hb]

theorem sumOf?_perm {l l' : List α} (h : l.Perm l') : sumOf? l p ω = sumOf? l' p ω := by
  have hiff : (∃ a ∈ l, p a) ↔ ∃ a ∈ l', p a :=
    exists_congr fun a => and_congr_left' h.mem_iff
  simp only [sumOf?, hiff, ((h.filter p).map ω).sum_eq]

end Sum

end PerlCalls

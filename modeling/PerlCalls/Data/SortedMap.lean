/-! Finite maps kept as key-sorted entry lists.

A map has one representation: its entries in strictly increasing key order. Two maps with the
same lookups are therefore equal (`SortedMap.ext_find?`), and whatever is read off a map in
order (`keys`, `entries`) is sorted by construction. `alter` is the only operation that adds an
entry; `find?_alter` says what it does to the lookups. -/
namespace PerlCalls

/-- Strictly increasing keys. -/
def KeysIncrease {κ : Type} [Ord κ] {ν : Type} (l : List (κ × ν)) : Prop :=
  l.Pairwise (fun a b => compare a.1 b.1 = .lt)

structure SortedMap (κ : Type) [Ord κ] (ν : Type) where
  entries : List (κ × ν)
  increasing : KeysIncrease entries

/-- A set of keys in increasing order. -/
abbrev SortedSet (κ : Type) [Ord κ] := SortedMap κ Unit

namespace SortedMap

variable {κ : Type} [Ord κ] {ν : Type}

/-- The entry of `k` in a key-sorted list; the search stops at the first larger key. -/
def lookup (k : κ) : List (κ × ν) → Option ν
  | [] => none
  | (k', v) :: rest =>
    match compare k k' with
    | .lt => none
    | .eq => some v
    | .gt => lookup k rest

/-- Replace the value of `k` by `f` of it, or enter `f none` at the place of `k`. -/
def alterList (k : κ) (f : Option ν → ν) : List (κ × ν) → List (κ × ν)
  | [] => [(k, f none)]
  | (k', v) :: rest =>
    match compare k k' with
    | .lt => (k, f none) :: (k', v) :: rest
    | .eq => (k', f (some v)) :: rest
    | .gt => (k', v) :: alterList k f rest

theorem key_of_mem_alterList [Std.LawfulEqOrd κ] {k : κ} {f : Option ν → ν} {e : κ × ν} :
    {l : List (κ × ν)} → e ∈ alterList k f l → e.1 = k ∨ ∃ e' ∈ l, e'.1 = e.1
  | [], h => by
    simp only [alterList, List.mem_singleton] at h
    exact Or.inl (by rw [h])
  | (k', v) :: rest, h => by
    simp only [alterList] at h
    split at h
    · rcases List.mem_cons.mp h with rfl | h
      · exact Or.inl rfl
      · exact Or.inr ⟨e, h, rfl⟩
    · rcases List.mem_cons.mp h with rfl | h
      · exact Or.inr ⟨(k', v), List.mem_cons_self .., rfl⟩
      · exact Or.inr ⟨e, List.mem_cons_of_mem _ h, rfl⟩
    · rcases List.mem_cons.mp h with rfl | h
      · exact Or.inr ⟨(k', v), List.mem_cons_self .., rfl⟩
      · rcases key_of_mem_alterList h with hk | ⟨e', he', hk⟩
        · exact Or.inl hk
        · exact Or.inr ⟨e', List.mem_cons_of_mem _ he', hk⟩

theorem alterList_increase [Std.TransOrd κ] [Std.LawfulEqOrd κ] (k : κ) (f : Option ν → ν) :
    {l : List (κ × ν)} → KeysIncrease l → KeysIncrease (alterList k f l)
  | [], _ => List.pairwise_singleton _ _
  | (k', v) :: rest, h => by
    have hhead := (List.pairwise_cons.mp h).1
    have hrest := (List.pairwise_cons.mp h).2
    simp only [alterList]
    split
    · rename_i hlt
      refine List.pairwise_cons.mpr ⟨fun e he => ?_, h⟩
      rcases List.mem_cons.mp he with rfl | he
      · exact hlt
      · exact Std.TransCmp.lt_trans hlt (hhead e he)
    · exact List.pairwise_cons.mpr ⟨fun e he => hhead e he, hrest⟩
    · rename_i hgt
      refine List.pairwise_cons.mpr ⟨fun e he => ?_, alterList_increase k f hrest⟩
      rcases key_of_mem_alterList he with hk | ⟨e', he', hk⟩
      · rw [show e.1 = k from hk]
        exact Std.OrientedCmp.gt_iff_lt.mp hgt
      · rw [← hk]
        exact hhead e' he'

def empty : SortedMap κ ν := ⟨[], List.Pairwise.nil⟩

instance : Inhabited (SortedMap κ ν) := ⟨empty⟩

def find? (m : SortedMap κ ν) (k : κ) : Option ν := lookup k m.entries

def contains (m : SortedMap κ ν) (k : κ) : Bool := (m.find? k).isSome

def keys (m : SortedMap κ ν) : List κ := m.entries.map Prod.fst

def values (m : SortedMap κ ν) : List ν := m.entries.map Prod.snd

def size (m : SortedMap κ ν) : Nat := m.entries.length

theorem mapValues_increase {μ : Type} {l : List (κ × ν)} (h : KeysIncrease l) (f : ν → μ) :
    KeysIncrease (l.map (fun e => (e.1, f e.2))) :=
  List.pairwise_map.mpr h

/-- The same keys, with `f` of their values. -/
def mapValues {μ : Type} (m : SortedMap κ ν) (f : ν → μ) : SortedMap κ μ :=
  ⟨m.entries.map (fun e => (e.1, f e.2)), mapValues_increase m.increasing f⟩

section Order
variable [Std.TransOrd κ] [Std.LawfulEqOrd κ]

/-- Replace the value of `k` by `f` of what it was. -/
def alter (m : SortedMap κ ν) (k : κ) (f : Option ν → ν) : SortedMap κ ν :=
  ⟨alterList k f m.entries, alterList_increase k f m.increasing⟩

def insert (m : SortedMap κ ν) (k : κ) (v : ν) : SortedMap κ ν := m.alter k (fun _ => v)

/-- Later entries win. -/
def ofList (l : List (κ × ν)) : SortedMap κ ν :=
  l.foldl (fun m e => m.insert e.1 e.2) empty

end Order

/-! ### Lookups -/

@[simp] theorem find?_empty (k : κ) : (empty : SortedMap κ ν).find? k = none := rfl

theorem find?_mapValues {μ : Type} (m : SortedMap κ ν) (f : ν → μ) (k : κ) :
    (m.mapValues f).find? k = (m.find? k).map f := by
  simp only [find?, mapValues]
  induction m.entries with
  | nil => rfl
  | cons e rest ih =>
    simp only [List.map_cons, lookup]
    cases compare k e.1 <;> simp [ih]

section Lookup
variable [Std.TransOrd κ] [Std.LawfulEqOrd κ]

omit [Std.TransOrd κ] in
theorem lookup_alterList_self (k : κ) (f : Option ν → ν) :
    (l : List (κ × ν)) → lookup k (alterList k f l) = some (f (lookup k l))
  | [] => by simp [alterList, lookup, Std.ReflCmp.compare_self]
  | (k', v) :: rest => by
    cases h : compare k k' with
    | lt => simp [alterList, lookup, h, Std.ReflCmp.compare_self]
    | eq => simp [alterList, lookup, h]
    | gt => simp [alterList, lookup, h, lookup_alterList_self k f rest]

theorem lookup_alterList_ne {k j : κ} (f : Option ν → ν) (hne : j ≠ k) :
    (l : List (κ × ν)) → lookup j (alterList k f l) = lookup j l
  | [] => by
    cases h : compare j k with
    | eq => exact absurd (Std.LawfulEqCmp.eq_of_compare h) hne
    | lt => simp [alterList, lookup, h]
    | gt => simp [alterList, lookup, h]
  | (k', v) :: rest => by
    cases h : compare k k' with
    | eq =>
      have hk : k = k' := Std.LawfulEqCmp.eq_of_compare h
      cases hj : compare j k' with
      | eq => exact absurd ((Std.LawfulEqCmp.eq_of_compare hj).trans hk.symm) hne
      | lt => simp [alterList, lookup, h, hj]
      | gt => simp [alterList, lookup, h, hj]
    | gt =>
      cases hj : compare j k' with
      | eq => simp [alterList, lookup, h, hj]
      | lt => simp [alterList, lookup, h, hj]
      | gt => simp [alterList, lookup, h, hj, lookup_alterList_ne f hne rest]
    | lt =>
      cases hj : compare j k with
      | eq => exact absurd (Std.LawfulEqCmp.eq_of_compare hj) hne
      | lt => simp [alterList, lookup, h, hj, Std.TransCmp.lt_trans hj h]
      | gt => simp [alterList, lookup, h, hj]

theorem find?_alter (m : SortedMap κ ν) (k : κ) (f : Option ν → ν) (j : κ) [Decidable (j = k)] :
    (m.alter k f).find? j = if j = k then some (f (m.find? k)) else m.find? j := by
  split
  · rename_i h
    rw [h]
    exact lookup_alterList_self k f m.entries
  · rename_i h
    exact lookup_alterList_ne f h m.entries

theorem find?_insert (m : SortedMap κ ν) (k : κ) (v : ν) (j : κ) [Decidable (j = k)] :
    (m.insert k v).find? j = if j = k then some v else m.find? j :=
  find?_alter m k (fun _ => v) j

/-! ### One representation per map -/

omit [Std.TransOrd κ] [Std.LawfulEqOrd κ] in
theorem lookup_eq_none_of_lt {k : κ} :
    {l : List (κ × ν)} → (∀ e ∈ l, compare k e.1 = .lt) → lookup k l = none
  | [], _ => rfl
  | e :: rest, h => by simp [lookup, h e (List.mem_cons_self ..)]

theorem mem_iff_lookup {k : κ} {v : ν} :
    {l : List (κ × ν)} → KeysIncrease l → ((k, v) ∈ l ↔ lookup k l = some v)
  | [], _ => by simp [lookup]
  | (k', v') :: rest, h => by
    have hhead := (List.pairwise_cons.mp h).1
    have ih := mem_iff_lookup (k := k) (v := v) (List.pairwise_cons.mp h).2
    constructor
    · intro hm
      rcases List.mem_cons.mp hm with heq | hm
      · have h1 : k = k' := congrArg Prod.fst heq
        have h2 : v = v' := congrArg Prod.snd heq
        subst h1 h2
        simp [lookup, Std.ReflCmp.compare_self]
      · have hgt : compare k k' = .gt := Std.OrientedCmp.gt_iff_lt.mpr (hhead _ hm)
        simpa [lookup, hgt] using ih.mp hm
    · intro hl
      cases hc : compare k k' with
      | lt => simp [lookup, hc] at hl
      | eq =>
        have hk : k = k' := Std.LawfulEqCmp.eq_of_compare hc
        have hv : v' = v := by simpa [lookup, hc] using hl
        rw [hk, hv]
        exact List.mem_cons_self ..
      | gt =>
        exact List.mem_cons_of_mem _ (ih.mpr (by simpa [lookup, hc] using hl))

theorem mem_entries_iff {m : SortedMap κ ν} {k : κ} {v : ν} :
    (k, v) ∈ m.entries ↔ m.find? k = some v :=
  mem_iff_lookup m.increasing

theorem eq_of_lookup_eq :
    {l l' : List (κ × ν)} → KeysIncrease l → KeysIncrease l' →
      (∀ k, lookup k l = lookup k l') → l = l'
  | [], [], _, _, _ => rfl
  | [], (k, v) :: rest, _, _, h => by
    have := h k
    simp [lookup, Std.ReflCmp.compare_self] at this
  | (k, v) :: rest, [], _, _, h => by
    have := h k
    simp [lookup, Std.ReflCmp.compare_self] at this
  | (k, v) :: rest, (k', v') :: rest', hl, hl', h => by
    have hhead := (List.pairwise_cons.mp hl).1
    have hhead' := (List.pairwise_cons.mp hl').1
    have hk : k = k' := by
      cases hc : compare k k' with
      | eq => exact Std.LawfulEqCmp.eq_of_compare hc
      | lt =>
        have := h k
        simp [lookup, hc, Std.ReflCmp.compare_self] at this
      | gt =>
        have := h k'
        simp [lookup, Std.OrientedCmp.gt_iff_lt.mp hc, Std.ReflCmp.compare_self] at this
    subst hk
    have hv : v = v' := by
      have := h k
      simpa [lookup, Std.ReflCmp.compare_self] using this
    subst hv
    have hrest : rest = rest' := by
      refine eq_of_lookup_eq (List.pairwise_cons.mp hl).2 (List.pairwise_cons.mp hl').2 (fun j => ?_)
      cases hc : compare j k with
      | gt =>
        have := h j
        simpa [lookup, hc] using this
      | lt =>
        rw [lookup_eq_none_of_lt (fun e he => Std.TransCmp.lt_trans hc (hhead e he)),
          lookup_eq_none_of_lt (fun e he => Std.TransCmp.lt_trans hc (hhead' e he))]
      | eq =>
        have hj : j = k := Std.LawfulEqCmp.eq_of_compare hc
        subst hj
        rw [lookup_eq_none_of_lt hhead, lookup_eq_none_of_lt hhead']
    rw [hrest]

theorem ext_find? {m m' : SortedMap κ ν} (h : ∀ k, m.find? k = m'.find? k) : m = m' := by
  obtain ⟨l, hl⟩ := m
  obtain ⟨l', hl'⟩ := m'
  have := eq_of_lookup_eq hl hl' h
  subst this
  rfl

theorem contains_iff_mem_keys {m : SortedMap κ ν} {k : κ} : m.contains k = true ↔ k ∈ m.keys := by
  simp only [contains, Option.isSome_iff_exists, keys, List.mem_map]
  constructor
  · rintro ⟨v, hv⟩
    exact ⟨(k, v), mem_entries_iff.mpr hv, rfl⟩
  · rintro ⟨⟨j, v⟩, he, rfl⟩
    exact ⟨v, mem_entries_iff.mp he⟩

end Lookup

end SortedMap

namespace SortedSet

variable {κ : Type} [Ord κ] [Std.TransOrd κ] [Std.LawfulEqOrd κ]

def add (s : SortedSet κ) (k : κ) : SortedSet κ := SortedMap.insert s k ()

def addAll (s : SortedSet κ) (ks : List κ) : SortedSet κ := ks.foldl add s

def ofList (ks : List κ) : SortedSet κ := addAll SortedMap.empty ks

/-- The elements in increasing order. -/
def elems (s : SortedSet κ) : List κ := SortedMap.keys s

theorem contains_add (s : SortedSet κ) (k j : κ) [DecidableEq κ] :
    SortedMap.contains (s.add k) j = (decide (j = k) || SortedMap.contains s j) := by
  simp only [SortedMap.contains, add, SortedMap.find?_insert]
  by_cases h : j = k <;> simp [h]

theorem contains_addAll [DecidableEq κ] (s : SortedSet κ) (n : κ) :
    (ks : List κ) →
      (SortedMap.contains (s.addAll ks) n = true ↔ n ∈ ks ∨ SortedMap.contains s n = true)
  | [] => by simp [addAll]
  | k :: ks => by
    have ih := contains_addAll (s.add k) n ks
    simp only [addAll, List.foldl_cons] at ih ⊢
    rw [ih, contains_add]
    simp only [Bool.or_eq_true, decide_eq_true_eq, List.mem_cons]
    constructor
    · rintro (h | h | h)
      · exact Or.inl (Or.inr h)
      · exact Or.inl (Or.inl h)
      · exact Or.inr h
    · rintro ((h | h) | h)
      · exact Or.inr (Or.inl h)
      · exact Or.inl h
      · exact Or.inr (Or.inr h)

end SortedSet

end PerlCalls

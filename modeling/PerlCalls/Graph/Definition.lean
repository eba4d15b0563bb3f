import PerlCalls.Graph.NodeId

/-! What a scan finds, and what a graph is built from: definitions of subroutines and calls by name. -/
namespace PerlCalls.Graph

/-- The scope of code outside every subroutine. -/
def mainScope : String := "main"

/-- A subroutine known by name, in a file, at a line. An implicit one is the scope of a file's
top-level code and stands for no declaration. -/
structure Definition where
  name : String
  file : String
  line : Int
  implicit : Bool := false
deriving DecidableEq

def Definition.id (d : Definition) : NodeId := qualify d.file d.name

/-- So many calls of a name from one subroutine of one file. -/
structure Call where
  caller : String
  file : String
  callee : String
  count : Int := 1
deriving DecidableEq

def Call.callerId (c : Call) : NodeId := qualify c.file c.caller

/-- A call whose callee several files other than the caller's define. -/
structure AmbiguousCall where
  caller : NodeId
  callee : String
  files : List String
deriving DecidableEq

/-! ### Keys in the order of reports -/

/-- A subroutine's place; ordered by file, then by name. -/
structure Site where
  file : String
  name : String
deriving DecidableEq

instance : Ord Site := ⟨compareLex (compareOn Site.file) (compareOn Site.name)⟩

instance : Std.TransOrd Site :=
  inferInstanceAs (Std.TransCmp (compareLex (compareOn Site.file) (compareOn Site.name)))

theorem eq_of_compareLex_compareOn {α β γ : Type} [Ord β] [Ord γ] [Std.LawfulEqOrd β]
    [Std.LawfulEqOrd γ] {f : α → β} {g : α → γ} {a b : α}
    (h : compareLex (compareOn f) (compareOn g) a b = .eq) : f a = f b ∧ g a = g b := by
  simp only [compareLex, compareOn, Ordering.then_eq_eq] at h
  exact ⟨Std.LawfulEqCmp.eq_of_compare h.1, Std.LawfulEqCmp.eq_of_compare h.2⟩

instance : Std.LawfulEqOrd Site where
  compare_self := Std.ReflCmp.compare_self
  eq_of_compare {a b} h := by
    obtain ⟨h1, h2⟩ := eq_of_compareLex_compareOn (f := Site.file) (g := Site.name) h
    cases a
    cases b
    simp_all

/-- An edge of the graph; ordered by caller, then by callee. -/
structure Edge where
  caller : NodeId
  callee : NodeId
deriving DecidableEq

instance : Ord Edge := ⟨compareLex (compareOn Edge.caller) (compareOn Edge.callee)⟩

instance : Std.TransOrd Edge :=
  inferInstanceAs (Std.TransCmp (compareLex (compareOn Edge.caller) (compareOn Edge.callee)))

instance : Std.LawfulEqOrd Edge where
  compare_self := Std.ReflCmp.compare_self
  eq_of_compare {a b} h := by
    obtain ⟨h1, h2⟩ := eq_of_compareLex_compareOn (f := Edge.caller) (g := Edge.callee) h
    cases a
    cases b
    simp_all

/-- Who calls whom from which file; ordered by caller, then file, then callee. -/
structure CallKey where
  caller : String
  file : String
  callee : String
deriving DecidableEq

/-- The caller and the file of a key. -/
def CallKey.scope (k : CallKey) : Site := ⟨k.caller, k.file⟩

instance : Ord CallKey := ⟨compareLex (compareOn CallKey.scope) (compareOn CallKey.callee)⟩

instance : Std.TransOrd CallKey :=
  inferInstanceAs (Std.TransCmp (compareLex (compareOn CallKey.scope) (compareOn CallKey.callee)))

instance : Std.LawfulEqOrd CallKey where
  compare_self := Std.ReflCmp.compare_self
  eq_of_compare {a b} h := by
    obtain ⟨h1, h2⟩ := eq_of_compareLex_compareOn (f := CallKey.scope) (g := CallKey.callee) h
    cases a
    cases b
    simp_all [CallKey.scope]

end PerlCalls.Graph

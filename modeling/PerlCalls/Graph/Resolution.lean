import PerlCalls.Graph.CallGraph

/-! Resolution: every call finds its callee's definition, or is set aside.

A call of a name that no file declares is external. Otherwise a call of an ignored name is dropped.
Otherwise it goes to the caller's own file if that declares the name, to the only file that does,
or, if several others do, to none: it is ambiguous. -/
namespace PerlCalls.Graph

/-- For each declared name the files that declare it. -/
abbrev NameIndex := SortedMap String (SortedSet String)

/-- Implicit definitions are no declarations. -/
def NameIndex.note (index : NameIndex) (d : Definition) : NameIndex :=
  if d.implicit then index
  else index.alter d.name (fun files => (files.getD SortedMap.empty).add d.file)

def NameIndex.ofDefinitions (ds : List Definition) : NameIndex :=
  ds.foldl NameIndex.note SortedMap.empty

def NameIndex.files (index : NameIndex) (name : String) : List String :=
  match index.find? name with
  | some files => files.elems
  | none => []

inductive Verdict where
  | external
  | ignored
  | resolved (file : String)
  | ambiguous (files : List String)
deriving DecidableEq

/-- Where the call of `callee` from `file` goes, if `files` declare the callee. -/
def judge (files : List String) (isIgnored : Bool) (file : String) : Verdict :=
  match files with
  | [] => .external
  | first :: others =>
    if isIgnored then .ignored
    else if (first :: others).contains file then .resolved file
    else if others.isEmpty then .resolved first
    else .ambiguous (first :: others)

def Call.verdict (index : NameIndex) (ignores : String → Bool) (call : Call) : Verdict :=
  judge (index.files call.callee) (ignores call.callee) call.file

/-- Add to a named count. -/
def tallyName (m : SortedMap String Int) (name : String) (count : Int) : SortedMap String Int :=
  m.alter name (fun old => old.getD 0 + count)

/-- All counts together. -/
def totalCount (m : SortedMap String Int) : Int := m.values.foldr (· + ·) 0

/-- Enter a call under its verdict. -/
def CallGraph.enter (g : CallGraph) (call : Call) : Verdict → CallGraph
  | .external => { g with external := tallyName g.external call.callee call.count }
  | .ignored => { g with ignored := tallyName g.ignored call.callee call.count }
  | .resolved file => g.addEdge call.callerId (qualify file call.callee) call.count
  | .ambiguous files =>
    { g with ambiguous := g.ambiguous ++ [⟨call.callerId, call.callee, files⟩] }

def AmbiguousCall.edge (a : AmbiguousCall) : Edge := ⟨a.caller, a.callee⟩

/-- By caller, then by callee. -/
def AmbiguousCall.notAfter (a b : AmbiguousCall) : Bool := (compare a.edge b.edge).isLE

/-- The graph before its ambiguous calls are sorted: they are in the order of the calls. -/
def CallGraph.collect (ignores : String → Bool) (ds : List Definition) (calls : List Call) :
    CallGraph :=
  let index := NameIndex.ofDefinitions ds
  calls.foldl (fun g call => g.enter call (call.verdict index ignores))
    (ds.foldl CallGraph.define {})

def CallGraph.sortAmbiguous (g : CallGraph) : CallGraph :=
  { g with ambiguous := g.ambiguous.mergeSort AmbiguousCall.notAfter }

/-- The call graph of the definitions and calls. -/
def CallGraph.build (ignores : String → Bool) (ds : List Definition) (calls : List Call) :
    CallGraph :=
  (CallGraph.collect ignores ds calls).sortAmbiguous

end PerlCalls.Graph

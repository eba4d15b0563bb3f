import Mathlib
import PerlCalls.Export.Dot
import PerlCalls.Proofs.Pieces

/-! Reading a DOT document back.

`readDot` takes the text of a document line by line: the title bears the name of the graph, a line
that begins with a quoted identifier is a node if a label follows and an edge if an arrow does, and
all other lines say nothing. What an identifier is made of does not matter: between quotes, every
character is read back from what it is written as (`readsBack_escapeIdChar`), and no line end is
left in a line (`Document.lines_unbroken`). So the reader finds in the text of a traversal exactly its
nodes, each with its highlight, and its edges, in order (`readDot_dotText`). -/
namespace PerlCalls.Export

open PerlCalls.Graph
open Text

/-! ### The reader -/

/-- What a drawing shows. -/
structure Plot where
  name : String
  /-- The nodes, and whether each is highlighted. -/
  nodes : List (NodeId × Bool)
  edges : List Edge
deriving DecidableEq

/-- The character that is meant by one behind a backslash. -/
def unescapeChar (c : Char) : Char := if c == 'n' then '\n' else c

/-- The text before the next quote, and what follows the quote. -/
def readQuoted : List Char → Option (List Char × List Char)
  | [] => none
  | '"' :: rest => some ([], rest)
  | ['\\'] => none
  | '\\' :: c :: rest => (readQuoted rest).map (fun p => (unescapeChar c :: p.1, p.2))
  | c :: rest => (readQuoted rest).map (fun p => (c :: p.1, p.2))

/-- A text between quotes, and what follows it. -/
def readString : List Char → Option (List Char × List Char)
  | '"' :: rest => readQuoted rest
  | _ => none

def skipBlanks (cs : List Char) : List Char := cs.dropWhile (· == ' ')

def readTitle (line : List Char) : Option String := do
  let rest ← line.dropPrefix? "digraph ".toList
  let (name, _) ← readString rest
  return String.ofList name

/-- What may follow the label of a node. -/
def readHighlight (cs : List Char) : Option Bool :=
  if cs == "];".toList then some false
  else if cs == ", color = green];".toList then some true
  else none

def readNode (line : List Char) : Option (NodeId × Bool) := do
  let (id, rest) ← readString (skipBlanks line)
  let rest ← (skipBlanks rest).dropPrefix? "[label = ".toList
  let (_, rest) ← readString rest
  let highlight ← readHighlight rest
  return (String.ofList id, highlight)

def readEdge (line : List Char) : Option Edge := do
  let (caller, rest) ← readString (skipBlanks line)
  let rest ← (skipBlanks rest).dropPrefix? "-> ".toList
  let (callee, _) ← readString rest
  return ⟨String.ofList caller, String.ofList callee⟩

/-- What the text of a document shows. -/
def readDot (cs : List Char) : Option Plot := do
  let lines := splitOnChar '\n' cs
  let name ← lines.head?.bind readTitle
  return ⟨name, lines.filterMap readNode, lines.filterMap readEdge⟩

/-! ### Escapes -/

/-- What `f` writes for a character is read as what `g` has for it, and reading goes on behind it. -/
def ReadsBack {β : Type} (read : List Char → Option (List β × List Char)) (f : Char → List Char)
    (g : Char → List β) : Prop :=
  ∀ c rest, read (f c ++ rest) = (read rest).map (fun p => (g c ++ p.1, p.2))

theorem ReadsBack.flatMap {β : Type} {read : List Char → Option (List β × List Char)}
    {f : Char → List Char} {g : Char → List β} (h : ReadsBack read f g) (cs rest : List Char) :
    read (cs.flatMap f ++ rest) = (read rest).map (fun p => (cs.flatMap g ++ p.1, p.2)) := by
  induction cs with
  | nil => simp
  | cons c cs ih =>
    rw [List.flatMap_cons, List.append_assoc, h, ih, Option.map_map]
    simp [Function.comp_def]

theorem readQuoted_plain {c : Char} (hquote : c ≠ '"') (hslash : c ≠ '\\') (rest : List Char) :
    readQuoted (c :: rest) = (readQuoted rest).map (fun p => (c :: p.1, p.2)) := by
  rw [readQuoted]
  · exact hquote
  · exact fun h => absurd h hslash
  · exact fun _ _ h => absurd h hslash

theorem escapeIdChar_cases (c : Char) :
    (c = '\\' ∨ c = '"') ∧ escapeIdChar c = ['\\', c] ∨ c = '\n' ∧ escapeIdChar c = ['\\', 'n'] ∨
      (c ≠ '\\' ∧ c ≠ '"' ∧ c ≠ '\n') ∧ escapeIdChar c = [c] := by
  by_cases hslash : c = '\\'
  · subst hslash
    exact Or.inl ⟨Or.inl rfl, rfl⟩
  · by_cases hquote : c = '"'
    · subst hquote
      exact Or.inl ⟨Or.inr rfl, rfl⟩
    · by_cases hend : c = '\n'
      · subst hend
        exact Or.inr (Or.inl ⟨rfl, rfl⟩)
      · exact Or.inr (Or.inr ⟨⟨hslash, hquote, hend⟩, by simp [escapeIdChar, hslash, hquote, hend]⟩)

theorem readsBack_escapeIdChar : ReadsBack readQuoted escapeIdChar (fun c => [c]) := by
  intro c rest
  rcases escapeIdChar_cases c with ⟨rfl | rfl, h⟩ | ⟨rfl, h⟩ | ⟨⟨hslash, hquote, -⟩, h⟩
  · rw [h]; rfl
  · rw [h]; rfl
  · rw [h]; rfl
  · rw [h]
    exact readQuoted_plain hquote hslash rest

/-- What is written for a character in a record. -/
def recordChar (c : Char) : List Char := (escapeIdChar c).flatMap escapeRecordChar

theorem escapeRecordChars_eq (cs : List Char) : escapeRecordChars cs = cs.flatMap recordChar :=
  List.flatMap_assoc

theorem recordChar_of_plain {c : Char} (h : escapeIdChar c = [c]) :
    recordChar c = if isRecordSpecial c then ['\\', c] else [c] := by
  rw [recordChar, h, List.flatMap_singleton, escapeRecordChar]

/-- The second escape leaves the first one alone, so a record is read like an identifier. -/
theorem readsBack_recordChar : ReadsBack readQuoted recordChar (fun c => [c]) := by
  intro c rest
  rcases escapeIdChar_cases c with ⟨rfl | rfl, -⟩ | ⟨rfl, -⟩ | ⟨⟨hslash, hquote, -⟩, h⟩
  · rfl
  · rfl
  · rfl
  · rw [recordChar_of_plain h]
    cases hspecial : isRecordSpecial c with
    | false => exact readQuoted_plain hquote hslash rest
    | true =>
      have hn : (c == 'n') = false := by
        rw [beq_eq_false_iff_ne]
        rintro rfl
        exact absurd hspecial (by decide)
      show (readQuoted rest).map _ = _
      rw [unescapeChar, hn]
      rfl

theorem readString_quoteId (id : NodeId) (rest : List Char) :
    readString (quoteId id ++ rest) = some (id.toList, rest) := by
  show readQuoted (id.toList.flatMap escapeIdChar ++ ['"'] ++ rest) = _
  rw [List.append_assoc, readsBack_escapeIdChar.flatMap]
  simp [readQuoted]

/-- A record of two fields, up to the quote that ends it. -/
theorem readQuoted_recordLabel (file name rest : List Char) :
    readQuoted (escapeRecordChars file ++ " | ".toList ++ escapeRecordChars name ++ '"' :: rest) =
      some (file ++ " | ".toList ++ name, rest) := by
  have hbar : ∀ cs, readQuoted (" | ".toList ++ cs) =
      (readQuoted cs).map (fun p => (" | ".toList ++ p.1, p.2)) := by
    simp [readQuoted, Function.comp_def]
  rw [escapeRecordChars_eq, escapeRecordChars_eq, List.append_assoc, List.append_assoc,
    readsBack_recordChar.flatMap, hbar, readsBack_recordChar.flatMap]
  simp [readQuoted]

/-- A label ends where it is meant to. -/
theorem readQuoted_nodeLabel (clustered : Bool) (id : NodeId) (rest : List Char) :
    ∃ text, readQuoted (nodeLabel clustered id ++ '"' :: rest) = some (text, rest) := by
  rw [nodeLabel]
  cases clustered with
  | true =>
    rw [if_pos rfl, escapeIdChars, readsBack_escapeIdChar.flatMap]
    exact ⟨_, rfl⟩
  | false =>
    rw [if_neg Bool.false_ne_true]
    exact ⟨_, readQuoted_recordLabel ..⟩

/-! ### Lines of a document -/

theorem skipBlanks_replicate (n : Nat) {c : Char} (hc : (c == ' ') = false) (rest : List Char) :
    skipBlanks (List.replicate n ' ' ++ c :: rest) = c :: rest := by
  rw [skipBlanks, List.dropWhile_append_of_pos (by simp), List.dropWhile_cons_of_neg (by simp [hc])]

/-- A mark behind a blank, at whatever column. -/
theorem skipBlanks_mark (n : Nat) {c : Char} {mark : List Char} (hmark : mark.head? = some c)
    (hc : (c == ' ') = false) (rest : List Char) :
    skipBlanks (List.replicate n ' ' ++ ' ' :: (mark ++ rest)) = mark ++ rest := by
  obtain ⟨tail, rfl⟩ := List.head?_eq_some_iff.mp hmark
  rw [← List.singleton_append, ← List.append_assoc, ← List.replicate_succ', List.cons_append,
    skipBlanks_replicate _ hc]

/-- An identifier that is set in and filled up to a column. -/
theorem readString_column (indent width : Nat) (id : NodeId) (rest : List Char) :
    readString (skipBlanks (List.replicate indent ' ' ++ padRight width (quoteId id) ++ rest)) =
      some (id.toList, List.replicate (width - (quoteId id).length) ' ' ++ rest) := by
  have hquote : quoteId id = '"' :: (escapeIdChars id.toList ++ ['"']) := rfl
  rw [padRight, List.append_assoc, List.append_assoc, hquote, List.cons_append,
    skipBlanks_replicate _ (by decide), ← List.cons_append, ← hquote, readString_quoteId]

/-- A node line behind its identifier. -/
theorem readString_nodeLine (clustered : Bool) (id : NodeId) (isStart : Bool) :
    ∃ n, readString (skipBlanks (nodeLine clustered id isStart)) = some (id.toList,
      List.replicate n ' ' ++ ' ' :: ("[label = ".toList ++ '"' :: (nodeLabel clustered id ++
        '"' :: ((if isStart then ", color = green".toList else []) ++ "];".toList)))) := by
  have hopen : " [label = \"".toList = ' ' :: ("[label = ".toList ++ ['"']) := rfl
  have hclose : "\"".toList = ['"'] := rfl
  refine ⟨nodeColumn - (quoteId id).length, ?_⟩
  rw [nodeLine, hopen, hclose]
  simp only [List.append_assoc, List.cons_append, List.nil_append]
  rw [← List.append_assoc, readString_column]

/-- An edge line behind its first identifier. -/
theorem readString_edgeLine (e : Edge) :
    ∃ n, readString (skipBlanks (edgeLine e)) = some (e.caller.toList,
      List.replicate n ' ' ++ ' ' :: ("-> ".toList ++ (quoteId e.callee ++ ";".toList))) := by
  have hblanks : "    ".toList = List.replicate 4 ' ' := rfl
  have harrow : " -> ".toList = ' ' :: "-> ".toList := rfl
  refine ⟨nodeColumn - (quoteId e.caller).length, ?_⟩
  show readString (skipBlanks ("    ".toList ++ padRight nodeColumn (quoteId e.caller) ++
    " -> ".toList ++ quoteId e.callee ++ ";".toList)) = _
  rw [hblanks, harrow]
  simp only [List.append_assoc, List.cons_append]
  rw [← List.append_assoc, readString_column]

theorem readNode_nodeLine (clustered : Bool) (id : NodeId) (isStart : Bool) :
    readNode (nodeLine clustered id isStart) = some (id, isStart) := by
  have hhighlight : readHighlight ((if isStart then ", color = green".toList else []) ++ "];".toList) =
      some isStart := by
    cases isStart <;> decide
  obtain ⟨text, hlabel⟩ := readQuoted_nodeLabel clustered id
    ((if isStart then ", color = green".toList else []) ++ "];".toList)
  obtain ⟨n, hid⟩ := readString_nodeLine clustered id isStart
  rw [readNode, hid]
  simp only [Option.bind_eq_bind, Option.bind_some]
  rw [skipBlanks_mark _ rfl (by decide), List.dropPrefix?_append_of_beq _ (beq_self_eq_true _)]
  simp only [Option.bind_some, readString]
  rw [hlabel]
  simp only [Option.bind_some]
  rw [hhighlight]
  simp [String.ofList_toList]

theorem readEdge_nodeLine (clustered : Bool) (id : NodeId) (isStart : Bool) :
    readEdge (nodeLine clustered id isStart) = none := by
  obtain ⟨n, hid⟩ := readString_nodeLine clustered id isStart
  rw [readEdge, hid]
  simp only [Option.bind_eq_bind, Option.bind_some]
  rw [skipBlanks_mark _ rfl (by decide)]
  rfl

theorem readEdge_edgeLine (e : Edge) : readEdge (edgeLine e) = some e := by
  obtain ⟨n, hcaller⟩ := readString_edgeLine e
  rw [readEdge, hcaller]
  simp only [Option.bind_eq_bind, Option.bind_some]
  rw [skipBlanks_mark _ rfl (by decide), List.dropPrefix?_append_of_beq _ (beq_self_eq_true _)]
  simp only [Option.bind_some]
  rw [readString_quoteId]
  simp [String.ofList_toList]

theorem readNode_edgeLine (e : Edge) : readNode (edgeLine e) = none := by
  obtain ⟨n, hcaller⟩ := readString_edgeLine e
  rw [readNode, hcaller]
  simp only [Option.bind_eq_bind, Option.bind_some]
  rw [skipBlanks_mark _ rfl (by decide)]
  rfl

/-- The line does not begin with an identifier. -/
def IsMute (line : List Char) : Bool := (skipBlanks line).head? != some '"'

theorem read_of_isMute {line : List Char} (h : IsMute line = true) :
    readNode line = none ∧ readEdge line = none := by
  have hnone : readString (skipBlanks line) = none := by
    rw [IsMute] at h
    cases hline : skipBlanks line with
    | nil => rfl
    | cons c rest =>
      rw [hline] at h
      rw [readString]
      rintro rest' heq
      rw [heq] at h
      simp at h
  rw [readNode, readEdge, hnone]
  exact ⟨rfl, rfl⟩

/-- Mute lines say nothing of nodes and nothing of edges. -/
theorem filterMap_of_isMute {lines : List (List Char)} (h : lines.all IsMute = true) :
    lines.filterMap readNode = [] ∧ lines.filterMap readEdge = [] := by
  have hline := fun line hmem => read_of_isMute (List.all_eq_true.mp h line hmem)
  exact ⟨List.filterMap_eq_nil_iff.mpr fun line hmem => (hline line hmem).1,
    List.filterMap_eq_nil_iff.mpr fun line hmem => (hline line hmem).2⟩

theorem isMute_preamble (name : String) : (preamble name).all IsMute = true := by
  simp [preamble, IsMute, skipBlanks]

theorem isMute_clusterHeader (file : String) : (clusterHeader file).all IsMute = true := by
  simp [clusterHeader, IsMute, skipBlanks]

/-! ### Line ends -/

theorem not_mem_flatMap {f : Char → List Char} (h : ∀ c, '\n' ∉ f c) (cs : List Char) :
    '\n' ∉ cs.flatMap f := by
  intro hmem
  obtain ⟨c, -, hc⟩ := List.mem_flatMap.mp hmem
  exact h c hc

theorem not_mem_escapeIdChar (c : Char) : '\n' ∉ escapeIdChar c := by
  rcases escapeIdChar_cases c with ⟨rfl | rfl, h⟩ | ⟨rfl, h⟩ | ⟨⟨-, -, hend⟩, h⟩
  · rw [h]; decide
  · rw [h]; decide
  · rw [h]; decide
  · rw [h]
    exact fun hmem => hend (List.mem_singleton.mp hmem).symm

theorem not_mem_recordChar (c : Char) : '\n' ∉ recordChar c := by
  rw [recordChar]
  intro hmem
  obtain ⟨c', hc', hc⟩ := List.mem_flatMap.mp hmem
  have hend : '\n' ≠ c' := fun heq => not_mem_escapeIdChar c (heq ▸ hc')
  rw [escapeRecordChar] at hc
  split at hc <;> simp [hend] at hc

theorem not_mem_quoteId (id : NodeId) : '\n' ∉ quoteId id := by
  have h : '\n' ∉ escapeIdChars id.toList := not_mem_flatMap not_mem_escapeIdChar _
  simp [quoteId, h]

theorem not_mem_padRight {width : Nat} {cs : List Char} (h : '\n' ∉ cs) : '\n' ∉ padRight width cs := by
  simp [padRight, h]

theorem not_mem_recordLabel (file name : List Char) :
    '\n' ∉ escapeRecordChars file ++ " | ".toList ++ escapeRecordChars name := by
  rw [escapeRecordChars_eq, escapeRecordChars_eq]
  simp only [List.mem_append, not_or]
  exact ⟨⟨not_mem_flatMap not_mem_recordChar file, by decide⟩, not_mem_flatMap not_mem_recordChar name⟩

theorem not_mem_nodeLabel (clustered : Bool) (id : NodeId) : '\n' ∉ nodeLabel clustered id := by
  rw [nodeLabel]
  cases clustered with
  | true =>
    rw [if_pos rfl]
    exact not_mem_flatMap not_mem_escapeIdChar _
  | false =>
    rw [if_neg Bool.false_ne_true]
    exact not_mem_recordLabel _ _

theorem not_mem_nodeLine (clustered : Bool) (id : NodeId) (isStart : Bool) :
    '\n' ∉ nodeLine clustered id isStart := by
  rw [nodeLine]
  simp only [List.mem_append, not_or]
  refine ⟨⟨⟨⟨⟨⟨?_, not_mem_padRight (not_mem_quoteId id)⟩, by decide⟩, not_mem_nodeLabel clustered id⟩,
    by decide⟩, ?_⟩, by decide⟩
  · simp
  · cases isStart <;> decide

theorem not_mem_edgeLine (e : Edge) : '\n' ∉ edgeLine e := by
  show '\n' ∉ "    ".toList ++ padRight nodeColumn (quoteId e.caller) ++ " -> ".toList ++
    quoteId e.callee ++ ";".toList
  simp only [List.mem_append, not_or]
  exact ⟨⟨⟨⟨by decide, not_mem_padRight (not_mem_quoteId e.caller)⟩, by decide⟩,
    not_mem_quoteId e.callee⟩, by decide⟩

theorem not_mem_preamble (name : String) : ∀ line ∈ preamble name, '\n' ∉ line := by
  simp [preamble, not_mem_quoteId]

theorem not_mem_clusterHeader (file : String) : ∀ line ∈ clusterHeader file, '\n' ∉ line := by
  have hfile : '\n' ∉ escapeIdChars file.toList := not_mem_flatMap not_mem_escapeIdChar _
  simp [clusterHeader, hfile]

theorem Statement.lines_unbroken (clustered : Bool) (s : Statement) :
    ∀ line ∈ s.lines clustered, '\n' ∉ line := by
  cases s with
  | openCluster file => exact not_mem_clusterHeader file
  | closeCluster => exact List.forall_mem_singleton.mpr (by decide)
  | node id isStart => exact List.forall_mem_singleton.mpr (not_mem_nodeLine clustered id isStart)

/-- No line of a document holds a line end, whatever the identifiers are. -/
theorem Document.lines_unbroken (d : Document) : ∀ line ∈ d.lines, '\n' ∉ line := by
  rw [Document.lines]
  simp only [List.forall_mem_append]
  refine ⟨⟨⟨⟨not_mem_preamble d.name, ?_⟩, by decide⟩, ?_⟩, by decide⟩
  · intro line hmem
    obtain ⟨s, -, hline⟩ := List.mem_flatMap.mp hmem
    exact s.lines_unbroken d.clustered line hline
  · intro line hmem
    obtain ⟨e, -, rfl⟩ := List.mem_map.mp hmem
    exact not_mem_edgeLine e

/-! ### Documents -/

/-- The node that a statement declares. -/
def Statement.node? : Statement → Option (NodeId × Bool)
  | .node id isStart => some (id, isStart)
  | _ => none

theorem Statement.read_lines (clustered : Bool) (s : Statement) :
    (s.lines clustered).filterMap readNode = s.node?.toList ∧
      (s.lines clustered).filterMap readEdge = [] := by
  cases s with
  | openCluster file => exact filterMap_of_isMute (isMute_clusterHeader file)
  | closeCluster => exact filterMap_of_isMute rfl
  | node id isStart =>
    rw [Statement.lines, List.filterMap_cons_some (readNode_nodeLine clustered id isStart),
      List.filterMap_cons_none (readEdge_nodeLine clustered id isStart)]
    exact ⟨rfl, rfl⟩

theorem isMute_between : [[], [], "    // edges".toList].all IsMute = true := by rfl

theorem isMute_closing : [[], "    \x7d".toList, []].all IsMute = true := by rfl

theorem Document.readNode_lines (d : Document) :
    d.lines.filterMap readNode = d.statements.filterMap Statement.node? := by
  have hstatements : (d.statements.flatMap (Statement.lines d.clustered)).filterMap readNode =
      d.statements.filterMap Statement.node? := by
    rw [List.filterMap_flatMap, List.filterMap_eq_flatMap_toList]
    exact List.flatMap_congr fun s _ => (s.read_lines d.clustered).1
  have hedges : (d.edges.map edgeLine).filterMap readNode = [] := by
    simp [readNode_edgeLine]
  rw [Document.lines]
  simp only [List.filterMap_append]
  rw [(filterMap_of_isMute (isMute_preamble d.name)).1, hstatements, hedges,
    (filterMap_of_isMute isMute_between).1, (filterMap_of_isMute isMute_closing).1]
  simp only [List.nil_append, List.append_nil]

theorem Document.readEdge_lines (d : Document) : d.lines.filterMap readEdge = d.edges := by
  have hstatements : (d.statements.flatMap (Statement.lines d.clustered)).filterMap readEdge = [] := by
    rw [List.filterMap_flatMap, List.flatMap_eq_nil_iff]
    exact fun s _ => (s.read_lines d.clustered).2
  have hedges : (d.edges.map edgeLine).filterMap readEdge = d.edges := by
    rw [List.filterMap_map]
    exact (List.filterMap_congr fun e _ => readEdge_edgeLine e).trans List.filterMap_some
  rw [Document.lines]
  simp only [List.filterMap_append]
  rw [(filterMap_of_isMute (isMute_preamble d.name)).2, hstatements, hedges,
    (filterMap_of_isMute isMute_between).2, (filterMap_of_isMute isMute_closing).2]
  simp only [List.nil_append, List.append_nil]

theorem readTitle_quoteId (name : String) :
    readTitle ("digraph ".toList ++ quoteId name) = some name := by
  have hname := readString_quoteId name []
  rw [List.append_nil] at hname
  rw [readTitle, List.dropPrefix?_append_of_beq _ (beq_self_eq_true _)]
  simp only [Option.bind_eq_bind, Option.bind_some]
  rw [hname]
  simp [String.ofList_toList]

/-- The text of a document is read as its name, its nodes and its edges. -/
theorem Document.readDot_text (d : Document) :
    readDot d.text = some ⟨d.name, d.statements.filterMap Statement.node?, d.edges⟩ := by
  have hhead : d.lines.head? = some ("digraph ".toList ++ quoteId d.name) := rfl
  have hne : d.lines ≠ [] := fun hnil => by simp [hnil] at hhead
  rw [readDot, Document.text, splitOnChar_joinWith hne d.lines_unbroken, d.readNode_lines,
    d.readEdge_lines, hhead]
  simp only [Option.bind_eq_bind, Option.bind_some]
  rw [readTitle_quoteId]
  rfl

/-! ### Traversals -/

/-- Clusters hold the nodes that they are made of, whichever cluster is open. -/
theorem clusterStatements_nodes (isStart : NodeId → Bool) (current : Option String) (ids : List NodeId) :
    (clusterStatements isStart current ids).filterMap Statement.node? =
      ids.map (fun id => (id, isStart id)) := by
  induction ids generalizing current with
  | nil => cases current <;> rfl
  | cons id rest ih =>
    cases current with
    | none => simp [clusterStatements, List.filterMap_cons, Statement.node?, ih]
    | some open_ =>
      -- A new cluster is opened or not; neither says anything of a node.
      by_cases hsame : open_ = fileOf id
      · simp [clusterStatements, Statement.node?, ih, hsame]
      · simp [clusterStatements, List.filterMap_cons, Statement.node?, ih, hsame]

/-- What a drawing of the traversal is to show. -/
def Plot.ofTraversal (t : Traversal) (options : Options) : Plot :=
  ⟨options.graphName, t.visited.elems.map (fun id => (id, t.isStart id)), t.edges.elems⟩

theorem readDot_dotText (t : Traversal) (options : Options) :
    readDot (dotText t options) = some (Plot.ofTraversal t options) := by
  have hnodes : (Document.ofTraversal t options).statements.filterMap Statement.node? =
      t.visited.elems.map (fun id => (id, t.isStart id)) := by
    rw [Document.ofTraversal]
    cases options.clustered with
    | true => exact clusterStatements_nodes t.isStart none t.visited.elems
    | false =>
      show (t.visited.elems.map _).filterMap Statement.node? = _
      rw [List.filterMap_map]
      exact congrFun List.filterMap_eq_map _
  rw [dotText, Document.readDot_text, hnodes]
  rfl

end PerlCalls.Export

import Mathlib
import PerlCalls.Proofs.DotReading

/-! Reading the subgraphs of a DOT document.

`readOutline` takes the text of a document line by line and keeps what tells its subgraphs: the braces
outside quotes, the names and labels of subgraphs, and the nodes. A text between quotes hides its braces,
whatever it is made of (`braces_quoteId`), so only the lines written for it open or close a subgraph. The
outline of a clustered document is then that of its statements, one after the other, between the braces
of the graph (`Document.readOutline_text`). -/
namespace PerlCalls.Export

open PerlCalls.Graph
open Text

/-! ### The reader -/

/-- What a document says of its subgraphs. -/
inductive Mark where
  | opens
  | closes
  | subgraph (name : String)
  | label (text : String)
  | node (id : NodeId)
deriving DecidableEq

/-- How a character stands to the quotes of its line. -/
inductive Quoting where
  | plain
  | quoted
  | escaped
deriving DecidableEq

/-- The braces outside quotes. -/
def braces : Quoting → List Char → List Mark
  | _, [] => []
  | .plain, c :: rest =>
    if c == '"' then braces .quoted rest
    else if c == '\x7b' then .opens :: braces .plain rest
    else if c == '\x7d' then .closes :: braces .plain rest
    else braces .plain rest
  | .quoted, c :: rest =>
    if c == '"' then braces .plain rest
    else if c == '\\' then braces .escaped rest
    else braces .quoted rest
  | .escaped, _ :: rest => braces .quoted rest

def readSubgraph (line : List Char) : Option String := do
  let rest ← (skipBlanks line).dropPrefix? "subgraph ".toList
  let (name, _) ← readString rest
  return String.ofList name

def readLabel (line : List Char) : Option String := do
  let rest ← (skipBlanks line).dropPrefix? "label".toList
  let rest ← (skipBlanks rest).dropPrefix? "= ".toList
  let (text, _) ← readString rest
  return String.ofList text

def readMarks (line : List Char) : List Mark :=
  ((readSubgraph line).map Mark.subgraph).toList ++ ((readLabel line).map Mark.label).toList ++
    ((readNode line).map (fun node => Mark.node node.1)).toList ++ braces .plain line

/-- What the text of a document says of its subgraphs. -/
def readOutline (cs : List Char) : List Mark := (splitOnChar '\n' cs).flatMap readMarks

/-! ### Braces -/

theorem braces_escapeIdChar (c : Char) (rest : List Char) :
    braces .quoted (escapeIdChar c ++ rest) = braces .quoted rest := by
  rcases escapeIdChar_cases c with ⟨-, h⟩ | ⟨-, h⟩ | ⟨⟨hslash, hquote, -⟩, h⟩
  · rw [h]; rfl
  · rw [h]; rfl
  · rw [h]
    simp [braces, hslash, hquote]

theorem braces_escapeIdChars (cs rest : List Char) :
    braces .quoted (escapeIdChars cs ++ rest) = braces .quoted rest := by
  rw [escapeIdChars]
  induction cs with
  | nil => rfl
  | cons c cs ih => rw [List.flatMap_cons, List.append_assoc, braces_escapeIdChar, ih]

/-- A quoted identifier hides its braces. -/
theorem braces_quoteId (id : NodeId) (rest : List Char) :
    braces .plain (quoteId id ++ rest) = braces .plain rest := by
  show braces .quoted (escapeIdChars id.toList ++ ['"'] ++ rest) = _
  rw [List.append_assoc, braces_escapeIdChars]
  rfl

/-- Neither a quote nor a brace. -/
def isNeutral (c : Char) : Bool := c != '"' && c != '\x7b' && c != '\x7d'

theorem braces_neutral {cs : List Char} (h : cs.all isNeutral = true) (rest : List Char) :
    braces .plain (cs ++ rest) = braces .plain rest := by
  induction cs with
  | nil => rfl
  | cons c cs ih =>
    rw [List.all_cons, Bool.and_eq_true] at h
    have hc := h.1
    simp only [isNeutral, Bool.and_eq_true, bne_iff_ne] at hc
    obtain ⟨⟨hquote, hopen⟩, hclose⟩ := hc
    simp [braces, hquote, hopen, hclose, ih h.2]

theorem braces_blanks (n : Nat) (rest : List Char) :
    braces .plain (List.replicate n ' ' ++ rest) = braces .plain rest :=
  braces_neutral (by simp [isNeutral]) rest

theorem braces_padRight (width : Nat) (id : NodeId) (rest : List Char) :
    braces .plain (padRight width (quoteId id) ++ rest) = braces .plain rest := by
  rw [padRight, List.append_assoc, braces_quoteId, braces_blanks]

/-! ### Lines -/

/-- A line that begins with an identifier is neither the head of a subgraph nor its label. -/
theorem readMarks_of_readString {line : List Char} {read : List Char × List Char}
    (h : readString (skipBlanks line) = some read) :
    readMarks line = ((readNode line).map (fun node => Mark.node node.1)).toList ++ braces .plain line := by
  obtain ⟨rest, hline⟩ : ∃ rest, skipBlanks line = '"' :: rest := by
    unfold readString at h
    split at h
    · rename_i rest hline
      exact ⟨rest, hline⟩
    · cases h
  rw [readMarks, readSubgraph, readLabel, hline]
  rfl

theorem readMarks_nodeLine (id : NodeId) (isStart : Bool) :
    readMarks (nodeLine true id isStart) = [.node id] := by
  have hopen : ∀ rest, braces .plain (" [label = \"".toList ++ rest) = braces .quoted rest := fun _ => rfl
  have hbraces : braces .plain (nodeLine true id isStart) = [] := by
    simp only [nodeLine, nodeLabel, if_pos, List.append_assoc]
    rw [braces_blanks, braces_padRight, hopen, braces_escapeIdChars]
    cases isStart <;> rfl
  obtain ⟨_, hid⟩ := readString_nodeLine true id isStart
  rw [readMarks_of_readString hid, readNode_nodeLine, hbraces]
  rfl

theorem readMarks_edgeLine (e : Edge) : readMarks (edgeLine e) = [] := by
  have hbraces : braces .plain (edgeLine e) = [] := by
    show braces .plain ("    ".toList ++ padRight nodeColumn (quoteId e.caller) ++ " -> ".toList ++
      quoteId e.callee ++ ";".toList) = []
    simp only [List.append_assoc]
    rw [braces_neutral (by decide), braces_padRight, braces_neutral (by decide), braces_quoteId]
    rfl
  obtain ⟨_, hcaller⟩ := readString_edgeLine e
  rw [readMarks_of_readString hcaller, readNode_edgeLine, hbraces]
  rfl

theorem readMarks_subgraph (name : String) :
    readMarks ("    subgraph ".toList ++ quoteId name) = [.subgraph name] := by
  have hname := readString_quoteId name []
  have hbraces := braces_quoteId name []
  rw [List.append_nil] at hname hbraces
  rw [← braces_neutral (show "    subgraph ".toList.all isNeutral = true by decide)] at hbraces
  have hskip : skipBlanks ("    subgraph ".toList ++ quoteId name) = "subgraph ".toList ++ quoteId name :=
    skipBlanks_mark 3 rfl (by decide) _
  generalize "    subgraph ".toList ++ quoteId name = line at hbraces hskip ⊢
  have hmute : IsMute line = true := by
    rw [IsMute, hskip]
    rfl
  have hread : readSubgraph line = some name := by
    rw [readSubgraph, hskip, List.dropPrefix?_append_of_beq _ (beq_self_eq_true _)]
    simp only [Option.bind_eq_bind, Option.bind_some]
    rw [hname]
    simp [String.ofList_toList]
  have hnolabel : readLabel line = none := by
    rw [readLabel, hskip]
    rfl
  rw [readMarks, hread, hnolabel, (read_of_isMute hmute).1, hbraces]
  rfl

theorem readMarks_label (text : String) :
    readMarks ("        label     = ".toList ++ (quoteId text ++ ";".toList)) = [.label text] := by
  have hbraces := braces_quoteId text ";".toList
  rw [← braces_neutral (show "        label     = ".toList.all isNeutral = true by decide)] at hbraces
  have hskip : skipBlanks ("        label     = ".toList ++ (quoteId text ++ ";".toList)) =
      "label".toList ++ ("     = ".toList ++ (quoteId text ++ ";".toList)) :=
    skipBlanks_mark 7 rfl (by decide) _
  have hequals : skipBlanks ("     = ".toList ++ (quoteId text ++ ";".toList)) =
      "= ".toList ++ (quoteId text ++ ";".toList) :=
    skipBlanks_mark 4 rfl (by decide) _
  generalize "        label     = ".toList ++ (quoteId text ++ ";".toList) = line at hbraces hskip ⊢
  have hmute : IsMute line = true := by
    rw [IsMute, hskip]
    rfl
  have hnosubgraph : readSubgraph line = none := by
    rw [readSubgraph, hskip]
    rfl
  have hread : readLabel line = some text := by
    rw [readLabel, hskip, List.dropPrefix?_append_of_beq _ (beq_self_eq_true _)]
    simp only [Option.bind_eq_bind, Option.bind_some]
    rw [hequals, List.dropPrefix?_append_of_beq _ (beq_self_eq_true _)]
    simp only [Option.bind_some]
    rw [readString_quoteId]
    simp [String.ofList_toList]
  rw [readMarks, hnosubgraph, hread, (read_of_isMute hmute).1, hbraces]
  rfl

theorem readMarks_clusterHeader (file : String) :
    (clusterHeader file).flatMap readMarks = [.subgraph ("cluster_" ++ file), .opens, .label file] := by
  have hhead : "    subgraph \"cluster_".toList ++ escapeIdChars file.toList ++ "\"".toList =
      "    subgraph ".toList ++ quoteId ("cluster_" ++ file) := by
    simp [quoteId, escapeIdChars, escapeIdChar]
  have hlabel : "        label     = \"".toList ++ escapeIdChars file.toList ++ "\";".toList =
      "        label     = ".toList ++ (quoteId file ++ ";".toList) := by
    simp [quoteId]
  rw [clusterHeader]
  simp only [List.flatMap_cons, List.flatMap_nil, hhead, hlabel, readMarks_subgraph, readMarks_label]
  rfl

theorem readMarks_preamble (name : String) : (preamble name).flatMap readMarks = [.opens] := by
  have htitle : readMarks ("digraph ".toList ++ quoteId name) = [] := by
    have hbraces := braces_quoteId name []
    rw [List.append_nil] at hbraces
    have hmute : IsMute ("digraph ".toList ++ quoteId name) = true := rfl
    rw [readMarks, (read_of_isMute hmute).1, braces_neutral (by decide), hbraces]
    rfl
  rw [preamble, List.flatMap_cons, htitle]
  rfl

/-! ### Documents -/

/-- What a statement says of subgraphs. -/
def Statement.marks : Statement → List Mark
  | .openCluster file => [.subgraph ("cluster_" ++ file), .opens, .label file]
  | .closeCluster => [.closes]
  | .node id _ => [.node id]

theorem Statement.readMarks_lines (s : Statement) : (s.lines true).flatMap readMarks = s.marks := by
  cases s with
  | openCluster file => exact readMarks_clusterHeader file
  | closeCluster => rfl
  | node id isStart =>
    rw [Statement.lines, List.flatMap_singleton]
    exact readMarks_nodeLine id isStart

/-- The outline of a clustered document is that of its statements. -/
theorem Document.readOutline_text (d : Document) (h : d.clustered = true) :
    readOutline d.text = .opens :: d.statements.flatMap Statement.marks ++ [.closes] := by
  have hne : d.lines ≠ [] := by simp [Document.lines]
  have hstatements : (d.statements.flatMap (Statement.lines true)).flatMap readMarks =
      d.statements.flatMap Statement.marks := by
    rw [List.flatMap_assoc]
    exact List.flatMap_congr fun s _ => s.readMarks_lines
  have hedges : (d.edges.map edgeLine).flatMap readMarks = [] := by
    simp [List.flatMap_map, readMarks_edgeLine]
  have hbetween : [[], [], "    // edges".toList].flatMap readMarks = [] := rfl
  have hclosing : [[], "    \x7d".toList, []].flatMap readMarks = [.closes] := rfl
  rw [readOutline, Document.text, splitOnChar_joinWith hne d.lines_unbroken, Document.lines, h]
  simp only [List.flatMap_append, readMarks_preamble, hstatements, hbetween, hedges, hclosing,
    List.append_nil, List.singleton_append]

end PerlCalls.Export

import Mathlib
import PerlCalls.Proofs.Maps
import PerlCalls.Proofs.Outline
import PerlCalls.Proofs.Recorded

/-! The clusters of a document, file by file.

Clusters are the runs of nodes of one file in the list of all nodes (`clustersOf`), and the statements of a
document are those of its clusters (`clusterStatements_eq`). The list is sorted by whole identifiers and
not by files. What sorts between two texts that share a beginning shares it too (`prefix_of_between`), so
between two nodes of a file `f` stand only nodes whose file is `f` or goes on behind `f:`
(`fileOf_of_prefix`). A file thus has a second cluster only where such a longer file cuts in. -/
namespace PerlCalls.Export

open PerlCalls.Graph
open Text

/-! ### Files of nodes -/

/-- The node is a name in the file, and the name holds no colon. -/
def LiesIn (file : String) (id : NodeId) : Prop := ∃ name, IsPlain name ∧ id = qualify file name

theorem LiesIn.fileOf_eq {file : String} {id : NodeId} (h : LiesIn file id) : fileOf id = file := by
  obtain ⟨name, hname, rfl⟩ := h
  rw [fileOf, splitQualified_qualify file hname]

theorem liesIn_iff {file : String} {id : NodeId} (h : ∃ file, LiesIn file id) :
    LiesIn file id ↔ fileOf id = file := by
  refine ⟨LiesIn.fileOf_eq, ?_⟩
  rintro rfl
  obtain ⟨file, hfile⟩ := h
  rwa [hfile.fileOf_eq]

/-- The last colon of an identifier ends its file, so a colon further on makes the file longer. -/
theorem fileOf_of_prefix {file : String} {id : NodeId} (h : (file ++ ":").toList <+: id.toList) :
    fileOf id = file ∨ ∃ rest, fileOf id = file ++ ":" ++ rest := by
  obtain ⟨behind, hid⟩ := h
  have hchars : id.toList = file.toList ++ ':' :: behind := by simp [← hid]
  have hfile : fileOf id = String.ofList (splitQualifiedChars id.toList).1 := rfl
  by_cases hcolon : ':' ∈ behind
  · obtain ⟨name, rest, hback, hname⟩ := List.eq_append_cons_of_mem (List.mem_reverse.mpr hcolon)
    have hbehind : behind = rest.reverse ++ ':' :: name.reverse := by
      rw [← List.reverse_reverse behind, hback]
      simp
    have hid' : id.toList = (file.toList ++ ':' :: rest.reverse) ++ ':' :: name.reverse := by
      rw [hchars, hbehind]
      simp
    refine Or.inr ⟨String.ofList rest.reverse, ?_⟩
    rw [hfile, hid', splitQualifiedChars_append (by simpa using hname)]
    simp [String.ext_iff]
  · left
    rw [hfile, hchars, splitQualifiedChars_append hcolon, String.ofList_toList]

/-! ### Order -/

/-- What sorts between two texts that share a beginning shares it too. -/
theorem prefix_of_between {start a b text : List Char} (hlow : start ++ a < text)
    (hhigh : text < start ++ b) : start <+: text := by
  induction start generalizing text with
  | nil => exact List.nil_prefix
  | cons c start ih =>
    cases text with
    | nil => exact absurd hlow (List.not_lt_nil _)
    | cons d text =>
      rw [List.cons_append, List.cons_lt_cons_iff] at hlow hhigh
      -- neither side leaves room for another first character
      have hcd : c = d := by
        rcases hlow with hlow | ⟨rfl, -⟩
        · rcases hhigh with hhigh | ⟨rfl, -⟩
          · exact absurd (hlow.trans hhigh) (lt_irrefl c)
          · rfl
        · rfl
      subst hcd
      have hlow := (hlow.resolve_left (lt_irrefl c)).2
      have hhigh := (hhigh.resolve_left (lt_irrefl c)).2
      exact List.cons_prefix_cons.mpr ⟨rfl, ih hlow hhigh⟩

/-- Between two nodes of a file stand only its own nodes and those of longer files. -/
theorem fileOf_between {file : String} {low mid high : NodeId} (hlow : LiesIn file low)
    (hhigh : LiesIn file high) (hlowmid : low < mid) (hmidhigh : mid < high) :
    fileOf mid = file ∨ ∃ rest, fileOf mid = file ++ ":" ++ rest := by
  obtain ⟨name, -, rfl⟩ := hlow
  obtain ⟨name', -, rfl⟩ := hhigh
  rw [String.lt_iff_toList_lt, qualify] at hlowmid hmidhigh
  rw [String.toList_append] at hlowmid hmidhigh
  exact fileOf_of_prefix (prefix_of_between hlowmid hmidhigh)

/-! ### Runs of one file -/

/-- The nodes of a subgraph, and the file that it is labelled with. -/
structure Cluster where
  file : String
  nodes : List NodeId
deriving DecidableEq

/-- A node joins the next cluster if that is of its file. -/
def joinClusters (id : NodeId) : List Cluster → List Cluster
  | [] => [⟨fileOf id, [id]⟩]
  | c :: rest =>
    if c.file = fileOf id then ⟨c.file, id :: c.nodes⟩ :: rest else ⟨fileOf id, [id]⟩ :: c :: rest

/-- The runs of nodes of one file. -/
def clustersOf (ids : List NodeId) : List Cluster := ids.foldr joinClusters []

/-- What a subgraph is written as. -/
def Cluster.statements (isStart : NodeId → Bool) (c : Cluster) : List Statement :=
  .openCluster c.file :: (c.nodes.map (fun id => .node id (isStart id)) ++ [.closeCluster])

/-- What clusters are written as behind the head of a cluster of `file`, which the first may go on. -/
def continuedStatements (isStart : NodeId → Bool) (file : String) : List Cluster → List Statement
  | [] => [.closeCluster]
  | c :: rest =>
    if c.file = file then (c.statements isStart).tail ++ rest.flatMap (Cluster.statements isStart)
    else .closeCluster :: (c :: rest).flatMap (Cluster.statements isStart)

/-- The statements of a node and of the clusters behind it are those of the clusters that it joins. -/
theorem statements_joinClusters (isStart : NodeId → Bool) (id : NodeId) (clusters : List Cluster) :
    (joinClusters id clusters).flatMap (Cluster.statements isStart) =
      .openCluster (fileOf id) :: .node id (isStart id) ::
        continuedStatements isStart (fileOf id) clusters := by
  cases clusters with
  | nil => rfl
  | cons c rest =>
    by_cases hsame : c.file = fileOf id <;>
      simp [joinClusters, continuedStatements, Cluster.statements, hsame]

theorem continuedStatements_joinClusters (isStart : NodeId → Bool) (file : String) (id : NodeId)
    (clusters : List Cluster) :
    continuedStatements isStart file (joinClusters id clusters) =
      (if file = fileOf id then [] else [.closeCluster, .openCluster (fileOf id)]) ++
        .node id (isStart id) :: continuedStatements isStart (fileOf id) clusters := by
  have hjoined := statements_joinClusters isStart id clusters
  obtain ⟨c, rest, hcons, hfile⟩ :
      ∃ c rest, joinClusters id clusters = c :: rest ∧ c.file = fileOf id := by
    unfold joinClusters
    split
    · exact ⟨_, _, rfl, rfl⟩
    · split_ifs with hsame
      · exact ⟨_, _, rfl, hsame⟩
      · exact ⟨_, _, rfl, rfl⟩
  rw [hcons] at hjoined ⊢
  by_cases hopen : file = fileOf id
  · have htail := congrArg List.tail hjoined
    rw [continuedStatements, if_pos (hfile.trans hopen.symm), if_pos hopen]
    simpa [Cluster.statements] using htail
  · rw [continuedStatements, if_neg (fun h => hopen (h.symm.trans hfile)), hjoined, if_neg hopen]
    rfl

/-- The statements of nodes in a row are those of their clusters. -/
theorem clusterStatements_eq (isStart : NodeId → Bool) (ids : List NodeId) :
    clusterStatements isStart none ids = (clustersOf ids).flatMap (Cluster.statements isStart) ∧
      ∀ file, clusterStatements isStart (some file) ids =
        continuedStatements isStart file (clustersOf ids) := by
  induction ids with
  | nil => exact ⟨rfl, fun _ => rfl⟩
  | cons id ids ih =>
    have hcons : clustersOf (id :: ids) = joinClusters id (clustersOf ids) := rfl
    refine ⟨?_, fun file => ?_⟩
    · rw [hcons, statements_joinClusters, ← ih.2]
      rfl
    · rw [hcons, continuedStatements_joinClusters, ← ih.2]
      simp [clusterStatements]

/-- The clusters take the nodes in their order; each holds nodes, all of its file, and the next is of
another file. -/
structure IsClustering (ids : List NodeId) (clusters : List Cluster) : Prop where
  nodes : clusters.flatMap Cluster.nodes = ids
  inhabited : ∀ c ∈ clusters, c.nodes ≠ []
  sameFile : ∀ c ∈ clusters, ∀ id ∈ c.nodes, fileOf id = c.file
  apart : (clusters.map Cluster.file).IsChain (· ≠ ·)

namespace IsClustering

variable {ids : List NodeId} {clusters : List Cluster}

/-- One more node in front. -/
theorem join (h : IsClustering ids clusters) (id : NodeId) :
    IsClustering (id :: ids) (joinClusters id clusters) := by
  obtain ⟨rfl, hinhabited, hfile, hapart⟩ := h
  cases clusters with
  | nil => exact ⟨rfl, by simp [joinClusters], by simp [joinClusters], .singleton _⟩
  | cons c rest =>
    rw [List.forall_mem_cons] at hinhabited hfile
    by_cases hsame : c.file = fileOf id
    · rw [joinClusters, if_pos hsame]
      refine ⟨rfl, ?_, ?_, hapart⟩
      · exact List.forall_mem_cons.mpr ⟨List.cons_ne_nil _ _, hinhabited.2⟩
      · exact List.forall_mem_cons.mpr ⟨List.forall_mem_cons.mpr ⟨hsame.symm, hfile.1⟩, hfile.2⟩
    · rw [joinClusters, if_neg hsame]
      refine ⟨rfl, ?_, ?_, List.isChain_cons_cons.mpr ⟨Ne.symm hsame, hapart⟩⟩
      · exact List.forall_mem_cons.mpr ⟨List.cons_ne_nil _ _, List.forall_mem_cons.mpr hinhabited⟩
      · exact List.forall_mem_cons.mpr ⟨by simp, List.forall_mem_cons.mpr hfile⟩

theorem mem_iff (h : IsClustering ids clusters) {id : NodeId} :
    id ∈ ids ↔ ∃ c ∈ clusters, id ∈ c.nodes := by
  rw [← h.nodes, List.mem_flatMap]

theorem mem_files_iff (h : IsClustering ids clusters) {file : String} :
    file ∈ clusters.map Cluster.file ↔ ∃ id ∈ ids, fileOf id = file := by
  rw [List.mem_map]
  constructor
  · rintro ⟨c, hc, rfl⟩
    obtain ⟨id, hid⟩ := List.exists_mem_of_ne_nil _ (h.inhabited c hc)
    exact ⟨id, h.mem_iff.mpr ⟨c, hc, hid⟩, h.sameFile c hc id hid⟩
  · rintro ⟨id, hid, rfl⟩
    obtain ⟨c, hc, hmem⟩ := h.mem_iff.mp hid
    exact ⟨c, hc, (h.sameFile c hc id hmem).symm⟩

/-- The only cluster of a file holds all its nodes. -/
theorem mem_nodes_iff (h : IsClustering ids clusters) (hnodup : (clusters.map Cluster.file).Nodup)
    {c : Cluster} (hc : c ∈ clusters) {id : NodeId} : id ∈ c.nodes ↔ id ∈ ids ∧ fileOf id = c.file := by
  refine ⟨fun hid => ⟨h.mem_iff.mpr ⟨c, hc, hid⟩, h.sameFile c hc id hid⟩, ?_⟩
  rintro ⟨hid, hfile⟩
  obtain ⟨d, hd, hmem⟩ := h.mem_iff.mp hid
  have hdc : d = c :=
    List.inj_on_of_nodup_map hnodup hd hc ((h.sameFile d hd id hmem).symm.trans hfile)
  exact hdc ▸ hmem

/-- Where a file comes back, a cluster of another file stands in between. -/
theorem exists_between (hapart : (clusters.map Cluster.file).IsChain (· ≠ ·)) {file : String}
    (hcount : 2 ≤ (clusters.map Cluster.file).count file) :
    ∃ a b c, [a, b, c].Sublist clusters ∧ a.file = file ∧ b.file ≠ file ∧ c.file = file := by
  induction clusters with
  | nil => simp at hcount
  | cons a rest ih =>
    by_cases hfile : a.file = file
    · rw [List.map_cons, hfile, List.count_cons_self] at hcount
      have hmem : file ∈ rest.map Cluster.file := List.count_pos_iff.mp (by omega)
      cases rest with
      | nil => simp at hmem
      | cons b rest =>
        have hne : b.file ≠ file := fun hb => (List.isChain_cons_cons.mp hapart).1 (hfile.trans hb.symm)
        obtain ⟨c, hc, hcfile⟩ := List.mem_map.mp hmem
        have hrest : c ∈ rest := (List.mem_cons.mp hc).resolve_left (fun hcb => hne (hcb ▸ hcfile))
        refine ⟨a, b, c, ?_, hfile, hne, hcfile⟩
        exact ((List.singleton_sublist.mpr hrest).cons_cons b).cons_cons a
    · rw [List.map_cons, List.count_cons_of_ne hfile] at hcount
      obtain ⟨x, b, c, hsub, hrest⟩ := ih (List.IsChain.tail hapart) hcount
      exact ⟨x, b, c, hsub.cons a, hrest⟩

/-- Among sorted nodes a file has a second cluster only where a longer file cuts in. -/
theorem exists_longer (h : IsClustering ids clusters) (hsorted : ids.Pairwise (· < ·))
    (hids : ∀ id ∈ ids, ∃ file, LiesIn file id) {file : String}
    (hcount : 2 ≤ (clusters.map Cluster.file).count file) :
    ∃ id ∈ ids, ∃ rest, fileOf id = file ++ ":" ++ rest := by
  obtain ⟨a, b, c, hsub, ha, hb, hc⟩ := exists_between h.apart hcount
  have hmem : a ∈ clusters ∧ b ∈ clusters ∧ c ∈ clusters := by
    refine ⟨hsub.subset ?_, hsub.subset ?_, hsub.subset ?_⟩ <;> simp
  obtain ⟨low, hlow⟩ := List.exists_mem_of_ne_nil _ (h.inhabited a hmem.1)
  obtain ⟨mid, hmid⟩ := List.exists_mem_of_ne_nil _ (h.inhabited b hmem.2.1)
  obtain ⟨high, hhigh⟩ := List.exists_mem_of_ne_nil _ (h.inhabited c hmem.2.2)
  have hlowid := h.mem_iff.mpr ⟨a, hmem.1, hlow⟩
  have hmidid := h.mem_iff.mpr ⟨b, hmem.2.1, hmid⟩
  have hhighid := h.mem_iff.mpr ⟨c, hmem.2.2, hhigh⟩
  rw [← h.nodes, List.pairwise_flatMap] at hsorted
  have hpairs := hsorted.2.sublist hsub
  simp only [List.pairwise_cons, List.mem_cons, List.not_mem_nil, or_false, forall_eq_or_imp,
    forall_eq] at hpairs
  have hlowmid : low < mid := hpairs.1.1 low hlow mid hmid
  have hmidhigh : mid < high := hpairs.2.1 mid hmid high hhigh
  have hlowin := (liesIn_iff (hids low hlowid)).mpr ((h.sameFile a hmem.1 low hlow).trans ha)
  have hhighin := (liesIn_iff (hids high hhighid)).mpr ((h.sameFile c hmem.2.2 high hhigh).trans hc)
  have hmidfile : fileOf mid ≠ file := h.sameFile b hmem.2.1 mid hmid ▸ hb
  exact ⟨mid, hmidid, (fileOf_between hlowin hhighin hlowmid hmidhigh).resolve_left hmidfile⟩

end IsClustering

theorem isClustering_clustersOf (ids : List NodeId) : IsClustering ids (clustersOf ids) := by
  induction ids with
  | nil => exact ⟨rfl, by simp [clustersOf], by simp [clustersOf], .nil⟩
  | cons id ids ih => exact ih.join id

/-! ### Outlines -/

/-- How a subgraph of nodes is to be read. -/
def Cluster.marks (c : Cluster) : List Mark :=
  [.subgraph ("cluster_" ++ c.file), .opens, .label c.file] ++ c.nodes.map Mark.node ++ [.closes]

theorem Cluster.marks_statements (isStart : NodeId → Bool) (c : Cluster) :
    (c.statements isStart).flatMap Statement.marks = c.marks := by
  have hnodes : (c.nodes.map (fun id => Statement.node id (isStart id))).flatMap Statement.marks =
      c.nodes.map Mark.node := by
    rw [List.flatMap_map]
    exact List.map_eq_flatMap.symm
  simp [Cluster.statements, Cluster.marks, Statement.marks, hnodes]

theorem readOutline_dotText (t : Traversal) {options : Options} (h : options.clustered = true) :
    readOutline (dotText t options) =
      .opens :: (clustersOf t.visited.elems).flatMap Cluster.marks ++ [.closes] := by
  have hstatements : (Document.ofTraversal t options).statements =
      (clustersOf t.visited.elems).flatMap (Cluster.statements t.isStart) := by
    rw [← (clusterStatements_eq t.isStart t.visited.elems).1]
    simp [Document.ofTraversal, h]
  rw [dotText, Document.readOutline_text _ h, hstatements, List.flatMap_assoc,
    List.flatMap_congr fun c _ => c.marks_statements t.isStart]

/-- The outline shows each node as often as the clusters hold it. -/
theorem count_node (clusters : List Cluster) (id : NodeId) :
    (clusters.flatMap Cluster.marks).count (.node id) = (clusters.flatMap Cluster.nodes).count id := by
  have hinj : Function.Injective Mark.node := fun _ _ h => Mark.node.inj h
  induction clusters with
  | nil => rfl
  | cons c rest ih =>
    simp [List.count_append, Cluster.marks, ih, List.count_map_of_injective _ _ hinj]

theorem count_label (clusters : List Cluster) (file : String) :
    (clusters.flatMap Cluster.marks).count (.label file) = (clusters.map Cluster.file).count file := by
  induction clusters with
  | nil => rfl
  | cons c rest ih =>
    have hnodes : (c.nodes.map Mark.node).count (.label file) = 0 := by simp [List.count_eq_zero]
    simp [List.count_append, List.count_cons, Cluster.marks, ih, hnodes, Nat.add_comm]

/-- **One subgraph for each file.** The text of a clustered document opens and closes its subgraphs one
after the other. Each is labelled with the file of all the nodes in it, and each visited node stands in one
of them, once. A file comes twice only if another visited file begins with it and a colon; so if no file
has a colon, each has one subgraph, and that holds all its nodes. -/
theorem clusters_by_file (t : Traversal) (options : Options) (hclustered : options.clustered = true)
    (hids : ∀ id ∈ t.visited.elems, ∃ file, LiesIn file id) :
    ∃ clusters : List Cluster,
      readOutline (dotText t options) = .opens :: clusters.flatMap Cluster.marks ++ [.closes] ∧
      (∀ c ∈ clusters, c.nodes ≠ [] ∧ ∀ id ∈ c.nodes, LiesIn c.file id) ∧
      (∀ id, (readOutline (dotText t options)).count (.node id) = if id ∈ t.visited.elems then 1 else 0) ∧
      (∀ file, 2 ≤ (readOutline (dotText t options)).count (.label file) →
        ∃ id ∈ t.visited.elems, ∃ rest, LiesIn (file ++ ":" ++ rest) id) ∧
      ((∀ id ∈ t.visited.elems, ∀ file, LiesIn file id → IsPlain file) →
        (clusters.map Cluster.file).Nodup ∧
        (∀ file, file ∈ clusters.map Cluster.file ↔ ∃ id ∈ t.visited.elems, LiesIn file id) ∧
        ∀ c ∈ clusters, ∀ id, id ∈ c.nodes ↔ id ∈ t.visited.elems ∧ LiesIn c.file id) := by
  have h := isClustering_clustersOf t.visited.elems
  have hsorted : t.visited.elems.Pairwise (· < ·) :=
    (SortedSet.elems_increase t.visited).imp compare_eq_lt_iff.mp
  have hnodup : t.visited.elems.Nodup := hsorted.imp ne_of_lt
  have hlonger : ∀ file, 2 ≤ ((clustersOf t.visited.elems).map Cluster.file).count file →
      ∃ id ∈ t.visited.elems, ∃ rest, LiesIn (file ++ ":" ++ rest) id := by
    intro file hcount
    obtain ⟨id, hid, rest, hfile⟩ := h.exists_longer hsorted hids hcount
    exact ⟨id, hid, rest, (liesIn_iff (hids id hid)).mpr hfile⟩
  refine ⟨clustersOf t.visited.elems, readOutline_dotText t hclustered, ?_, ?_, ?_, ?_⟩
  · intro c hc
    refine ⟨h.inhabited c hc, fun id hid => ?_⟩
    exact (liesIn_iff (hids id (h.mem_iff.mpr ⟨c, hc, hid⟩))).mpr (h.sameFile c hc id hid)
  · intro id
    rw [readOutline_dotText t hclustered]
    simp [List.count_append, count_node, h.nodes, hnodup.count]
  · intro file hcount
    rw [readOutline_dotText t hclustered] at hcount
    exact hlonger file (by simpa [List.count_append, count_label] using hcount)
  · intro hplain
    have hfiles : ((clustersOf t.visited.elems).map Cluster.file).Nodup := by
      rw [List.nodup_iff_count_le_one]
      intro file
      by_contra hcount
      obtain ⟨id, hid, rest, hlies⟩ := hlonger file (by omega)
      exact hplain id hid _ hlies (by simp)
    refine ⟨hfiles, fun file => ?_, fun c hc id => ?_⟩
    · rw [h.mem_files_iff]
      exact exists_congr fun id => and_congr_right fun hid => (liesIn_iff (hids id hid)).symm
    · rw [h.mem_nodes_iff hfiles hc]
      exact and_congr_right fun hid => (liesIn_iff (hids id hid)).symm

/-- A file whose nodes stand on either side of one of a longer file. -/
theorem clusters_by_file_cutIn :
    let t : Traversal := { visited := SortedSet.ofList ["m:f", "m:n:g", "m:z"] }
    let outline := readOutline (dotText t { clustered := true })
    (∀ id ∈ t.visited.elems, ∃ file, LiesIn file id) ∧ outline.count (.label "m") = 2 ∧
      outline.count (.node "m:z") = 1 ∧
      ∃ id ∈ t.visited.elems, ∃ rest, LiesIn ("m" ++ ":" ++ rest) id := by
  intro t outline
  have hvisited : t.visited.elems = ["m:f", "m:n:g", "m:z"] := by decide +kernel
  have hids : ∀ id ∈ t.visited.elems, ∃ file, LiesIn file id := by
    rw [hvisited]
    simp only [List.forall_mem_cons]
    refine ⟨⟨"m", "f", ?_⟩, ⟨"m:n", "g", ?_⟩, ⟨"m", "z", ?_⟩, by simp⟩ <;> unfold IsPlain <;> decide
  have hlabels : outline.count (.label "m") = 2 := by
    rw [show outline = _ from readOutline_dotText t rfl, hvisited]
    decide +kernel
  obtain ⟨-, -, -, hnode, hlonger, -⟩ := clusters_by_file t { clustered := true } rfl hids
  refine ⟨hids, hlabels, ?_, hlonger "m" hlabels.ge⟩
  rw [hnode, hvisited]
  decide

end PerlCalls.Export

import Mathlib
import PerlCalls.Export.Destination
import PerlCalls.Proofs.DiskWrites
import PerlCalls.Proofs.Expansion
import PerlCalls.Proofs.PathNames

/-! What becomes of a format that cannot be had.

Formats are tried in a row, and each that is not available is noted. The first that is available decides
(`exists_isFirstOf`). DOT text is always available and in every chain (`fallbackChain_eq`), so no chain comes to
its end undecided. But a format that is available can still fail, for a text that has numbers with too many
digits or that cannot be encoded, and is then not replaced by another one (`render_iff`). A result is written
to the destination, under its own suffix if it is not in the format asked for (`withExtension_replaced`), and
the disk changes in that one file (`Disk.Leads.write`). -/
namespace PerlCalls

namespace Text

/-- Characters are encoded as in the texts of the library. -/
theorem encodeChar_eq (c : Char) : encodeChar c = String.utf8EncodeChar c := by
  have hlt : c.toNat < 0x110000 := by
    show c.val.toNat < 0x110000
    rcases c.valid with h | h <;> omega
  have hle : ∀ k, (c.toNat ≤ k) = (c.toNat < k + 1) := fun k => by rw [Nat.lt_succ_iff]
  simp only [encodeChar, String.utf8EncodeChar, Char.toNat_val, Nat.toUInt8, hle, Nat.reduceAdd,
    Nat.add_comm 0x80]
  split_ifs with h1 h2 h3
  · rfl
  · rw [Nat.mod_eq_of_lt (show c.toNat / 64 < 32 by omega), Nat.add_comm]
  · rw [Nat.mod_eq_of_lt (show c.toNat / 4096 < 16 by omega), Nat.add_comm]
  · rw [Nat.mod_eq_of_lt (show c.toNat / 262144 < 8 by omega), Nat.add_comm]

theorem encode_eq (cs : List Char) : encode cs = (String.ofList cs).toUTF8.data.toList := by
  rw [String.toUTF8, String.toByteArray_ofList, List.utf8Encode, List.data_toByteArray, encode,
    funext encodeChar_eq]

end Text

namespace Files

/-! ### Suffixes -/

/-- The name is cut at its last dot, with something on either side of it. -/
structure CutsAtSuffix (name base ending : List Char) : Prop where
  name_eq : name = base ++ '.' :: ending
  last : '.' ∉ ending
  base_ne : base ≠ []
  ending_ne : ending ≠ []

theorem stem_of_cut {name base ending : List Char} (h : CutsAtSuffix name base ending) :
    stem name = base := by
  have hundotted : ∀ c ∈ ending.reverse, (c != '.') = true := by
    intro c hc
    rw [bne_iff_ne]
    rintro rfl
    exact h.last (List.mem_reverse.mp hc)
  have hback : name.reverse = ending.reverse ++ '.' :: base.reverse := by simp [h.name_eq]
  simp only [stem, hback]
  rw [List.takeWhile_append_of_pos hundotted, List.dropWhile_append_of_pos hundotted]
  simp [h.base_ne, h.ending_ne]

/-- What is in front of the last dot of a name, the dot, and what is behind it. -/
theorem eq_around_dot {name : List Char} (h : (name.reverse.dropWhile (· != '.')).tail ≠ []) :
    name = (name.reverse.dropWhile (· != '.')).tail.reverse ++
      '.' :: (name.reverse.takeWhile (· != '.')).reverse := by
  have hhead := List.head?_dropWhile_not (· != '.') name.reverse
  cases hback : name.reverse.dropWhile (· != '.') with
  | nil => simp [hback] at h
  | cons c rest =>
    rw [hback] at hhead
    have hc : c = '.' := by simpa using hhead
    have hall := List.takeWhile_append_dropWhile (p := (· != '.')) (l := name.reverse)
    rw [hback, hc] at hall
    simpa using (congrArg List.reverse hall).symm

theorem stem_of_uncut {name : List Char} (h : ∀ base ending, ¬CutsAtSuffix name base ending) :
    stem name = name := by
  simp only [stem]
  split_ifs with hnone
  · rfl
  · rw [Bool.or_eq_true, not_or, List.isEmpty_iff, List.isEmpty_iff, List.reverse_eq_nil_iff] at hnone
    obtain ⟨hending, hbase⟩ := hnone
    refine absurd ⟨eq_around_dot hbase, fun hdot => ?_, by simpa using hbase, by simpa using hending⟩
      (h _ _)
    simpa using List.mem_takeWhile_imp (List.mem_reverse.mp hdot)

namespace Path

/-- The second path is the first one with the extension in the place of its suffix, or behind its last
component if that has none. -/
def SuffixReplaced (p : Path) (extension : String) (q : Path) : Prop :=
  q.root = p.root ∧ ∃ parts name base, p.parts = parts ++ [name] ∧
    q.parts = parts ++ [String.ofList base ++ ("." ++ extension)] ∧
    ((∃ ending, CutsAtSuffix name.toList base ending) ∨
      base = name.toList ∧ ∀ before ending, ¬CutsAtSuffix name.toList before ending)

/-- A path with a last component can be given any extension. -/
theorem withExtension_replaced {p : Path} {extension : String} (hname : p.name ≠ "")
    (hextension : IsExtension extension.toList) :
    ∃ q, p.withExtension extension = .ok q ∧ p.SuffixReplaced extension q := by
  have hvalid : ¬(extension.toList.contains '/' || extension.isEmpty) = true := by
    have hne : extension ≠ "" := by simpa using hextension.nonempty
    simp [hextension.unbroken, String.isEmpty_iff, hne]
  obtain ⟨parts, name, hparts⟩ : ∃ parts name, p.parts = parts ++ [name] := by
    rcases List.eq_nil_or_concat' p.parts with hnil | hconcat
    · exact absurd (by simp [Path.name, hnil]) hname
    · exact hconcat
  have hlast : p.name = name := by simp [Path.name, hparts]
  refine ⟨{ p with parts := parts ++ [String.ofList (stem name.toList) ++ ("." ++ extension)] }, ?_,
    rfl, parts, name, stem name.toList, hparts, rfl, ?_⟩
  · rw [withExtension, if_neg hvalid, if_neg (by simpa [String.isEmpty_iff] using hname), hlast, hparts,
      List.dropLast_concat]
  · by_cases hcut : ∃ base ending, CutsAtSuffix name.toList base ending
    · obtain ⟨base, ending, hcut⟩ := hcut
      exact Or.inl ⟨ending, by rw [stem_of_cut hcut]; exact hcut⟩
    · have huncut : ∀ base ending, ¬CutsAtSuffix name.toList base ending :=
        fun base ending h => hcut ⟨base, ending, h⟩
      exact Or.inr ⟨stem_of_uncut huncut, huncut⟩

end Path

namespace Disk

/-! ### Places that can be written -/

/-- The path leads to a file, or to a free name in a directory that exists. -/
def Leads (disk : Disk) (path : String) (location : Location) : Prop :=
  ∃ standing, disk.locate path = .ok standing ∧ standing.location? = some location

/-- Such a path can be written, whatever the bytes are, and nothing but the file changes. -/
theorem Leads.write {disk : Disk} {path : String} {location : Location} (h : disk.Leads path location)
    (bytes : List UInt8) :
    ∃ disk', disk.write path bytes = .ok disk' ∧ disk.DiffersAt disk' location bytes ∧
      disk'.read path = .ok bytes := by
  obtain ⟨standing, hlocate, hlocation⟩ := h
  have hwrite : disk.write path bytes = .ok (disk.put location bytes) := by
    cases standing with
    | file place held =>
      cases hlocation
      rw [Disk.write, hlocate]
    | absent place =>
      cases hlocation
      rw [Disk.write, hlocate]
    | directory => cases hlocation
    | barred number reason => cases hlocation
  obtain ⟨standing', location', hlocate', hlocation', hdiffers⟩ := write_differsAt hwrite
  obtain rfl : standing = standing' := Except.ok.inj (hlocate.symm.trans hlocate')
  obtain rfl : location = location' := Option.some.inj (hlocation.symm.trans hlocation')
  refine ⟨_, hwrite, hdiffers, read_eq_ok_iff.mpr ⟨location, ?_⟩⟩
  rw [hdiffers.locate_ok hlocate, Standing.rewritten, if_pos hlocation]

end Disk

end Files

namespace Export

open PerlCalls.Graph
open Files Text

/-! ### Chains -/

theorem eraseDups_of_nodup {l : List String} (h : l.Nodup) : l.eraseDups = l := by
  induction l with
  | nil => rfl
  | cons a l ih =>
    obtain ⟨hnew, hrest⟩ := List.nodup_cons.mp h
    have hothers : l.filter (fun b => !b == a) = l := by
      refine List.filter_eq_self.mpr fun b hb => ?_
      simpa using fun hba : b = a => hnew (hba ▸ hb)
    rw [List.eraseDups_cons, hothers, ih hrest]

/-- The wanted format and the ones to turn to, each once. -/
theorem fallbackChain_eq (format : String) :
    fallbackChain format = [format, "svg", "png", "dot"].eraseDups := by
  have hnodup : (fallbackFormats.filter (· != format)).Nodup := List.Nodup.filter _ (by decide)
  rw [List.eraseDups_cons]
  exact congrArg (List.cons format) (eraseDups_of_nodup hnodup).symm

/-- Texts are encoded in UTF-8, those that are encoded at all. -/
def Backend.IsUtf8 (backend : Backend) : Prop :=
  ∀ text bytes, backend.encode text = .ok bytes → bytes = (String.ofList text).toUTF8.data.toList

namespace Drawing

variable (d : Drawing) (backend : Backend) (options : Options)

/-- The format is not available, and that is what the note says. -/
def Noted (format : String) (note : LogRecord) : Prop :=
  ∃ e, d.render backend options format = .error (.unavailable e) ∧ note = .fallingBack e.message

/-- The first format of the chain that is available, with one note for each format before it, in order. -/
structure IsFirstOf (chain : List String) (notes : List LogRecord) (format : String) : Prop where
  follows : ∃ before after, chain = before ++ format :: after ∧
    List.Forall₂ (d.Noted backend options) before notes
  available : ∀ e, d.render backend options format ≠ .error (.unavailable e)

/-- What the format is made of can be had. A text can be encoded, and no number in it has more than 4300
digits; the program that draws is asked. -/
structure CanBeMade (format : String) : Prop where
  dot : format = "dot" ∨ format = "gv" → ∃ bytes, backend.encode (dotText d.traversal options) = .ok bytes
  json : format = "json" →
    (∀ n ∈ (graphJson d.graph d.traversal options).numbers, n.natAbs < 10 ^ digitLimit) ∧
      ∃ bytes, backend.encode (jsonText d.graph d.traversal options) = .ok bytes
  image : format ∉ ["dot", "gv", "json"] → format ∈ backend.formats →
    ∀ refusal, backend.draw format ≠ .refused refusal

/-! ### One format -/

theorem encoded_ok (text : List Char) : encoded backend (.ok text) =
    match backend.encode text with
    | .ok bytes => .ok bytes
    | .error refusal => .error (.refused refusal) := by
  unfold encoded
  cases h : backend.encode text <;> simp [Except.bind, Except.mapError, h]

theorem encoded_ok_iff (text : List Char) :
    (∃ bytes, encoded backend (.ok text) = .ok bytes) ↔ ∃ bytes, backend.encode text = .ok bytes := by
  rw [encoded_ok]
  cases backend.encode text <;> simp

/-- Encoding has nothing to do with what is available. -/
theorem encoded_available (text : List Char) (e : Unavailable) :
    encoded backend (.ok text) ≠ .error (.unavailable e) := by
  rw [encoded_ok]
  split <;> simp

theorem isShort_iff (n : Int) : isShort n = true ↔ n.natAbs < 10 ^ digitLimit := by
  rw [isShort, decide_eq_true_iff, Nat.pow_eq]

theorem json_eq : d.json options =
    if ∀ n ∈ (graphJson d.graph d.traversal options).numbers, n.natAbs < 10 ^ digitLimit then
      .ok (jsonText d.graph d.traversal options)
    else .error .numberTooLong := by
  have hall : (graphJson d.graph d.traversal options).numbers.all isShort = true ↔
      ∀ n ∈ (graphJson d.graph d.traversal options).numbers, n.natAbs < 10 ^ digitLimit := by
    rw [List.all_eq_true]
    exact forall₂_congr fun n _ => isShort_iff n
  unfold json jsonText?
  by_cases h : ∀ n ∈ (graphJson d.graph d.traversal options).numbers, n.natAbs < 10 ^ digitLimit
  · rw [if_pos (hall.mpr h), if_pos h]
  · rw [if_neg (mt hall.mp h), if_neg h]

theorem render_dot {format : String} (h : format = "dot" ∨ format = "gv") :
    d.render backend options format = encoded backend (.ok (dotText d.traversal options)) := by
  rcases h with rfl | rfl <;> rfl

theorem render_json : d.render backend options "json" = encoded backend (d.json options) := rfl

theorem render_image {format : String} (h : format ∉ ["dot", "gv", "json"]) :
    d.render backend options format =
      if format ∈ backend.formats then
        match backend.draw format with
        | .image bytes => .ok bytes
        | .failed status => .error (.unavailable ⟨format, .failed status⟩)
        | .missing => .error (.unavailable ⟨format, .noProgram⟩)
        | .refused refusal => .error (.refused refusal)
      else .error (.unavailable ⟨format, .unsupported⟩) := by
  have hdot : (format == "dot" || format == "gv") = false := by grind
  have hjson : (format == "json") = false := by grind
  unfold render
  rw [if_neg (by simp [hdot]), if_neg (by simp [hjson])]
  by_cases hknown : format ∈ backend.formats
  · refine (if_neg (by simp [hknown])).trans (Eq.trans ?_ (if_pos hknown).symm)
    cases backend.draw format <;> rfl
  · exact (if_pos (by simp [hknown])).trans (if_neg hknown).symm

/-- An available format gives its bytes exactly if it can be made. -/
theorem render_iff {format : String}
    (havailable : ∀ e, d.render backend options format ≠ .error (.unavailable e)) :
    (∃ bytes, d.render backend options format = .ok bytes) ↔ d.CanBeMade backend options format := by
  by_cases hdot : format = "dot" ∨ format = "gv"
  · rw [render_dot _ _ _ hdot, encoded_ok_iff]
    exact ⟨fun h => ⟨fun _ => h, by grind, by grind⟩, fun h => h.dot hdot⟩
  by_cases hjson : format = "json"
  · subst hjson
    have hmade : d.CanBeMade backend options "json" ↔
        (∀ n ∈ (graphJson d.graph d.traversal options).numbers, n.natAbs < 10 ^ digitLimit) ∧
          ∃ bytes, backend.encode (jsonText d.graph d.traversal options) = .ok bytes :=
      ⟨fun h => h.json rfl, fun h => ⟨fun heq => absurd heq hdot, fun _ => h, by simp⟩⟩
    rw [hmade, render_json, json_eq]
    split_ifs with hshort
    · rw [encoded_ok_iff, and_iff_right hshort]
    · have hnone : ¬∃ bytes, encoded backend (.error .numberTooLong) = .ok bytes := fun ⟨_, h⟩ => nomatch h
      exact iff_of_false hnone fun h => hshort h.1
  · have himage : format ∉ ["dot", "gv", "json"] := by grind
    rw [render_image _ _ _ himage] at havailable ⊢
    have hmade : d.CanBeMade backend options format ↔
        (format ∈ backend.formats → ∀ refusal, backend.draw format ≠ .refused refusal) :=
      ⟨fun h => h.image himage, fun h => ⟨fun heq => absurd heq hdot, fun heq => absurd heq hjson, fun _ => h⟩⟩
    rw [hmade]
    by_cases hknown : format ∈ backend.formats
    · rw [if_pos hknown] at havailable ⊢
      cases hdraw : backend.draw format with
      | image bytes => simp
      | failed status => simp [hdraw] at havailable
      | missing => simp [hdraw] at havailable
      | refused refusal => simp [hknown]
    · rw [if_neg hknown] at havailable
      exact absurd rfl (havailable _)

theorem dot_available (e : Unavailable) : d.render backend options "dot" ≠ .error (.unavailable e) := by
  rw [render_dot _ _ _ (Or.inl rfl)]
  exact encoded_available _ _ e

variable {d backend options}

/-! ### The first format -/

/-- An available format ends the search. -/
theorem firstRendering_available {format : String}
    (h : ∀ e, d.render backend options format ≠ .error (.unavailable e)) (rest : List String) :
    d.firstRendering backend options (format :: rest) =
      ([], (d.render backend options format).map (Rendering.mk format)) := by
  rw [firstRendering]
  cases hrender : d.render backend options format with
  | ok bytes => rfl
  | error e =>
    cases e with
    | unavailable e => exact absurd hrender (h e)
    | numberTooLong => rfl
    | refused refusal => rfl

/-- Any other is noted, and the search goes on. -/
theorem firstRendering_unavailable {format : String} {e : Unavailable}
    (h : d.render backend options format = .error (.unavailable e)) (rest : List String) :
    d.firstRendering backend options (format :: rest) =
      (.fallingBack e.message :: (d.firstRendering backend options rest).1,
        (d.firstRendering backend options rest).2) := by
  rw [firstRendering, h]

/-- A chain with a format that is available is decided by the first one. The induction is along the chain. -/
theorem exists_isFirstOf {chain : List String} {format : String} (hmem : format ∈ chain)
    (havailable : ∀ e, d.render backend options format ≠ .error (.unavailable e)) :
    ∃ notes first, d.IsFirstOf backend options chain notes first ∧
      d.firstRendering backend options chain =
        (notes, (d.render backend options first).map (Rendering.mk first)) := by
  induction chain with
  | nil => cases hmem
  | cons first rest ih =>
    by_cases hfirst : ∃ e, d.render backend options first = .error (.unavailable e)
    · obtain ⟨e, hfirst⟩ := hfirst
      have hrest : format ∈ rest := by
        rcases List.mem_cons.mp hmem with rfl | hrest
        · exact absurd hfirst (havailable e)
        · exact hrest
      obtain ⟨notes, found, ⟨⟨before, after, hchain, hnotes⟩, hfound⟩, hlater⟩ := ih hrest
      refine ⟨.fallingBack e.message :: notes, found, ⟨⟨first :: before, after, ?_, ?_⟩, hfound⟩, ?_⟩
      · rw [hchain, List.cons_append]
      · exact .cons ⟨e, hfirst, rfl⟩ hnotes
      · rw [firstRendering_unavailable hfirst, hlater]
    · rw [not_exists] at hfirst
      exact ⟨[], first, ⟨⟨[], rest, rfl, .nil⟩, hfirst⟩, firstRendering_available hfirst rest⟩

/-- If nothing before an available format is available, it is the first one. -/
theorem IsFirstOf.eq_of_unavailable {chain before after : List String} {notes : List LogRecord}
    {first format : String} (h : d.IsFirstOf backend options chain notes first)
    (hchain : chain = before ++ format :: after)
    (hbefore : ∀ f ∈ before, ∃ e, d.render backend options f = .error (.unavailable e))
    (havailable : ∀ e, d.render backend options format ≠ .error (.unavailable e)) : first = format := by
  obtain ⟨front, back, hfirst, hnotes⟩ := h.follows
  have hfront : ∀ f ∈ front, ∃ e, d.render backend options f = .error (.unavailable e) := by
    have hboth := hnotes.imp fun f note (h : d.Noted backend options f note) =>
      And.intro (h.imp fun e he => he.1) h
    exact ((List.forall₂_and_left ..).mp hboth).1
  -- Neither format stands before the other, since what stands before either is not available.
  rcases List.append_eq_append_iff.mp (hfirst.symm.trans hchain) with ⟨between, hsplit, htail⟩ |
    ⟨between, hsplit, htail⟩
  · cases between with
    | nil => exact (List.cons.inj htail).1
    | cons f rest =>
      obtain ⟨e, he⟩ := hbefore f (by simp [hsplit])
      exact absurd ((List.cons.inj htail).1 ▸ he) (h.available e)
  · cases between with
    | nil => exact (List.cons.inj htail).1.symm
    | cons f rest =>
      obtain ⟨e, he⟩ := hfront f (by simp [hsplit])
      exact absurd ((List.cons.inj htail).1 ▸ he) (havailable e)

theorem write_eq {notes : List LogRecord} {format : String} {bytes : List UInt8}
    (h : d.renderWithFallback backend options = (notes, .ok ⟨format, bytes⟩)) {disk : Disk}
    {destination : String} {target : Path}
    (htarget : if format = options.format then target = Path.ofString destination
      else (Path.ofString destination).withExtension format = .ok target) {disk' : Disk}
    (hwrite : disk.write target.toString bytes = .ok disk') :
    d.write backend options disk destination =
      (notes ++ [.wrote format target.toString], .ok ⟨format, target.toString, disk'⟩) := by
  rw [write, h]
  dsimp only
  by_cases hsame : format = options.format
  · rw [if_pos hsame] at htarget
    rw [if_pos (beq_iff_eq.mpr hsame), ← htarget]
    dsimp only
    rw [hwrite]
  · rw [if_neg hsame] at htarget
    rw [if_neg (mt beq_iff_eq.mp hsame), htarget]
    dsimp only
    rw [hwrite]

end Drawing

/-! ### The numbers of the JSON text -/

theorem numbersOfItems_eq (items : List Json) : numbersOfItems items = items.flatMap Json.numbers := by
  induction items with
  | nil => rfl
  | cons item items ih => rw [numbersOfItems, ih, List.flatMap_cons]

/-- The weight of an edge that is drawn is in the JSON text. -/
theorem weight_mem_numbers {g : CallGraph} {t : Traversal} {e : Edge} (he : e ∈ t.edges.elems)
    (options : Options) : (edgeRow g e).weight ∈ (graphJson g t options).numbers := by
  have hrow : (edgeRow g e).json ∈ (edgeRows g t).map EdgeRow.json :=
    List.mem_map_of_mem (List.mem_map_of_mem he)
  have hmem : (edgeRow g e).weight ∈ numbersOfItems ((edgeRows g t).map EdgeRow.json) := by
    rw [numbersOfItems_eq]
    exact List.mem_flatMap.mpr ⟨_, hrow, by simp [EdgeRow.json, Json.numbers, numbersOfFields]⟩
  simp only [graphJson, Json.numbers, numbersOfFields, List.mem_append]
  tauto

/-- A call from a start node is drawn. -/
theorem edge_mem_traverse {g : CallGraph} {starts : List NodeId} {a b : NodeId} (ha : a ∈ starts)
    (hb : b ∈ g.invokes.neighbours a) : ⟨a, b⟩ ∈ (g.traverse starts).edges.elems := by
  have hstart : a ∈ (SortedSet.ofList starts).elems := (SortedSet.mem_elems_ofList starts a).mpr ha
  exact SortedSet.mem_elems_iff.mpr ((passed_foldl_expandStart g {} hstart).2 .down b hb).2

/-! ### The chain -/

/-- A format other than the one asked for is one of the formats to turn to, and makes an extension. -/
theorem isExtension_of_fallback {format asked : String} (h : format ∈ fallbackChain asked)
    (hother : format ≠ asked) : IsExtension format.toList := by
  have hall : ∀ f ∈ fallbackFormats, f.toList ≠ [] ∧ '/' ∉ f.toList := by decide
  rcases List.mem_cons.mp h with heq | hmem
  · exact absurd heq hother
  · obtain ⟨hne, hslash⟩ := hall format (List.mem_of_mem_filter hmem)
    exact ⟨hne, hslash⟩

/-- The result has a place to go to: the destination, or that under the suffix of another format. -/
theorem exists_target {format asked : String} (h : format ∈ fallbackChain asked) {p : Path}
    (hname : p.name ≠ "") :
    ∃ target : Path, if format = asked then target = p
      else p.withExtension format = .ok target ∧ p.SuffixReplaced format target := by
  by_cases hsame : format = asked
  · simp [hsame]
  · simp only [if_neg hsame]
    exact Path.withExtension_replaced hname (isExtension_of_fallback h hsame)

/-- **The first available format decides.** Whatever format is asked for and whatever the backend does, the
chain has a format that is available, and there is one note for each format before the first such, and no
other note. It is DOT if nothing before that is available, and then in UTF-8. If it can be made, the result
is what rendering it gives; if not, there is no result and nothing is written. A destination with a last
component that can be written, or that can be written with the suffix of the format where that is not the
one asked for, gets exactly these bytes, and no other file changes. -/
theorem Drawing.renderWithFallback_first (d : Drawing) (backend : Backend) (hutf8 : backend.IsUtf8)
    (options : Options) :
    let chain := [options.format, "svg", "png", "dot"].eraseDups
    ∃ notes format, d.IsFirstOf backend options chain notes format ∧
      d.renderWithFallback backend options =
        (notes, (d.render backend options format).map (Rendering.mk format)) ∧
      ((∃ bytes, d.render backend options format = .ok bytes) ↔ d.CanBeMade backend options format) ∧
      (∀ before after, chain = before ++ "dot" :: after →
        (∀ f ∈ before, ∃ e, d.render backend options f = .error (.unavailable e)) →
        format = "dot" ∧ ∀ bytes, d.render backend options "dot" = .ok bytes →
          bytes = (String.ofList (dotText d.traversal options)).toUTF8.data.toList) ∧
      (∀ e, d.render backend options format = .error e → ∀ disk destination,
        d.write backend options disk destination = (notes, .error (.render e))) ∧
      ∀ bytes, d.render backend options format = .ok bytes →
        ∀ disk destination, (Path.ofString destination).name ≠ "" →
          ∃ target : Path,
            (if format = options.format then target = Path.ofString destination
              else (Path.ofString destination).withExtension format = .ok target ∧
                (Path.ofString destination).SuffixReplaced format target) ∧
            ∀ location, disk.Leads target.toString location →
              ∃ disk', d.write backend options disk destination =
                  (notes ++ [.wrote format target.toString], .ok ⟨format, target.toString, disk'⟩) ∧
                disk.DiffersAt disk' location bytes ∧ disk'.read target.toString = .ok bytes := by
  intro chain
  have hchain : fallbackChain options.format = chain := fallbackChain_eq options.format
  have hdot : "dot" ∈ chain := List.mem_eraseDups.mpr (by simp)
  obtain ⟨notes, format, hfirst, hresult⟩ := exists_isFirstOf hdot (d.dot_available backend options)
  replace hresult : d.renderWithFallback backend options = _ := hchain ▸ hresult
  refine ⟨notes, format, hfirst, hresult, ?_, fun before after hsplit hbefore => ⟨?_, fun bytes hbytes => ?_⟩,
    fun e he disk destination => ?_, fun bytes hbytes disk destination hname => ?_⟩
  · exact d.render_iff backend options hfirst.available
  · exact hfirst.eq_of_unavailable hsplit hbefore (d.dot_available backend options)
  · rw [d.render_dot _ _ (Or.inl rfl), encoded_ok] at hbytes
    cases hencode : backend.encode (dotText d.traversal options) with
    | error reason => simp [hencode] at hbytes
    | ok held =>
      rw [hencode] at hbytes
      exact hutf8 _ _ (Except.ok.inj hbytes ▸ hencode)
  · rw [write, hresult, he]
    rfl
  · have hmem : format ∈ fallbackChain options.format := by
      obtain ⟨before, after, hsplit, -⟩ := hfirst.follows
      rw [hchain, hsplit]
      simp
    obtain ⟨target, htarget⟩ := exists_target hmem hname
    refine ⟨target, htarget, fun location hleads => ?_⟩
    obtain ⟨disk', hwrite, hdiffers, hread⟩ := hleads.write bytes
    rw [hbytes] at hresult
    refine ⟨disk', write_eq hresult ?_ hwrite, hdiffers, hread⟩
    split_ifs at htarget ⊢ with hsame
    · exact htarget
    · exact htarget.1

/-- DOT in place of a format that nobody knows, in a file whose last suffix is replaced. -/
theorem Drawing.renderWithFallback_first_dotted :
    let graph := ({} : CallGraph).addEdge "a.pl:main" "a.pl:helper" 1
    let d : Drawing := ⟨graph, graph.traverse ["a.pl:main"]⟩
    let backend : Backend := ⟨["svg", "png"], fun _ => .failed 3, fun text => .ok (encode text)⟩
    let disk : Disk := { entries := [(["out.tar.gz"], .file [])] }
    backend.IsUtf8 ∧ ∃ disk' : Disk,
      d.write backend { format := "xls" } disk "out.tar.gz" =
        ([.fallingBack "Cannot render 'xls': format not supported by graphviz",
          .fallingBack "Cannot render 'svg': graphviz exited with status 3",
          .fallingBack "Cannot render 'png': graphviz exited with status 3",
          .wrote "dot" "out.tar.dot"], .ok ⟨"dot", "out.tar.dot", disk'⟩) ∧
      disk.DiffersAt disk' ["out.tar.dot"]
        (String.ofList (dotText d.traversal { format := "xls" })).toUTF8.data.toList := by
  intro graph d backend disk
  have hutf8 : backend.IsUtf8 := fun text bytes h => (Except.ok.inj h).symm.trans (encode_eq text)
  obtain ⟨notes, format, -, hresult, -, hdot, -, hwrite⟩ :=
    d.renderWithFallback_first backend hutf8 { format := "xls" }
  have hbefore : ∀ f ∈ ["xls", "svg", "png"],
      ∃ e, d.render backend { format := "xls" } f = .error (.unavailable e) := by
    simp only [List.forall_mem_cons]
    exact ⟨⟨_, rfl⟩, ⟨_, rfl⟩, ⟨_, rfl⟩, by simp⟩
  obtain ⟨rfl, hbytes⟩ := hdot ["xls", "svg", "png"] [] (by decide) hbefore
  have hnotes : notes = [.fallingBack "Cannot render 'xls': format not supported by graphviz",
      .fallingBack "Cannot render 'svg': graphviz exited with status 3",
      .fallingBack "Cannot render 'png': graphviz exited with status 3"] :=
    (congrArg Prod.fst hresult).symm
  obtain ⟨target, htarget, hplaced⟩ := hwrite _ rfl disk "out.tar.gz" (by decide +kernel)
  rw [if_neg (by decide)] at htarget
  have hsuffix : (Path.ofString "out.tar.gz").withExtension "dot" = .ok (Path.ofString "out.tar.dot") := by
    decide +kernel
  obtain rfl : target = Path.ofString "out.tar.dot" := Except.ok.inj (htarget.1.symm.trans hsuffix)
  have hpath : (Path.ofString "out.tar.dot").toString = "out.tar.dot" := by decide +kernel
  rw [hpath] at hplaced
  obtain ⟨disk', hwritten, hdiffers, -⟩ := hplaced ["out.tar.dot"] ⟨.absent ["out.tar.dot"], rfl, rfl⟩
  rw [hnotes] at hwritten
  rw [hbytes _ rfl] at hdiffers
  exact ⟨hutf8, disk', hwritten, hdiffers⟩

/-- An available format that cannot be made: a number with 4301 digits is in the JSON text, or no text can be
encoded. No other format is tried, though the backend would draw one, and nothing is written. -/
theorem Drawing.renderWithFallback_stuck :
    let weight : Nat := 5 * 10 ^ 4299
    let graph := (({} : CallGraph).addEdge "a" "b" weight).addEdge "a" "b" weight
    let d : Drawing := ⟨graph, graph.traverse ["a"]⟩
    let images : Backend := ⟨["svg"], fun _ => .image [7], fun text => .ok (encode text)⟩
    d.write images { format := "json" } {} "out.json" = ([], .error (.render .numberTooLong)) ∧
      ∀ refusal, d.write { images with encode := fun _ => .error refusal } { format := "dot" } {} "out.dot" =
        ([], .error (.render (.refused refusal))) := by
  intro weight graph d images
  have hedge : ⟨"a", "b"⟩ ∈ d.traversal.edges.elems := edge_mem_traverse (by simp) (by decide +kernel)
  have hlong : isShort (edgeRow graph ⟨"a", "b"⟩).weight = false := by decide +kernel
  have hjson : d.json { format := "json" } = .error .numberTooLong := by
    rw [json_eq, if_neg]
    intro hshort
    exact Bool.false_ne_true (hlong.symm.trans ((isShort_iff _).mpr (hshort _ (weight_mem_numbers hedge _))))
  constructor
  · have hrender : d.renderWithFallback images { format := "json" } = ([], .error .numberTooLong) := by
      rw [renderWithFallback, fallbackChain, firstRendering, render_json, hjson]
      rfl
    rw [write, hrender]
  · exact fun refusal => rfl

end Export

end PerlCalls

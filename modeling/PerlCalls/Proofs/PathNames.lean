import Mathlib
import PerlCalls.Files.Disk
import PerlCalls.Files.Path
import PerlCalls.Proofs.Pieces

/-! Paths as texts.

A path in normal form is read back from its text (`ofString_toString`), and its text ends like its last
component. So does the name under which the disk looks for it (`steps_ends`): whatever stands between
the last slash and the end of a path is the name of the file. -/
namespace PerlCalls.Files

open Text

/-! ### Components -/

/-- Something between two slashes that says where to go. -/
structure IsComponent (part : String) : Prop where
  nonempty : part.toList ≠ []
  not_dot : part.toList ≠ ['.']
  unbroken : '/' ∉ part.toList

theorem isComponent_of_mem {cs : List Char} {part : String} (h : part ∈ components cs) :
    IsComponent part := by
  obtain ⟨piece, hpiece, rfl⟩ := List.mem_map.mp h
  obtain ⟨hsplit, hkept⟩ := List.mem_filter.mp hpiece
  rw [Bool.and_eq_true, Bool.not_eq_true', List.isEmpty_eq_false_iff, bne_iff_ne] at hkept
  refine ⟨?_, ?_, ?_⟩
  · rw [String.toList_ofList]
    exact hkept.1
  · rw [String.toList_ofList]
    exact hkept.2
  · rw [String.toList_ofList]
    exact not_mem_of_mem_splitOnChar hsplit

theorem components_slash (cs : List Char) : components ('/' :: cs) = components cs := by
  simp [components, splitOnChar]

/-- Components that are joined by slashes are found again. -/
theorem components_joinWith {parts : List String} (h : ∀ part ∈ parts, IsComponent part) :
    components (joinWith ['/'] (parts.map String.toList)) = parts := by
  by_cases hne : parts = []
  · subst hne
    rfl
  have hsplit : splitOnChar '/' (joinWith ['/'] (parts.map String.toList)) = parts.map String.toList := by
    refine splitOnChar_joinWith (by simpa using hne) fun piece hpiece => ?_
    obtain ⟨part, hpart, rfl⟩ := List.mem_map.mp hpiece
    exact (h part hpart).unbroken
  have hkept : (parts.map String.toList).filter (fun piece => !piece.isEmpty && piece != ['.']) =
      parts.map String.toList := by
    refine List.filter_eq_self.mpr fun piece hpiece => ?_
    obtain ⟨part, hpart, rfl⟩ := List.mem_map.mp hpiece
    simp [(h part hpart).nonempty, (h part hpart).not_dot]
  rw [components, hsplit, hkept, List.map_map]
  exact (List.map_congr_left fun part _ => String.ofList_toList).trans (List.map_id parts)

/-- An ending that begins with a dot and goes on without a slash. -/
structure IsExtension (extension : List Char) : Prop where
  nonempty : extension ≠ []
  unbroken : '/' ∉ extension

theorem IsExtension.dotted {extension : List Char} (h : IsExtension extension) :
    '/' ∉ '.' :: extension :=
  List.not_mem_cons_of_ne_of_not_mem (by decide) h.unbroken

/-- What ends in an extension is neither empty nor a dot. -/
theorem IsExtension.long {extension piece : List Char} (h : IsExtension extension)
    (hpiece : '.' :: extension <:+ piece) : piece ≠ [] ∧ piece ≠ ['.'] := by
  have hpos : 0 < extension.length := List.length_pos_iff.mpr h.nonempty
  have hlength := hpiece.length_le
  rw [List.length_cons] at hlength
  constructor
  · rintro rfl
    simp at hlength
  · rintro rfl
    simp only [List.length_cons, List.length_nil] at hlength
    omega

/-- A relative path that ends in an extension has a last component that does. -/
theorem components_ends {extension cs : List Char} (h : IsExtension extension)
    (hcs : '.' :: extension <:+ cs) :
    ∃ parts last, components cs = parts ++ [last] ∧ '.' :: extension <:+ last.toList := by
  obtain ⟨pieces, last, hsplit, hlast⟩ := splitOnChar_ends h.dotted hcs
  obtain ⟨hnonempty, hdot⟩ := h.long hlast
  have hkept : ([last].filter fun piece => !piece.isEmpty && piece != ['.']) = [last] := by
    simp [hnonempty, hdot]
  refine ⟨(pieces.filter fun piece => !piece.isEmpty && piece != ['.']).map String.ofList,
    String.ofList last, ?_, by rw [String.toList_ofList]; exact hlast⟩
  rw [components, hsplit, List.filter_append, hkept, List.map_append, List.map_singleton]

/-- The disk looks for such a path under a name that ends in the extension. -/
theorem steps_ends {extension cs : List Char} (h : IsExtension extension)
    (hcs : '.' :: extension <:+ cs) :
    ∃ last, (Disk.steps cs).getLast? = some last ∧ '.' :: extension <:+ last.toList := by
  obtain ⟨pieces, last, hsplit, hlast⟩ := splitOnChar_ends h.dotted hcs
  have hopen : cs.getLast? ≠ some '/' := by
    obtain ⟨front, rfl⟩ := hcs
    rw [List.getLast?_append_of_ne_nil _ (List.cons_ne_nil _ _)]
    exact fun hslash => h.dotted (List.mem_of_getLast? hslash)
  refine ⟨String.ofList last, ?_, by rw [String.toList_ofList]; exact hlast⟩
  rw [Disk.steps, hsplit, List.filter_append,
    List.filter_cons_of_pos (by simp [(h.long hlast).1]), List.filter_nil, List.map_append,
    List.map_singleton, if_neg (mt beq_iff_eq.mp hopen), List.getLast?_concat]

namespace Path

/-! ### Normal paths -/

/-- The path is one that a text may stand for. -/
structure IsNormal (p : Path) : Prop where
  root : p.root = "" ∨ p.root = "/" ∨ p.root = "//"
  parts : ∀ part ∈ p.parts, IsComponent part

theorem isNormal_ofString (s : String) : (ofString s).IsNormal where
  root := by
    simp only [ofString]
    split_ifs <;> simp
  parts _ h := isComponent_of_mem h

theorem IsNormal.append {p : Path} (h : p.IsNormal) (relative : String) :
    (p.append relative).IsNormal where
  root := h.root
  parts part hpart := by
    rcases List.mem_append.mp hpart with hpart | hpart
    · exact h.parts part hpart
    · exact isComponent_of_mem hpart

theorem stem_subset (name : List Char) : stem name ⊆ name := by
  simp only [stem]
  split_ifs
  · exact List.Subset.refl name
  · intro c hc
    exact List.mem_reverse.mp ((List.dropWhile_sublist _).subset
      (List.mem_of_mem_tail (List.mem_reverse.mp hc)))

/-- A path that has been given a suffix is normal if it was, and its last component has the suffix. -/
theorem IsNormal.withExtension {p q : Path} {extension : String} (h : p.IsNormal)
    (hq : p.withExtension extension = .ok q) :
    q.IsNormal ∧ ∃ parts last, q.parts = parts ++ [last] ∧ '.' :: extension.toList <:+ last.toList := by
  simp only [Path.withExtension] at hq
  split_ifs at hq with hinvalid hname
  cases hq
  rw [Bool.or_eq_true, not_or, List.contains_iff_mem, String.isEmpty_iff] at hinvalid
  have hextension : IsExtension extension.toList :=
    ⟨fun hnil => hinvalid.2 (String.toList_eq_nil_iff.mp hnil), hinvalid.1⟩
  have hlast : (String.ofList (stem p.name.toList) ++ ("." ++ extension)).toList =
      stem p.name.toList ++ '.' :: extension.toList := by simp [String.toList_append]
  have hends : '.' :: extension.toList <:+
      (String.ofList (stem p.name.toList) ++ ("." ++ extension)).toList := by
    rw [hlast]
    exact List.suffix_append ..
  have hstem : '/' ∉ stem p.name.toList := by
    intro hslash
    have hmem := stem_subset _ hslash
    rw [Path.name] at hmem
    cases hgot : p.parts.getLast? with
    | none => simp [hgot] at hmem
    | some part =>
      rw [hgot] at hmem
      exact (h.parts part (List.mem_of_getLast? hgot)).unbroken hmem
  have hcomponent : IsComponent (String.ofList (stem p.name.toList) ++ ("." ++ extension)) := by
    refine ⟨(hextension.long hends).1, (hextension.long hends).2, ?_⟩
    rw [hlast]
    exact fun hslash => (List.mem_append.mp hslash).elim hstem hextension.dotted
  refine ⟨⟨h.root, fun part hpart => ?_⟩, _, _, rfl, hends⟩
  rcases List.mem_append.mp hpart with hpart | hpart
  · exact h.parts part (List.dropLast_subset _ hpart)
  · rw [List.mem_singleton.mp hpart]
    exact hcomponent

/-! ### Texts of paths -/

theorem toList_text (p : Path) : (p.root ++ "/".intercalate p.parts).toList =
    p.root.toList ++ joinWith ['/'] (p.parts.map String.toList) := by
  rw [String.toList_append, String.toList_intercalate, joinWith_eq_intercalate]
  rfl

theorem toString_of_parts {p : Path} {parts : List String} {last : String}
    (h : p.parts = parts ++ [last]) (hlast : IsComponent last) :
    p.toString.toList = p.root.toList ++ joinWith ['/'] (p.parts.map String.toList) := by
  simp only [toString]
  rw [if_neg, toList_text]
  rw [String.isEmpty_iff, ← String.toList_eq_nil_iff, toList_text, h, List.map_append,
    List.map_singleton]
  intro hnil
  have hends := joinWith_concat_ends ['/'] (parts.map String.toList) last.toList
  rw [(List.append_eq_nil_iff.mp hnil).2] at hends
  exact hlast.nonempty (List.suffix_nil.mp hends)

/-- A text ends like the last component of its path. -/
theorem IsNormal.toString_ends {p : Path} {parts : List String} {last : String} {ending : List Char}
    (h : p.IsNormal) (hparts : p.parts = parts ++ [last]) (hlast : ending <:+ last.toList) :
    ending <:+ p.toString.toList := by
  have hcomponent : IsComponent last := h.parts last (by simp [hparts])
  rw [toString_of_parts hparts hcomponent, hparts, List.map_append, List.map_singleton]
  exact hlast.trans ((joinWith_concat_ends ..).trans (List.suffix_append ..))

theorem IsNormal.withExtension_ends {p q : Path} {extension : String} (h : p.IsNormal)
    (hq : p.withExtension extension = .ok q) : '.' :: extension.toList <:+ q.toString.toList := by
  obtain ⟨hnormal, parts, last, hparts, hlast⟩ := h.withExtension hq
  exact hnormal.toString_ends hparts hlast

/-- A file in a directory is not the directory, and ends like its own name. -/
theorem IsNormal.append_ends {p : Path} {extension : List Char} {relative : String} (h : p.IsNormal)
    (hextension : IsExtension extension) (hrelative : '.' :: extension <:+ relative.toList) :
    p.append relative ≠ p ∧ '.' :: extension <:+ (p.append relative).toString.toList := by
  obtain ⟨parts, last, hcomponents, hlast⟩ := components_ends hextension hrelative
  constructor
  · intro hsame
    have hparts : p.parts ++ components relative.toList = p.parts := congrArg Path.parts hsame
    rw [List.append_right_eq_self, hcomponents] at hparts
    simp at hparts
  · have hparts : (p.append relative).parts = (p.parts ++ parts) ++ [last] := by
      rw [List.append_assoc, ← hcomponents]
      rfl
    exact (h.append relative).toString_ends hparts hlast

/-- Components do not begin with a slash, and neither do they joined. -/
theorem takeWhile_joinWith {parts : List String} (h : ∀ part ∈ parts, IsComponent part) :
    (joinWith ['/'] (parts.map String.toList)).takeWhile (· == '/') = [] := by
  cases parts with
  | nil => rfl
  | cons part rest =>
    have hpart := h part (List.mem_cons_self ..)
    obtain ⟨c, cs, hcs⟩ := List.exists_cons_of_ne_nil hpart.nonempty
    have hc : (c == '/') = false := by
      refine beq_eq_false_iff_ne.mpr fun hslash => hpart.unbroken ?_
      rw [hcs, hslash]
      exact List.mem_cons_self ..
    rw [List.map_cons, hcs]
    cases rest with
    | nil => simp [joinWith, hc]
    | cons next rest => simp [joinWith, hc]

/-- **A normal path is read back from its text.** -/
theorem ofString_toString {p : Path} (h : p.IsNormal) : ofString p.toString = p := by
  obtain ⟨root, parts⟩ := p
  rcases List.eq_nil_or_concat' parts with rfl | ⟨front, last, rfl⟩
  · rcases h.root with rfl | rfl | rfl <;> decide
  · have hlast : IsComponent last := h.parts last (List.mem_append_right _ (List.mem_singleton.mpr rfl))
    have htext := toString_of_parts (p := ⟨root, front ++ [last]⟩) rfl hlast
    have htake := takeWhile_joinWith h.parts
    have hcomponents := components_joinWith h.parts
    dsimp only at htext htake hcomponents
    generalize joinWith ['/'] ((front ++ [last]).map String.toList) = cs at htext htake hcomponents
    have hslashes : ∀ slashes : List Char, (∀ c ∈ slashes, (c == '/') = true) →
        (slashes ++ cs).takeWhile (· == '/') = slashes := by
      intro slashes hall
      rw [List.takeWhile_append_of_pos hall, htake, List.append_nil]
    simp only [ofString, htext]
    rcases h.root with hroot | hroot | hroot
    · obtain rfl : root = "" := hroot
      rw [hslashes "".toList (by simp)]
      exact congrArg (Path.mk "") hcomponents
    · obtain rfl : root = "/" := hroot
      rw [hslashes "/".toList (by simp)]
      exact congrArg (Path.mk "/") ((components_slash cs).trans hcomponents)
    · obtain rfl : root = "//" := hroot
      rw [hslashes "//".toList (by simp)]
      exact congrArg (Path.mk "//")
        ((components_slash _).trans ((components_slash cs).trans hcomponents))

end Path

end PerlCalls.Files

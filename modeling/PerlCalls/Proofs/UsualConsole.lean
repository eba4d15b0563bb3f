import Mathlib
import PerlCalls.Proofs.Formats
import PerlCalls.Proofs.LowerCase
import PerlCalls.Proofs.SoundTexts

/-! The console of a width is lawful.

A text is cut into pieces, and the pieces are read one after the other. A balanced text leaves nothing
open behind it (`foldlM_balanced`), so a closing tag that follows has nothing to close, and where no tag
follows all that can still go wrong is a style without meaning, of which there is none here. Tables of
plain texts are drawn (`Table.lines_of_plain`). -/
namespace PerlCalls.Report

open Text

/-! ### Pieces -/

theorem piecesFrom_cons {c : Char} (hbracket : c ≠ '[') (hslash : c ≠ '\\') (back rest : List Char) :
    piecesFrom back (c :: rest) = piecesFrom (c :: back) rest := by
  have hc : (c == '\\') = false := beq_eq_false_iff_ne.mpr hslash
  have hdrop : (c :: rest).dropWhile (· == '\\') = c :: rest :=
    List.dropWhile_cons_of_neg (by simp [hslash])
  rw [piecesFrom]
  split
  next content after htag =>
    rw [hdrop, tagAhead?] at htag
    · cases htag
    · exact fun _ _ heq => hbracket (List.cons.inj heq).1
  next => rw [hc, if_neg Bool.false_ne_true]

theorem piecesFrom_bare {cs : List Char} (h : IsBare cs) (back rest : List Char) :
    piecesFrom back (cs ++ rest) = piecesFrom (cs.reverse ++ back) rest := by
  induction cs generalizing back with
  | nil => rfl
  | cons c cs ih =>
    obtain ⟨hc, hcs⟩ := not_or.mp (mt List.mem_cons.mpr h.1)
    obtain ⟨hc', hcs'⟩ := not_or.mp (mt List.mem_cons.mpr h.2)
    rw [List.cons_append, piecesFrom_cons (Ne.symm hc) (Ne.symm hc'), ih ⟨hcs, hcs'⟩]
    simp

theorem tagAhead?_of_plain {cs : List Char} (h : IsPlain cs) : tagAhead? cs = none := by
  unfold tagAhead?
  split
  next => exact absurd (List.mem_cons_self ..) h
  next => rfl

/-- What stands in brackets is a tag, if it begins like one. -/
theorem tagAhead?_brackets {c : Char} {content : List Char} (hc : beginsTag c = true)
    (hopen : '[' ∉ content) (hclose : ']' ∉ content) (rest : List Char) :
    tagAhead? ('[' :: c :: (content ++ ']' :: rest)) = some (c :: content, rest) := by
  have hinside : ∀ x ∈ content, (x != '[' && x != ']') = true := by
    intro x hx
    simp only [Bool.and_eq_true, bne_iff_ne]
    exact ⟨fun heq => hopen (heq ▸ hx), fun heq => hclose (heq ▸ hx)⟩
  simp only [tagAhead?, hc, if_true]
  rw [List.takeWhile_append_of_pos hinside, List.dropWhile_append_of_pos hinside]
  simp

theorem piecesFrom_tag {rest content after : List Char}
    (h : tagAhead? ('[' :: rest) = some (content, after)) (back : List Char) :
    piecesFrom back ('[' :: rest) = rawPiece back ++ .tag content :: piecesFrom [] after := by
  rw [piecesFrom]
  split
  next content' after' htag =>
    obtain ⟨rfl, rfl⟩ := Prod.mk.inj (Option.some.inj (htag.symm.trans h))
    simp [tagPieces]
  next hnone => cases h.symm.trans hnone

theorem piecesFrom_of_plain (back cs : List Char) (h : IsPlain cs) :
    piecesFrom back cs = rawPiece (cs.reverse ++ back) := by
  fun_induction piecesFrom back cs with
  | case1 back => rfl
  | case2 back c rest slashes beyond content after htag ih =>
    have hbeyond : IsPlain beyond := h.of_subset (List.dropWhile_sublist _).subset
    rw [tagAhead?_of_plain hbeyond] at htag
    cases htag
  | case3 back c rest slashes beyond htag hslash ih =>
    have hrest : IsPlain rest := h.of_subset (List.subset_cons_self c rest)
    have hsplit : slashes ++ rest.dropWhile (· == '\\') = c :: rest := by
      have hdrop : (c :: rest).dropWhile (· == '\\') = rest.dropWhile (· == '\\') := by
        rw [List.dropWhile_cons, if_pos hslash]
      rw [← hdrop]
      exact List.takeWhile_append_dropWhile
    rw [ih (hrest.of_subset (List.dropWhile_sublist _).subset), ← List.append_assoc,
      ← List.reverse_append, hsplit]
  | case4 back c rest beyond htag hslash ih =>
    rw [ih (h.of_subset (List.subset_cons_self c rest))]
    simp

/-! ### Tags -/

/-- Tags are at most added, and no style among the closed ones is at fault. -/
structure Marking.Follows (m m' : Marking) : Prop where
  opened : m'.opened = m.opened
  faultless : (∀ s ∈ m.marked.spans, s.fault? = none) → ∀ s ∈ m'.marked.spans, s.fault? = none

theorem Marking.Follows.refl (m : Marking) : m.Follows m := ⟨rfl, id⟩

theorem Marking.Follows.trans {m m' m'' : Marking} (h : m.Follows m') (h' : m'.Follows m'') :
    m.Follows m'' :=
  ⟨h'.opened.trans h.opened, h'.faultless ∘ h.faultless⟩

/-- What has been collected is taken in without any effect on tags. -/
theorem foldlM_rawPiece (m : Marking) (back : List Char) (pieces : List Piece) :
    ∃ m', m.Follows m' ∧
      (rawPiece back ++ pieces).foldlM Marking.addPiece m = pieces.foldlM Marking.addPiece m' := by
  rw [rawPiece]
  cases back with
  | nil => exact ⟨m, .refl m, rfl⟩
  | cons c back => exact ⟨m.add _, ⟨rfl, id⟩, rfl⟩

theorem apply_open {m : Marking} {content : List Char} {style : String}
    (hname : content.takeWhile (· != '=') = content) (hslash : content.head? ≠ some '/')
    (hstyle : normalStyle content = .ok style) :
    m.apply content = .ok { m with opened := ⟨m.length, style, []⟩ :: m.opened } := by
  have hnone : content.dropWhile (· != '=') = [] := by
    have hwhole := List.takeWhile_append_dropWhile (p := (· != '=')) (l := content)
    rw [hname] at hwhole
    simpa using hwhole
  unfold Marking.apply
  rw [hname, hnone]
  dsimp only
  split
  · exact absurd rfl hslash
  · rw [hstyle]
    rfl

theorem apply_close {m : Marking} {name : List Char} {style : String}
    (hname : ('/' :: name).takeWhile (· != '=') = '/' :: name) (htrim : trim name = name)
    (hne : name ≠ []) (hstyle : normalStyle name = .ok style) :
    m.apply ('/' :: name) = match closeTag? style m.opened with
      | some (tag, opened) => m.close tag opened
      | none => .error (.unmatched ('/' :: name)) := by
  have hsome : name.isEmpty = false := List.isEmpty_eq_false_iff.mpr hne
  unfold Marking.apply
  rw [hname]
  cases hclosed : closeTag? style m.opened <;>
    simp only [htrim, hsome, hstyle, hclosed, bind, Except.bind, Functor.map, Except.map, Except.mapError,
      Bool.false_eq_true, if_false]

theorem fault?_of_normalStyle {s : Span} {name : String} (h : normalStyle s.style = .ok name) :
    s.fault? = none := by
  unfold Span.fault?
  split
  next f hf =>
    rw [normalStyle, hf] at h
    cases h
  next => rfl

/-- What the styles here have in common: their names are their normal forms. -/
theorem normalStyle_styles {style : String} (h : style ∈ styles) :
    normalStyle style.toList = .ok style := by
  have hall : ∀ style ∈ styles, (normalStyle style.toList).toOption = some style := by decide +kernel
  have hstyle := hall style h
  cases hnormal : normalStyle style.toList with
  | ok found =>
    rw [hnormal] at hstyle
    rw [Option.some.inj hstyle]
  | error fault =>
    rw [hnormal] at hstyle
    cases hstyle

theorem not_bracket {style : String} (h : style ∈ styles) : '[' ∉ style.toList ∧ ']' ∉ style.toList := by
  have hall : ∀ style ∈ styles, '[' ∉ style.toList ∧ ']' ∉ style.toList := by decide
  exact hall style h

theorem tagAhead?_opening {style : String} (h : style ∈ styles) (rest : List Char) :
    tagAhead? (opening style ++ rest) = some (style.toList, rest) := by
  have hall : ∀ style ∈ styles, style.toList.head?.any beginsTag = true := by decide
  have hbegins := hall style h
  obtain ⟨hopen, hclose⟩ := not_bracket h
  cases hsplit : style.toList with
  | nil => simp [hsplit] at hbegins
  | cons c content =>
    have htext : opening style ++ rest = '[' :: c :: (content ++ ']' :: rest) := by simp [opening, hsplit]
    rw [hsplit] at hbegins hopen hclose
    rw [htext]
    exact tagAhead?_brackets hbegins (fun h => hopen (.tail _ h)) (fun h => hclose (.tail _ h)) rest

theorem tagAhead?_closing {name : List Char} (hopen : '[' ∉ name) (hclose : ']' ∉ name) (rest : List Char) :
    tagAhead? (closing name ++ rest) = some ('/' :: name, rest) := by
  rw [closing, List.cons_append, List.cons_append, List.append_assoc]
  exact tagAhead?_brackets (by decide) hopen hclose rest

theorem foldlM_tag {m m' : Marking} {content : List Char} (h : m.apply content = .ok m')
    (pieces : List Piece) : (Piece.tag content :: pieces).foldlM Marking.addPiece m =
      pieces.foldlM Marking.addPiece m' := by
  rw [List.foldlM_cons, Marking.addPiece, h]
  rfl

theorem apply_style {style : String} (hstyle : style ∈ styles) {m : Marking} :
    m.apply style.toList = .ok { m with opened := ⟨m.length, style, []⟩ :: m.opened } := by
  have hall : ∀ style ∈ styles, style.toList.takeWhile (· != '=') = style.toList ∧
      style.toList.head? ≠ some '/' := by decide
  obtain ⟨hname, hslash⟩ := hall style hstyle
  exact apply_open hname hslash (normalStyle_styles hstyle)

/-- A part in a style leaves open what was open before it. -/
theorem foldlM_styled {style : String} (hstyle : style ∈ styles) {m inside : Marking}
    (hinside : { m with opened := ⟨m.length, style, []⟩ :: m.opened }.Follows inside) :
    ∃ m', m.Follows m' ∧ inside.apply ('/' :: style.toList) = .ok m' := by
  have hall : ∀ style ∈ styles, ('/' :: style.toList).takeWhile (· != '=') = '/' :: style.toList ∧
      trim style.toList = style.toList ∧ style.toList ≠ [] ∧ style.toList.head? ≠ some '@' := by decide
  obtain ⟨hname, htrim, hne, hhandler⟩ := hall style hstyle
  have hclosed : closeTag? style inside.opened = some (⟨m.length, style, []⟩, m.opened) := by
    rw [hinside.opened]
    simp [closeTag?]
  refine ⟨{ inside with opened := m.opened }.addSpan ⟨m.length, style, []⟩, ⟨rfl, fun hm => ?_⟩, ?_⟩
  · refine List.forall_mem_append.mpr ⟨hinside.faultless hm, List.forall_mem_singleton.mpr ?_⟩
    exact fault?_of_normalStyle (normalStyle_styles hstyle)
  · rw [apply_close hname htrim hne (normalStyle_styles hstyle), hclosed]
    simp only [Marking.close]
    rw [if_neg (by simpa using hhandler)]

/-- A balanced text is taken in, and leaves open what was open before it. The induction is on how it is
balanced, whatever text comes behind it. -/
theorem foldlM_balanced {cs : List Char} (h : IsBalanced cs) (m : Marking) (back rest : List Char) :
    ∃ m' back', m.Follows m' ∧ (piecesFrom back (cs ++ rest)).foldlM Marking.addPiece m =
      (piecesFrom back' rest).foldlM Marking.addPiece m' := by
  induction h generalizing m back rest with
  | bare h => exact ⟨m, _, .refl m, by rw [piecesFrom_bare h]⟩
  | append _ _ ihcs ihds =>
    rename_i cs ds _ _
    obtain ⟨m', back', hfollows, hcs⟩ := ihcs m back (ds ++ rest)
    obtain ⟨m'', back'', hfollows', hds⟩ := ihds m' back' rest
    exact ⟨m'', back'', hfollows.trans hfollows', by rw [List.append_assoc, hcs, hds]⟩
  | styled hstyle _ ih =>
    rename_i style inner _
    have hopen : ∀ back beyond, piecesFrom back (opening style ++ beyond) =
        rawPiece back ++ .tag style.toList :: piecesFrom [] beyond :=
      fun back beyond => piecesFrom_tag (tagAhead?_opening hstyle beyond) back
    have hclose : ∀ back beyond, piecesFrom back (closing style.toList ++ beyond) =
        rawPiece back ++ .tag ('/' :: style.toList) :: piecesFrom [] beyond :=
      fun back beyond => piecesFrom_tag (tagAhead?_closing (not_bracket hstyle).1 (not_bracket hstyle).2 beyond) back
    obtain ⟨before, hbefore, hraw⟩ :=
      foldlM_rawPiece m back (.tag style.toList :: piecesFrom [] (inner ++ (closing style.toList ++ rest)))
    obtain ⟨inside, back', hinside, hinner⟩ :=
      ih { before with opened := ⟨before.length, style, []⟩ :: before.opened } [] (closing style.toList ++ rest)
    obtain ⟨atEnd, hatEnd, hraw'⟩ :=
      foldlM_rawPiece inside back' (.tag ('/' :: style.toList) :: piecesFrom [] rest)
    obtain ⟨after, hafter, hclosed⟩ := foldlM_styled hstyle (hinside.trans hatEnd)
    refine ⟨after, [], hbefore.trans hafter, ?_⟩
    rw [List.append_assoc, List.append_assoc, hopen, hraw, foldlM_tag (apply_style hstyle), hinner, hclose,
      hraw', foldlM_tag hclosed]

/-! ### A closing tag that closes nothing -/

theorem letter_facts {c : Char} (h : 'a' ≤ c ∧ c ≤ 'z') :
    isBlank c = false ∧ lowerChar c = c ∧ c ∉ ['(', '#', ' ', '=', '[', ']'] := by
  have hall : ∀ n < 123, 97 ≤ n → isBlank (Char.ofNat n) = false ∧ lowerChar (Char.ofNat n) = Char.ofNat n ∧
      Char.ofNat n ∉ ['(', '#', ' ', '=', '[', ']'] := by decide +kernel
  have hc := hall c.toNat (Nat.lt_succ_of_le h.2) h.1
  rwa [Char.ofNat_toNat] at hc

section Letters
variable {name : List Char} (h : ∀ c ∈ name, 'a' ≤ c ∧ c ≤ 'z')
include h

theorem lower_letters : lower name = name := lowerFrom_eq_self fun c hc => (letter_facts (h c hc)).2.1

theorem trim_letters : trim name = name :=
  trim_eq_self (fun c hc => (letter_facts (h c (List.mem_of_head? hc))).1)
    fun c hc => (letter_facts (h c (List.mem_of_getLast? hc))).1

theorem not_mem_letters {c : Char} (hc : c ∈ ['(', '#', ' ', '=', '[', ']']) : c ∉ name :=
  fun hmem => (letter_facts (h c hmem)).2.2 hc

theorem wordsOf_letters (hne : name ≠ []) : wordsOf name = [String.ofList name] := by
  have hmap : name.map (fun c => if isBlank c then ' ' else c) = name := by
    conv_rhs => rw [← List.map_id name]
    exact List.map_congr_left fun c hc => if_neg (by simp [(letter_facts (h c hc)).1])
  rw [wordsOf, hmap, splitOnChar_of_not_mem (not_mem_letters h (by simp))]
  simp [hne]

/-- A word without a parenthesis is not read for numbers. -/
theorem isColour_letters : ∃ known, isColour name = .ok known := by
  have hnone : ∀ front : List Char, '(' ∈ front → enclosed? front name = none := by
    intro front hfront
    rw [enclosed?, if_neg]
    simp only [Bool.and_eq_true, List.isPrefixOf_iff_prefix, not_and]
    exact fun hbegins => absurd (hbegins.subset hfront) (not_mem_letters h (by simp))
  unfold isColour
  split
  · exact ⟨_, rfl⟩
  · split
    · exact ⟨_, rfl⟩
    · rw [hnone _ (by decide), hnone _ (by decide)]
      exact ⟨_, rfl⟩

/-- A word of letters names a style or nothing. -/
theorem normalStyle_letters (hne : name ≠ []) : ∃ style, normalStyle name = .ok style := by
  have hlower : String.ofList (lower (String.ofList name).toList) = String.ofList name := by
    rw [String.toList_ofList, lower_letters h]
  have hcolour : ∀ fault, colourOf (String.ofList name) ≠ .error (.number fault) := by
    obtain ⟨known, hknown⟩ := isColour_letters h
    rw [colourOf, String.toList_ofList, lower_letters h, hknown]
    cases known <;> exact fun _ => nofun
  have hread : ∀ fault, Style.read {} [String.ofList name] ≠ .error (.number fault) := by
    intro fault
    rw [Style.read.eq_def]
    dsimp only
    rw [hlower]
    -- Three of the words want another one behind them.
    split; · nofun
    split; · nofun
    split; · nofun
    split
    · rw [Style.read]
      nofun
    · cases hfound : colourOf (String.ofList name) with
      | ok colour =>
        show Style.read _ [] ≠ _
        rw [Style.read]
        nofun
      | error e =>
        intro heq
        exact hcolour fault (hfound.trans (congrArg _ (Except.error.inj heq)))
  have hstyle : ∀ fault, styleOf name ≠ .error (.number fault) := by
    intro fault
    rw [styleOf, wordsOf_letters h hne]
    split
    · nofun
    · exact hread fault
  rw [normalStyle]
  split
  · exact ⟨_, rfl⟩
  · exact ⟨_, rfl⟩
  · rename_i fault hfault
    exact absurd hfault (hstyle fault)

end Letters

/-! ### Texts -/

/-- No style of the text is at fault. -/
def Marked.IsFaultless (m : Marked) : Prop := ∀ s ∈ m.spans, s.fault? = none

theorem markup_of_sound {cs : List Char} (h : IsSound cs) : ∃ m, markup cs = .ok m ∧ m.IsFaultless := by
  obtain ⟨front, back, rfl, hfront, hback⟩ := h
  obtain ⟨m, before, hfollows, hfold⟩ := foldlM_balanced hfront {} [] back
  obtain ⟨m', hfollows', hraw⟩ := foldlM_rawPiece m (back.reverse ++ before) []
  have hopened : m'.opened = [] := hfollows'.opened.trans hfollows.opened
  refine ⟨m'.finish, ?_, ?_⟩
  · rw [markup, hfold, piecesFrom_of_plain _ _ hback, ← List.append_nil (rawPiece _), hraw]
    rfl
  · rw [Marking.finish, hopened]
    exact hfollows'.faultless (hfollows.faultless (by simp))

theorem markup_of_unmatched {cs : List Char} (h : HasUnmatched cs) :
    ∃ tag, markup cs = .error (.unmatched tag) := by
  obtain ⟨front, name, back, rfl, hfront, hne, hletters⟩ := h
  obtain ⟨m, before, hfollows, hfold⟩ := foldlM_balanced hfront {} [] (closing name ++ back)
  have htag : piecesFrom before (closing name ++ back) =
      rawPiece before ++ .tag ('/' :: name) :: piecesFrom [] back :=
    piecesFrom_tag (tagAhead?_closing (not_mem_letters hletters (by simp))
      (not_mem_letters hletters (by simp)) back) before
  obtain ⟨m', hfollows', hraw⟩ := foldlM_rawPiece m before (.tag ('/' :: name) :: piecesFrom [] back)
  obtain ⟨style, hstyle⟩ := normalStyle_letters hletters hne
  have hname : ('/' :: name).takeWhile (· != '=') = '/' :: name :=
    List.takeWhile_eq_self_iff.mpr fun c hc => by
      have heq : '=' ∉ '/' :: name := by simpa using not_mem_letters hletters (by simp)
      simpa using fun hsame : c = '=' => heq (hsame ▸ hc)
  have happly : m'.apply ('/' :: name) = .error (.unmatched ('/' :: name)) := by
    rw [apply_close hname (trim_letters hletters) hne hstyle, hfollows'.opened, hfollows.opened]
    rfl
  refine ⟨'/' :: name, ?_⟩
  rw [markup, List.append_assoc, hfold, htag, hraw, List.foldlM_cons, Marking.addPiece, happly]
  rfl

theorem lines_of_faultless {m : Marked} (h : m.IsFaultless) (width : Nat) (overflow : Overflow)
    (j : Justify) : m.lines width overflow j = .ok (wrap width overflow j m.text) := by
  have hfind : ∀ spans : List Span, spans ⊆ m.spans → spans.findSome? Span.fault? = none :=
    fun spans hsub => List.findSome?_eq_none_iff.mpr fun s hs => h s (hsub hs)
  unfold Marked.lines
  dsimp only
  rw [hfind]
  split
  · exact List.Subset.refl _
  · exact List.filter_subset_self _

/-! ### Tables -/

/-- A list is gone through if each of its members can be. -/
theorem exists_mapM_ok {α β ε : Type} {f : α → Except ε β} {P : β → Prop} {l : List α}
    (h : ∀ a ∈ l, ∃ b, f a = .ok b ∧ P b) : ∃ bs, l.mapM f = .ok bs ∧ ∀ b ∈ bs, P b := by
  induction l with
  | nil => exact ⟨[], rfl, by simp⟩
  | cons a l ih =>
    obtain ⟨b, hb, hPb⟩ := h a (List.mem_cons_self ..)
    obtain ⟨bs, hbs, hPbs⟩ := ih fun x hx => h x (List.mem_cons_of_mem a hx)
    refine ⟨b :: bs, ?_, List.forall_mem_cons.mpr ⟨hPb, hPbs⟩⟩
    rw [List.mapM_cons, hb, hbs]
    rfl

theorem markedRow_of_plain {row : List String} (h : ∀ cell ∈ row, IsPlain cell.toList) :
    ∃ cells, markedRow row = .ok cells ∧ ∀ cell ∈ cells, cell.IsFaultless :=
  exists_mapM_ok fun cell hcell => markup_of_sound (h cell hcell).isSound

theorem exists_cellLines (width : Nat) (j : Justify) {cell : Marked} (h : cell.IsFaultless) :
    ∃ lines, cellLines width j cell = .ok lines := by
  rw [cellLines]
  by_cases hroom : (width - 2 == 0) = true
  · exact ⟨[], by simp only [hroom, if_true]⟩
  · simp only [hroom, lines_of_faultless h]
    exact ⟨_, rfl⟩

theorem exists_rowLines (r : Rule) (widths : List Nat) (justifies : List Justify) {row : List Marked}
    (h : ∀ cell ∈ row, cell.IsFaultless) : ∃ lines, rowLines r widths justifies row = .ok lines := by
  have hcells : ∀ c ∈ widths.zip (justifies.zip row),
      ∃ column, (do return (c.1, ← cellLines c.1 c.2.1 c.2.2) :
        Except MarkupFault (Nat × List (List Char))) = .ok column ∧ True := by
    rintro ⟨width, j, cell⟩ hc
    have hcell := (List.of_mem_zip (List.of_mem_zip hc).2).2
    obtain ⟨lines, hlines⟩ := exists_cellLines width j (h cell hcell)
    exact ⟨(width, lines), by rw [hlines]; rfl, trivial⟩
  obtain ⟨columns, hcolumns, -⟩ := exists_mapM_ok hcells
  rw [rowLines, hcolumns]
  exact ⟨_, rfl⟩

theorem Table.IsPlain.lines {t : Table} (h : t.IsPlain) (width : Nat) : ∃ lines, t.lines width = .ok lines := by
  obtain ⟨title, htitle, hplain⟩ := markup_of_sound h.title.isSound
  obtain ⟨headings, hheadings, hhead⟩ := markedRow_of_plain (List.forall_mem_map.mpr h.headings)
  obtain ⟨rows, hmarked, hrows⟩ := exists_mapM_ok fun row hrow => markedRow_of_plain (h.cells row hrow)
  rw [Table.lines, hheadings]
  simp only [Except.bind, bind, hmarked, htitle]
  rw [lines_of_faultless hplain]
  generalize columnWidths _ _ = widths
  obtain ⟨head, hlines⟩ := exists_rowLines t.box.head widths (t.columns.map Column.justify) hhead
  obtain ⟨body, hbody, -⟩ := exists_mapM_ok fun row hrow =>
    (exists_rowLines t.box.row widths (t.columns.map Column.justify) (hrows row hrow)).imp
      fun _ h => And.intro h trivial
  rw [hlines, hbody]
  exact ⟨_, rfl⟩

/-! ### The console -/

theorem isLawful_ofWidth (width : Nat) : (Console.ofWidth width).IsLawful where
  refuses text htext := by
    obtain ⟨tag, htag⟩ := markup_of_unmatched htext
    show ∃ message, Except.map linesText (Except.mapError MarkupFault.refusal (markup text.toList >>= _)) = _
    rw [htag]
    exact ⟨_, rfl⟩
  prints text htext := by
    obtain ⟨m, hm, hfaultless⟩ := markup_of_sound htext
    show ∃ shown, Except.map linesText (Except.mapError MarkupFault.refusal (markup text.toList >>= _)) = _
    rw [hm]
    show ∃ shown, Except.map linesText (Except.mapError MarkupFault.refusal
      (if width == 0 then .ok [] else m.lines width .fold .none)) = _
    rw [lines_of_faultless hfaultless]
    split <;> exact ⟨_, rfl⟩
  draws t ht := by
    obtain ⟨lines, hlines⟩ := ht.lines width
    show ∃ shown, (if width == 0 then .ok [] else
      Except.map linesText (Except.mapError MarkupFault.refusal (t.lines width))) = _
    rw [hlines]
    split <;> exact ⟨_, rfl⟩

end PerlCalls.Report

import Mathlib
import PerlCalls.Proofs.Numerals
import PerlCalls.Proofs.Pieces
import PerlCalls.Report.Console

/-! Texts that a console has to show, and texts that it has to refuse.

Tags stand in brackets. A text is sound if every tag in it is closed again, and unmatched if a closing tag
comes behind a part in which nothing is left open; a text may be neither. This is all that is asked of a
console: to show the sound texts and to refuse the unmatched ones (`Console.IsLawful`). What a run tells is
sound as long as the names in it hold no brackets (`isSound_ambiguousItems`, `isSound_writtenItems`,
`isSound_error`), and a name with a closing tag is enough to make it unmatched (`HasUnmatched.error`). -/
namespace PerlCalls.Report

open PerlCalls.Graph
open Run Text

/-! ### Texts -/

/-- A text in which no tag begins. -/
def IsPlain (cs : List Char) : Prop := '[' ∉ cs

instance (cs : List Char) : Decidable (IsPlain cs) := inferInstanceAs (Decidable ('[' ∉ cs))

/-- A plain text without backslashes, which could turn a tag behind it into text. -/
def IsBare (cs : List Char) : Prop := '[' ∉ cs ∧ '\\' ∉ cs

instance (cs : List Char) : Decidable (IsBare cs) := inferInstanceAs (Decidable (_ ∧ _))

/-- The styles that the texts here are written in. -/
def styles : List String := ["bold red", "bold yellow", "green", "dim"]

def opening (style : String) : List Char := '[' :: (style.toList ++ [']'])

def closing (name : List Char) : List Char := '[' :: '/' :: (name ++ [']'])

/-- Every tag of the text is closed again. -/
inductive IsBalanced : List Char → Prop where
  | bare {cs : List Char} (h : IsBare cs) : IsBalanced cs
  | styled {style : String} {inner : List Char} (hstyle : style ∈ styles) (h : IsBalanced inner) :
      IsBalanced (opening style ++ inner ++ closing style.toList)
  | append {cs ds : List Char} (hcs : IsBalanced cs) (hds : IsBalanced ds) : IsBalanced (cs ++ ds)

/-- A balanced text, and no tag behind it. -/
def IsSound (cs : List Char) : Prop := ∃ front back, cs = front ++ back ∧ IsBalanced front ∧ IsPlain back

/-- A balanced text, and behind it a tag that would close another one. -/
def HasUnmatched (cs : List Char) : Prop :=
  ∃ front name back, cs = front ++ closing name ++ back ∧ IsBalanced front ∧
    name ≠ [] ∧ ∀ c ∈ name, 'a' ≤ c ∧ c ≤ 'z'

theorem IsPlain.append {cs ds : List Char} (hcs : IsPlain cs) (hds : IsPlain ds) : IsPlain (cs ++ ds) := by
  rw [IsPlain, List.mem_append, not_or]
  exact ⟨hcs, hds⟩

theorem IsPlain.of_subset {cs ds : List Char} (hds : IsPlain ds) (h : cs ⊆ ds) : IsPlain cs :=
  fun hmem => hds (h hmem)

theorem IsBare.append {cs ds : List Char} (hcs : IsBare cs) (hds : IsBare ds) : IsBare (cs ++ ds) := by
  simp only [IsBare, List.mem_append, not_or]
  exact ⟨⟨hcs.1, hds.1⟩, hcs.2, hds.2⟩

theorem IsPlain.isSound {cs : List Char} (h : IsPlain cs) : IsSound cs :=
  ⟨[], cs, rfl, .bare (by decide), h⟩

theorem IsBalanced.isSound {cs : List Char} (h : IsBalanced cs) : IsSound cs :=
  ⟨cs, [], (List.append_nil cs).symm, h, by decide⟩

theorem IsSound.behind {cs ds : List Char} (hcs : IsBalanced cs) (hds : IsSound ds) : IsSound (cs ++ ds) := by
  obtain ⟨front, back, rfl, hfront, hback⟩ := hds
  exact ⟨cs ++ front, back, by rw [List.append_assoc], hcs.append hfront, hback⟩

theorem HasUnmatched.behind {cs ds : List Char} (hcs : IsBalanced cs) (hds : HasUnmatched ds) :
    HasUnmatched (cs ++ ds) := by
  obtain ⟨front, name, back, rfl, hfront, hname⟩ := hds
  exact ⟨cs ++ front, name, back, by simp only [List.append_assoc], hcs.append hfront, hname⟩

/-- A part in a style, between parts without tags. -/
theorem isBalanced_styled {style : String} (hstyle : style ∈ styles) {front inner back : List Char}
    (hfront : IsBare front) (hinner : IsBare inner) (hback : IsBare back) :
    IsBalanced (front ++ (opening style ++ inner ++ closing style.toList) ++ back) :=
  .append (.append (.bare hfront) (.styled hstyle (.bare hinner))) (.bare hback)

/-! ### Tables -/

/-- A table of plain texts. -/
structure Table.IsPlain (t : Table) : Prop where
  title : Report.IsPlain t.title.toList
  headings : ∀ column ∈ t.columns, Report.IsPlain column.heading.toList
  cells : ∀ row ∈ t.rows, ∀ cell ∈ row, Report.IsPlain cell.toList

theorem isBare_digits (n : Nat) : IsBare (Nat.toDigits 10 n) := by
  have hdigit : ∀ d < 10, IsBare [d.digitChar] := by decide
  induction n using Nat.strongRecOn with
  | ind n ih =>
    by_cases hsmall : n < 10
    · rw [Nat.toDigits_of_lt_base hsmall]
      exact hdigit n hsmall
    · rw [Nat.toDigits_of_base_le (by decide) (by omega)]
      exact (ih (n / 10) (by omega)).append (hdigit (n % 10) (by omega))

theorem isBare_toString (n : Int) : IsBare (toString n).toList := by
  rw [toList_toString]
  refine IsBare.append ?_ (isBare_digits n.natAbs)
  split <;> decide

/-- The summary of a run holds nothing but its own words and numbers. -/
theorem isPlain_summaryTable (stats : Stats) : (summaryTable stats).IsPlain where
  title := by show Report.IsPlain "📊 Call Graph Summary".toList; decide
  headings := by
    show ∀ column ∈ [⟨"Metric", .left⟩, (⟨"Count", .right⟩ : Column)], _
    decide
  cells := by
    have hnumber : ∀ n : Int, Report.IsPlain (toString n).toList := fun n => (isBare_toString n).1
    have hratio : Report.IsPlain s!"{stats.visitedNodes}/{stats.graphNodes}".toList := by
      rw [String.toList_append, String.toList_append]
      exact ((hnumber _).append (by decide)).append (hnumber _)
    simp only [summaryTable, List.forall_mem_cons, List.not_mem_nil, false_implies, implies_true,
      and_true, hnumber, hratio]
    decide

/-! ### Items -/

def Item.IsSound : Item → Prop
  | .message text => Report.IsSound text.toList
  | .table t => t.IsPlain

/-- No name in the call could begin a tag, or keep one from being a tag. -/
structure IsBareCall (c : AmbiguousCall) : Prop where
  caller : IsBare c.caller.toList
  callee : IsBare c.callee.toList
  files : ∀ file ∈ c.files, IsBare file.toList

theorem isSound_summaryItems (quiet : Bool) (stats : Stats) :
    ∀ item ∈ summaryItems quiet stats, item.IsSound := by
  cases quiet with
  | true => simp [summaryItems]
  | false =>
    rw [summaryItems, if_neg Bool.false_ne_true, List.forall_mem_singleton]
    exact isPlain_summaryTable stats

theorem isBare_joinWith {sep : List Char} (hsep : IsBare sep) {pieces : List (List Char)}
    (h : ∀ piece ∈ pieces, IsBare piece) : IsBare (joinWith sep pieces) := by
  induction pieces with
  | nil => simp [joinWith, IsBare]
  | cons piece rest ih =>
    obtain ⟨hpiece, hrest⟩ := List.forall_mem_cons.mp h
    cases rest with
    | nil => exact hpiece
    | cons next rest => exact (hpiece.append hsep).append (ih hrest)

/-- What is said of an ambiguous call. -/
theorem isBalanced_call {c : AmbiguousCall} (h : IsBareCall c) :
    IsBalanced (s!"   {c.caller} → {c.callee}() [dim]defined in " ++ ", ".intercalate c.files ++
      "[/dim]").toList := by
  have hopen : "() [dim]defined in ".toList = "() ".toList ++ opening "dim" ++ "defined in ".toList := by decide
  have hclose : "[/dim]".toList = closing "dim".toList := by decide
  have hfiles : IsBare (", ".intercalate c.files).toList := by
    rw [String.toList_intercalate, ← joinWith_eq_intercalate]
    exact isBare_joinWith (by decide) (List.forall_mem_map.mpr h.files)
  have hfront : IsBare ("   ".toList ++ c.caller.toList ++ " → ".toList ++ c.callee.toList ++ "() ".toList) :=
    (((IsBare.append (by decide) h.caller).append (by decide)).append h.callee).append (by decide)
  have hinner : IsBare ("defined in ".toList ++ (", ".intercalate c.files).toList) :=
    IsBare.append (by decide) hfiles
  have hwhole := isBalanced_styled (by decide : "dim" ∈ styles) hfront hinner (by decide : IsBare [])
  convert hwhole using 1
  show ("   " ++ c.caller ++ " → " ++ c.callee ++ "() [dim]defined in " ++ ", ".intercalate c.files ++
    "[/dim]").toList = _
  simp only [String.toList_append, hopen, hclose, List.append_assoc, List.append_nil]

/-- What is said of ambiguous calls is sound, if their names are bare. -/
theorem isSound_ambiguousItems {calls : List AmbiguousCall} (h : ∀ c ∈ calls, IsBareCall c) :
    ∀ item ∈ ambiguousItems calls, item.IsSound := by
  have hnone : IsBalanced "\n✅ [green]No ambiguous calls[/green]".toList := by
    have hsplit : "\n✅ [green]No ambiguous calls[/green]".toList = "\n✅ ".toList ++
        (opening "green" ++ "No ambiguous calls".toList ++ closing "green".toList) ++ [] := by decide
    rw [hsplit]
    exact isBalanced_styled (by decide) (by decide) (by decide) (by decide)
  have hcount : IsBalanced s!"\n⚠️  [bold yellow]Ambiguous Calls ({calls.length})[/bold yellow]".toList := by
    have hopen : "\n⚠️  [bold yellow]Ambiguous Calls (".toList =
        "\n⚠️  ".toList ++ opening "bold yellow" ++ "Ambiguous Calls (".toList := by decide
    have hclose : ")[/bold yellow]".toList = ")".toList ++ closing "bold yellow".toList := by decide
    have hinner : IsBare ("Ambiguous Calls (".toList ++ (toString calls.length).toList ++ ")".toList) :=
      (IsBare.append (by decide) (isBare_toString calls.length)).append (by decide)
    have hwhole := isBalanced_styled (by decide : "bold yellow" ∈ styles)
      (by decide : IsBare "\n⚠️  ".toList) hinner (by decide : IsBare [])
    convert hwhole using 1
    show ("\n⚠️  [bold yellow]Ambiguous Calls (" ++ toString calls.length ++ ")[/bold yellow]").toList = _
    simp only [String.toList_append, hopen, hclose, List.append_assoc, List.append_nil]
  rw [ambiguousItems, List.forall_mem_map, ambiguousMessages]
  split
  · exact List.forall_mem_singleton.mpr hnone.isSound
  · refine List.forall_mem_cons.mpr ⟨hcount.isSound, List.forall_mem_map.mpr fun c hc => ?_⟩
    exact (isBalanced_call (h c hc)).isSound

theorem isSound_writtenItems (quiet : Bool) {format path : String} (hformat : IsPlain format.toList)
    (hpath : IsPlain path.toList) : ∀ item ∈ writtenItems quiet format path, item.IsSound := by
  cases quiet with
  | true => simp [writtenItems]
  | false =>
    rw [writtenItems, if_neg Bool.false_ne_true, List.forall_mem_singleton]
    refine IsPlain.isSound ?_
    show IsPlain ("📁 " ++ format ++ " graph written to " ++ path).toList
    simp only [String.toList_append]
    exact ((IsPlain.append (by decide) hformat).append (by decide)).append hpath

/-! ### Errors -/

theorem isBalanced_errorWord : IsBalanced "❌ [bold red]Error:[/bold red] ".toList := by
  have hsplit : "❌ [bold red]Error:[/bold red] ".toList = "❌ ".toList ++
      (opening "bold red" ++ "Error:".toList ++ closing "bold red".toList) ++ " ".toList := by decide
  rw [hsplit]
  exact isBalanced_styled (by decide) (by decide) (by decide) (by decide)

theorem toList_errorMessage (message : String) :
    (errorMessage message).toList = "❌ [bold red]Error:[/bold red] ".toList ++ message.toList :=
  String.toList_append

theorem isSound_error {message : String} (h : IsPlain message.toList) :
    IsSound (errorMessage message).toList := by
  rw [toList_errorMessage]
  exact h.isSound.behind isBalanced_errorWord

/-- The word for an error closes what it opens, so it is of no help to a closing tag in the message. -/
theorem HasUnmatched.error {message : String} (h : HasUnmatched message.toList) :
    HasUnmatched (errorMessage message).toList := by
  rw [toList_errorMessage]
  exact h.behind isBalanced_errorWord

/-! ### Consoles -/

/-- What is asked of a console. -/
structure Console.IsLawful (c : Console) : Prop where
  /-- A closing tag that closes nothing makes no sense. -/
  refuses : ∀ text, HasUnmatched text.toList → ∃ message, c.print text = .error ⟨.markup, message⟩
  prints : ∀ text, IsSound text.toList → ∃ shown, c.print text = .ok shown
  draws : ∀ t : Table, t.IsPlain → ∃ shown, c.draw t = .ok shown

namespace Console

variable {c : Console}

theorem IsLawful.displays (h : c.IsLawful) {item : Item} (hitem : item.IsSound) :
    ∃ shown, c.display item = .ok shown := by
  cases item with
  | message text => exact h.prints text hitem
  | table t => exact h.draws t hitem

/-- The first refusal ends a row of items. -/
theorem refusal_append (c : Console) (items more : List Item) :
    (c.displayAll (items ++ more)).refusal =
      (c.displayAll items).refusal.or (c.displayAll more).refusal := by
  induction items with
  | nil => rfl
  | cons item rest ih =>
    rw [List.cons_append, displayAll, displayAll]
    cases c.display item with
    | error refusal => rfl
    | ok shown => exact ih

theorem IsLawful.displayAll (h : c.IsLawful) {items : List Item} (hitems : ∀ item ∈ items, item.IsSound) :
    (c.displayAll items).refusal = none := by
  induction items with
  | nil => rfl
  | cons item rest ih =>
    obtain ⟨hitem, hrest⟩ := List.forall_mem_cons.mp hitems
    obtain ⟨shown, hshown⟩ := h.displays hitem
    rw [Console.displayAll, hshown]
    exact ih hrest

/-- Behind sound items, an unmatched text is refused. -/
theorem IsLawful.displayAll_unmatched (h : c.IsLawful) {front back : List Item} {text : String}
    (hfront : ∀ item ∈ front, item.IsSound) (htext : HasUnmatched text.toList) :
    ∃ message, (c.displayAll (front ++ .message text :: back)).refusal = some ⟨.markup, message⟩ := by
  obtain ⟨message, hrefused⟩ := h.refuses text htext
  refine ⟨message, ?_⟩
  rw [refusal_append, h.displayAll hfront, Option.none_or, Console.displayAll, display, hrefused]

end Console

end PerlCalls.Report

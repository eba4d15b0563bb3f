import Mathlib
import PerlCalls.Proofs.DotReading

/-! Reading a record label back.

An escaped text is a row of signs: a character that stands bare, or one behind a backslash. Either escape
writes one sign for each character of a text (`Guard.write`), and the two differ only in the characters
they guard with a backslash. So reading the signs from left to right finds the characters again
(`Guard.signs_write`, `Guard.unescape_write`), although a record is escaped twice over.

In the label of a node with its file and its name the bar between the two is then the only bare one, and
the only one with a blank in front of it (`eq_of_cut`): every other bar has a backslash there. Main
statement: `recordLabel_readable`. -/
namespace PerlCalls.Export

open PerlCalls.Graph
open Text

/-! ### Signs -/

/-- A character of an escaped text, as it stands or behind a backslash. -/
inductive Sign where
  | bare (c : Char)
  | escaped (c : Char)
deriving DecidableEq

namespace Sign

def text : Sign → List Char
  | bare c => [c]
  | escaped c => ['\\', c]

/-- The character that is meant. -/
def meaning : Sign → Char
  | bare c => c
  | escaped c => unescapeChar c

end Sign

/-- The signs of a text, from left to right. -/
def signs : List Char → List Sign
  | [] => []
  | '\\' :: c :: rest => .escaped c :: signs rest
  | c :: rest => .bare c :: signs rest

/-- The characters that an escaped text means. -/
def unescape (cs : List Char) : List Char := (signs cs).map Sign.meaning

theorem signs_bare {c : Char} (hc : c ≠ '\\') (rest : List Char) :
    signs (c :: rest) = .bare c :: signs rest := by
  rw [signs]
  exact fun _ _ h _ => hc h

/-! ### Escapes -/

/-- Which characters an escape puts a backslash in front of. The backslash has to be among them, and the
letter that stands for a line end must not. -/
structure Guard where
  guards : Char → Bool
  slash : guards '\\' = true
  letter : guards 'n' = false

/-- The guard of quoted identifiers. -/
def Guard.identifier : Guard where
  guards c := c == '\\' || c == '"'
  slash := rfl
  letter := rfl

/-- The guard of records. -/
def Guard.record : Guard where
  guards c := Guard.identifier.guards c || isRecordSpecial c
  slash := rfl
  letter := rfl

namespace Guard

variable (g : Guard)

/-- What is written for a character. -/
def sign (c : Char) : Sign :=
  if c = '\n' then .escaped 'n' else if g.guards c then .escaped c else .bare c

def write (cs : List Char) : List Char := cs.flatMap (fun c => (g.sign c).text)

theorem sign_cases (c : Char) :
    c = '\n' ∧ g.sign c = .escaped 'n' ∨
      c ≠ '\n' ∧ g.guards c = true ∧ g.sign c = .escaped c ∨
      c ≠ '\n' ∧ g.guards c = false ∧ g.sign c = .bare c := by
  by_cases hend : c = '\n'
  · exact Or.inl ⟨hend, if_pos hend⟩
  · cases hc : g.guards c with
    | true => exact Or.inr (Or.inl ⟨hend, rfl, by simp [sign, hend, hc]⟩)
    | false => exact Or.inr (Or.inr ⟨hend, rfl, by simp [sign, hend, hc]⟩)

/-- A guarded character never stands bare. -/
theorem sign_ne_bare {x : Char} (hx : g.guards x = true) (c : Char) : g.sign c ≠ .bare x := by
  rcases g.sign_cases c with ⟨-, h⟩ | ⟨-, -, h⟩ | ⟨-, hc, h⟩
  · simp [h]
  · simp [h]
  · rw [h]
    intro heq
    rw [Sign.bare.inj heq, hx] at hc
    cases hc

theorem bare_not_mem_map_sign {x : Char} (hx : g.guards x = true) (cs : List Char) :
    .bare x ∉ cs.map g.sign := by
  intro hmem
  obtain ⟨c, -, hc⟩ := List.mem_map.mp hmem
  exact g.sign_ne_bare hx c hc

theorem meaning_sign (c : Char) : (g.sign c).meaning = c := by
  rcases g.sign_cases c with ⟨rfl, h⟩ | ⟨-, hc, h⟩ | ⟨-, -, h⟩
  · rw [h]
    rfl
  · have hn : c ≠ 'n' := by
      rintro rfl
      rw [g.letter] at hc
      cases hc
    rw [h, Sign.meaning, unescapeChar, if_neg (by simpa using hn)]
  · rw [h, Sign.meaning]

theorem signs_sign (c : Char) (rest : List Char) :
    signs ((g.sign c).text ++ rest) = g.sign c :: signs rest := by
  have hslash := g.sign_ne_bare g.slash c
  cases h : g.sign c with
  | escaped x => rfl
  | bare x => exact signs_bare (fun heq => hslash (by rw [h, heq])) rest

/-- Each character of a text is one sign of what is written for it. -/
theorem signs_write (cs rest : List Char) : signs (g.write cs ++ rest) = cs.map g.sign ++ signs rest := by
  induction cs with
  | nil => rfl
  | cons c cs ih =>
    rw [write, List.flatMap_cons, List.append_assoc, signs_sign, ← write, ih]
    rfl

theorem unescape_write (cs : List Char) : unescape (g.write cs) = cs := by
  have h := g.signs_write cs []
  rw [List.append_nil, signs, List.append_nil] at h
  simp [unescape, h, Function.comp_def, g.meaning_sign]

theorem write_injective : Function.Injective g.write :=
  Function.LeftInverse.injective g.unescape_write

/-- A guarded character has a backslash in front of it wherever it stands. -/
theorem slash_before {x : Char} (hx : g.guards x = true) (hslash : x ≠ '\\') {cs u v : List Char}
    (h : g.write cs = u ++ x :: v) : ∃ w, u = w ++ ['\\'] := by
  induction cs generalizing u with
  | nil => simp [write] at h
  | cons c cs ih =>
    have hcons : (g.sign c).text ++ g.write cs = u ++ x :: v := h
    -- if `x` does not belong to the first sign, `u` holds all of it
    cases hsign : g.sign c with
    | bare y =>
      rw [hsign] at hcons
      cases u with
      | nil =>
        have hyx : y = x := (List.cons.inj hcons).1
        exact absurd (hyx ▸ hsign) (g.sign_ne_bare hx c)
      | cons a u =>
        obtain ⟨w, rfl⟩ := ih (List.cons.inj hcons).2
        exact ⟨a :: w, rfl⟩
    | escaped y =>
      rw [hsign] at hcons
      cases u with
      | nil => exact absurd (List.cons.inj hcons).1.symm hslash
      | cons a u =>
        obtain ⟨rfl, hrest⟩ := List.cons.inj hcons
        cases u with
        | nil => exact ⟨[], rfl⟩
        | cons b u =>
          obtain ⟨w, rfl⟩ := ih (List.cons.inj hrest).2
          exact ⟨'\\' :: b :: w, rfl⟩

end Guard

theorem escapeIdChars_eq_write (cs : List Char) : escapeIdChars cs = Guard.identifier.write cs := by
  refine List.flatMap_congr fun c _ => ?_
  rcases escapeIdChar_cases c with ⟨rfl | rfl, h⟩ | ⟨rfl, h⟩ | ⟨⟨hslash, hquote, hend⟩, h⟩
  · rfl
  · rfl
  · rfl
  · simp [h, Guard.sign, Guard.identifier, Sign.text, hslash, hquote, hend]

/-- The second escape finds nothing to guard in a backslash, in a quote or in the letter for a line end,
so what it writes is one sign for each character too. -/
theorem escapeRecordChars_eq_write (cs : List Char) : escapeRecordChars cs = Guard.record.write cs := by
  rw [escapeRecordChars_eq]
  refine List.flatMap_congr fun c _ => ?_
  rcases escapeIdChar_cases c with ⟨rfl | rfl, -⟩ | ⟨rfl, -⟩ | ⟨⟨hslash, hquote, hend⟩, h⟩
  · rfl
  · rfl
  · rfl
  · rw [recordChar_of_plain h]
    cases hc : isRecordSpecial c with
    | true => simp [Guard.sign, Guard.record, hc, hend, Sign.text]
    | false => simp [Guard.sign, Guard.record, Guard.identifier, hc, hslash, hquote, hend, Sign.text]

theorem escapeIdChars_injective : Function.Injective escapeIdChars :=
  (funext escapeIdChars_eq_write : escapeIdChars = Guard.identifier.write) ▸
    Guard.identifier.write_injective

theorem escapeRecordChars_injective : Function.Injective escapeRecordChars :=
  (funext escapeRecordChars_eq_write : escapeRecordChars = Guard.record.write) ▸
    Guard.record.write_injective

/-- Put a text in place of a character, wherever it stands. -/
def replaced (x : Char) (text cs : List Char) : List Char :=
  cs.flatMap (fun c => if c == x then text else [c])

/-- The first escape may be made one character after the other, if the backslash comes first. -/
theorem escapeIdChars_eq_replaced (cs : List Char) :
    escapeIdChars cs = replaced '\n' ['\\', 'n'] (replaced '"' ['\\', '"']
      (replaced '\\' ['\\', '\\'] cs)) := by
  rw [replaced, replaced, replaced, List.flatMap_assoc, List.flatMap_assoc]
  refine List.flatMap_congr fun c _ => ?_
  rcases escapeIdChar_cases c with ⟨rfl | rfl, h⟩ | ⟨rfl, h⟩ | ⟨⟨hslash, hquote, hend⟩, h⟩
  · rfl
  · rfl
  · rfl
  · simp [h, hslash, hquote, hend]

/-! ### Labels -/

/-- A label that shows a file and a name. -/
structure IsRecordOf (label : List Char) (file name : String) : Prop where
  one_bar : (signs label).count (.bare '|') = 1
  no_quote : .bare '"' ∉ signs label
  no_line_end : '\n' ∉ label
  /-- Between quotes it is read to its end and no further. -/
  quoted : ∀ rest, readQuoted (label ++ '"' :: rest) =
    some (file.toList ++ " | ".toList ++ name.toList, rest)
  /-- It can be cut in one place only, with the file before and the name behind. -/
  cut : ∃ before after, label = before ++ " | ".toList ++ after ∧
    unescape before = file.toList ∧ unescape after = name.toList ∧
    ∀ before' after', label = before' ++ " | ".toList ++ after' → before' = before ∧ after' = after

section Label
variable (file name : List Char)

theorem signs_recordLabel :
    signs (escapeRecordChars file ++ " | ".toList ++ escapeRecordChars name) =
      file.map Guard.record.sign ++ [.bare ' ', .bare '|', .bare ' '] ++
        name.map Guard.record.sign := by
  have hbar : ∀ cs, signs (" | ".toList ++ cs) = [.bare ' ', .bare '|', .bare ' '] ++ signs cs :=
    fun _ => rfl
  have hname := Guard.record.signs_write name []
  rw [List.append_nil, signs, List.append_nil] at hname
  rw [escapeRecordChars_eq_write, escapeRecordChars_eq_write, List.append_assoc, Guard.signs_write,
    hbar, hname, List.append_assoc]

/-- A bar in a label has a backslash in front of it, or it is the one between the file and the name. -/
theorem bar_of_recordLabel {u v : List Char}
    (h : escapeRecordChars file ++ " | ".toList ++ escapeRecordChars name = u ++ '|' :: v) :
    (∃ w, u = w ++ ['\\']) ∨
      u = escapeRecordChars file ++ [' '] ∧ v = ' ' :: escapeRecordChars name := by
  have hslash : ∀ {cs u v}, escapeRecordChars cs = u ++ '|' :: v → ∃ w, u = w ++ ['\\'] := by
    intro cs u v hcs
    rw [escapeRecordChars_eq_write] at hcs
    exact Guard.record.slash_before rfl (by decide) hcs
  have hsep : " | ".toList = [' ', '|', ' '] := rfl
  rw [List.append_assoc, hsep] at h
  rcases List.append_eq_append_iff.mp h with ⟨x, rfl, hx⟩ | ⟨x, hfile, hx⟩
  · -- the bar stands behind the file, and `x` between the two
    match x with
    | [] => simp at hx
    | [a] =>
      obtain ⟨rfl, hv⟩ : ' ' = a ∧ ' ' :: escapeRecordChars name = v := by simpa using hx
      exact Or.inr ⟨rfl, hv.symm⟩
    | [a, b] => simp at hx
    | a :: b :: c :: x =>
      have hname : escapeRecordChars name = x ++ '|' :: v := by
        simp only [List.cons_append, List.nil_append, List.cons.injEq] at hx
        exact hx.2.2.2
      obtain ⟨w, rfl⟩ := hslash hname
      exact Or.inl ⟨escapeRecordChars file ++ a :: b :: c :: w, by simp⟩
  · match x with
    | [] => simp at hx
    | a :: x =>
      obtain ⟨rfl, -⟩ := List.cons.inj hx
      exact Or.inl (hslash hfile)

theorem eq_of_cut {before after : List Char}
    (h : escapeRecordChars file ++ " | ".toList ++ escapeRecordChars name =
      before ++ " | ".toList ++ after) :
    before = escapeRecordChars file ∧ after = escapeRecordChars name := by
  have hbar : before ++ " | ".toList ++ after = (before ++ [' ']) ++ '|' :: ' ' :: after := by simp
  rcases bar_of_recordLabel file name (h.trans hbar) with ⟨w, hw⟩ | ⟨hbefore, hafter⟩
  · exact absurd (List.append_inj_right' hw rfl) (by decide)
  · exact ⟨List.append_cancel_right hbefore, (List.cons.inj hafter).2⟩

end Label

theorem isRecordOf_recordLabel (file name : String) :
    IsRecordOf (escapeRecordChars file.toList ++ " | ".toList ++ escapeRecordChars name.toList)
      file name where
  one_bar := by
    have hnone := fun cs => List.count_eq_zero.mpr (Guard.record.bare_not_mem_map_sign (x := '|') rfl cs)
    rw [signs_recordLabel, List.count_append, List.count_append, hnone, hnone]
    decide
  no_quote := by
    have hnone := Guard.record.bare_not_mem_map_sign (x := '"') rfl
    rw [signs_recordLabel]
    simp [hnone]
  no_line_end := not_mem_recordLabel _ _
  quoted := readQuoted_recordLabel _ _
  cut := by
    refine ⟨_, _, rfl, ?_, ?_, fun _ _ h => eq_of_cut _ _ h⟩
    · rw [escapeRecordChars_eq_write, Guard.unescape_write]
    · rw [escapeRecordChars_eq_write, Guard.unescape_write]

/-- **A label of a file and a name is read back as these two, whatever characters they hold.** The
escapes under it lose nothing either, the first of which is three replacements in turn. -/
theorem recordLabel_readable :
    (∀ file name : String,
      IsRecordOf (escapeRecord file ++ " | " ++ escapeRecord name).toList file name) ∧
    (∀ id, IsRecordOf (nodeLabel false id) (splitQualified id).1 (splitQualified id).2) ∧
    (∀ cs, escapeIdChars cs = replaced '\n' ['\\', 'n'] (replaced '"' ['\\', '"']
      (replaced '\\' ['\\', '\\'] cs))) ∧
    Function.Injective escapeId ∧ Function.Injective escapeRecord := by
  refine ⟨fun file name => ?_, fun id => isRecordOf_recordLabel .., escapeIdChars_eq_replaced, ?_, ?_⟩
  · simpa [escapeRecord] using isRecordOf_recordLabel file name
  · exact fun _ _ h => String.toList_injective (escapeIdChars_injective (String.ofList_injective h))
  · exact fun _ _ h => String.toList_injective (escapeRecordChars_injective (String.ofList_injective h))

end PerlCalls.Export

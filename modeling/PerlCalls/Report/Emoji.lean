import PerlCalls.Report.EmojiNames
import PerlCalls.Text.Blank
import PerlCalls.Text.Case
import PerlCalls.Text.Digit
import PerlCalls.Text.Lines

/-! Emoji by name.

A name between two colons stands for an emoji; behind the name, the ending `-text` or `-emoji` asks
for one of its two forms. What is between colons and no name stays as it is. -/
namespace PerlCalls.Report

open Text

/-- A name and the characters that it stands for, from a line of the list of names. -/
def emojiEntry (line : List Char) : List Char × List Char :=
  match splitOnChar ' ' line with
  | name :: codes => (name, codes.map (fun code => Char.ofNat (hexNumber code)))
  | [] => ([], [])

def emojiTable : List (List Char × List Char) := (splitOnChar '\n' emojiNames.toList).map emojiEntry

/-- The text before an ending, if the text has it. -/
def beforeEnding? (ending cs : List Char) : Option (List Char) :=
  if ending.isSuffixOf cs then some (cs.take (cs.length - ending.length)) else none

/-- What a code between colons stands for. -/
def emojiOf? (code : List Char) : Option (List Char) :=
  let find := fun name => emojiTable.lookup (lower name)
  match beforeEnding? "-text".toList code, beforeEnding? "-emoji".toList code with
  | some name, _ => (find name).map (· ++ [Char.ofNat 0xFE0E])
  | none, some name => (find name).map (· ++ [Char.ofNat 0xFE0F])
  | none, none => find code

/-- A code up to the next colon, and what follows; there is no blank in a code. -/
def codeAhead? (cs : List Char) : Option (List Char × List Char) :=
  match cs.dropWhile (fun c => c != ':' && !isBlank c) with
  | ':' :: beyond => some (cs.takeWhile (fun c => c != ':' && !isBlank c), beyond)
  | _ => none

theorem codeAhead?_length {cs code beyond : List Char} (h : codeAhead? cs = some (code, beyond)) :
    beyond.length < cs.length := by
  unfold codeAhead? at h
  split at h
  · rename_i more hdrop
    have hlen := (List.dropWhile_sublist (fun c => c != ':' && !isBlank c) (l := cs)).length_le
    simp only [Option.some.injEq, Prod.mk.injEq] at h
    rw [hdrop, h.2] at hlen
    exact hlen
  · cases h

/-- A text with its emoji codes replaced. -/
def replaceCodes (cs : List Char) : List Char :=
  match cs with
  | [] => []
  | c :: rest =>
    if c == ':' then
      match _h : codeAhead? rest with
      | some (code, beyond) => (emojiOf? code).getD (':' :: code ++ [':']) ++ replaceCodes beyond
      | none => c :: replaceCodes rest
    else c :: replaceCodes rest
termination_by cs.length
decreasing_by
  · exact Nat.lt_succ_of_lt (codeAhead?_length _h)
  · exact Nat.lt_succ_self _
  · exact Nat.lt_succ_self _

end PerlCalls.Report

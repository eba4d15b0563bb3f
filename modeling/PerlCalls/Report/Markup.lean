import PerlCalls.Report.Argument
import PerlCalls.Report.Emoji
import PerlCalls.Report.Style
import PerlCalls.Report.Wrap

/-! Console markup.

A tag stands in square brackets and begins with a lower-case letter, a number sign, a slash or an at
sign. Tags style the text between them and leave nothing in it; a tag behind an odd number of
backslashes is text. A closing tag closes the innermost open tag of the same style, one without a
name the innermost of all. Bracketed text that is no tag stays. A tag that begins with an at sign
names a handler, whose arguments are read when it is closed. -/
namespace PerlCalls.Report

open Text

/-- Why a text cannot be printed. -/
inductive MarkupFault where
  /-- A closing tag closes nothing. -/
  | unmatched (tag : List Char)
  /-- The arguments of a handler cannot be read. -/
  | handler (arguments : List Char)
  /-- A component of a colour is not a number. -/
  | number (fault : NumberFault)
deriving DecidableEq

inductive Piece where
  /-- Text of the user, in which a backslash before a bracket goes. -/
  | raw (text : List Char)
  /-- Text as it is. -/
  | literal (text : List Char)
  | tag (content : List Char)

def beginsTag (c : Char) : Bool := ('a' ≤ c && c ≤ 'z') || c == '#' || c == '/' || c == '@'

/-- The content of the tag that the text begins with, and what follows it. -/
def tagAhead? : List Char → Option (List Char × List Char)
  | '[' :: c :: rest =>
    if beginsTag c then
      let inner := rest.takeWhile (fun x => x != '[' && x != ']')
      match rest.dropWhile (fun x => x != '[' && x != ']') with
      | ']' :: beyond => some (c :: inner, beyond)
      | _ => none
    else none
  | _ => none

theorem tagAhead?_length {cs content beyond : List Char} (h : tagAhead? cs = some (content, beyond)) :
    beyond.length < cs.length := by
  unfold tagAhead? at h
  split at h
  · rename_i c rest
    split at h
    · simp only at h
      split at h
      · rename_i more hdrop
        have hlen := (List.dropWhile_sublist (fun x => x != '[' && x != ']') (l := rest)).length_le
        simp only [Option.some.injEq, Prod.mk.injEq] at h
        rw [hdrop] at hlen
        rw [← h.2]
        simp only [List.length_cons] at hlen ⊢
        omega
      · cases h
    · cases h
  · cases h

/-- The text collected so far as a piece, unless it is empty. -/
def rawPiece (back : List Char) : List Piece := if back.isEmpty then [] else [.raw back.reverse]

/-- A tag behind `slashes` backslashes: each two of them are one, and an odd one makes it text. -/
def tagPieces (slashes : Nat) (content : List Char) : List Piece :=
  (if slashes < 2 then [] else [.literal (List.replicate (slashes / 2) '\\')]) ++
    [if slashes % 2 == 1 then .literal ('[' :: content ++ [']']) else .tag content]

/-- The pieces of a marked-up text; `back` is the text before, last character first. -/
def piecesFrom (back : List Char) (cs : List Char) : List Piece :=
  match cs with
  | [] => rawPiece back
  | c :: rest =>
    let slashes := (c :: rest).takeWhile (· == '\\')
    let beyond := (c :: rest).dropWhile (· == '\\')
    match _h : tagAhead? beyond with
    | some (content, after) =>
      rawPiece back ++ tagPieces slashes.length content ++ piecesFrom [] after
    | none =>
      if c == '\\' then piecesFrom (slashes.reverse ++ back) (rest.dropWhile (· == '\\'))
      else piecesFrom (c :: back) rest
termination_by cs.length
decreasing_by
  · have hlen := (List.dropWhile_sublist (· == '\\') (l := c :: rest)).length_le
    exact Nat.lt_of_lt_of_le (tagAhead?_length _h) hlen
  · exact Nat.lt_succ_of_le (List.dropWhile_sublist (· == '\\')).length_le
  · exact Nat.lt_succ_self _

/-- A backslash before an opening bracket goes. -/
def unescapeBrackets : List Char → List Char
  | '\\' :: '[' :: rest => '[' :: unescapeBrackets rest
  | c :: rest => c :: unescapeBrackets rest
  | [] => []

/-! ### Rendering -/

/-- A tag that has not been closed: where it begins, the normal form of its name, and what stands
behind an equals sign. -/
structure OpenTag where
  start : Nat
  name : String
  arguments : List Char

/-- The style of a tag, as it is written. -/
def OpenTag.style (t : OpenTag) : List Char :=
  if t.arguments.isEmpty then t.name.toList else t.name.toList ++ ' ' :: t.arguments

/-- A part of a text and its style. -/
structure Span where
  start : Nat
  stop : Nat
  style : List Char

/-- A text with styles. -/
structure Marked where
  text : List Char := []
  spans : List Span := []

/-- A text of which the tags are being read. -/
structure Marking where
  marked : Marked := {}
  /-- The open tags, the innermost first. -/
  opened : List OpenTag := []

/-- Take the innermost tag of a style off the open ones. -/
def closeTag? (style : String) : List OpenTag → Option (OpenTag × List OpenTag)
  | [] => none
  | top :: rest =>
    if top.name == style then some (top, rest)
    else (closeTag? style rest).map (fun (tag, rest) => (tag, top :: rest))

/-- Characters that would move the cursor are not printed. -/
def isControl (c : Char) : Bool := [7, 8, 11, 12, 13].contains c.toNat

namespace Marking

def length (m : Marking) : Nat := m.marked.text.length

def add (m : Marking) (cs : List Char) : Marking :=
  { m with marked := { m.marked with
      text := m.marked.text ++ (replaceCodes cs).filter (fun c => !isControl c) } }

def addSpan (m : Marking) (tag : OpenTag) : Marking :=
  { m with marked := { m.marked with
      spans := m.marked.spans ++ [⟨tag.start, m.length, tag.style⟩] } }

/-- Close a tag: the style holds up to here. -/
def close (m : Marking) (tag : OpenTag) (opened : List OpenTag) : Except MarkupFault Marking :=
  let m := { m with opened := opened }
  if tag.name.toList.head? == some '@' then
    if tag.arguments.isEmpty || isHandler tag.arguments then .ok m
    else .error (.handler tag.arguments)
  else .ok (m.addSpan tag)

def apply (m : Marking) (content : List Char) : Except MarkupFault Marking :=
  let name := content.takeWhile (· != '=')
  let arguments := (content.dropWhile (· != '=')).drop 1
  match name with
  | '/' :: rest => do
    let style := trim rest
    let closed ← if style.isEmpty then .ok (m.opened.head?.map (·, m.opened.drop 1))
      else (closeTag? · m.opened) <$> (normalStyle style).mapError .number
    match closed with
    | some (tag, opened) => m.close tag opened
    | none => .error (.unmatched content)
  | _ => do
    let style ← (normalStyle name).mapError .number
    return { m with opened := ⟨m.length, style, arguments⟩ :: m.opened }

def addPiece (m : Marking) : Piece → Except MarkupFault Marking
  | .raw text => .ok (m.add (unescapeBrackets text))
  | .literal text => .ok (m.add text)
  | .tag content => m.apply content

/-- Tags that are still open hold up to the end. -/
def finish (m : Marking) : Marked := (m.opened.foldl addSpan m).marked

end Marking

/-- The text that a marked-up one prints, and its styles. -/
def markup (cs : List Char) : Except MarkupFault Marked :=
  ((piecesFrom [] cs).foldlM Marking.addPiece {}).map Marking.finish

/-- What is wrong with the style of a part. A style without meaning is ignored. -/
def Span.fault? (s : Span) : Option MarkupFault :=
  match styleOf s.style with
  | .error (.number fault) => some (.number fault)
  | _ => none

/-- A marked-up text in lines of at most `width` cells. A text that needs more than one line loses
the styles of its empty parts. -/
def Marked.lines (m : Marked) (width : Nat) (overflow : Overflow) (j : Justify) :
    Except MarkupFault (List (List Char)) :=
  let lines := wrap width overflow j m.text
  let spans := if lines.length == 1 then m.spans else m.spans.filter (fun s => s.start < s.stop)
  match spans.findSome? Span.fault? with
  | some fault => .error fault
  | none => .ok lines

end PerlCalls.Report

import PerlCalls.Text.Blank
import PerlCalls.Text.Cells
import PerlCalls.Text.Lines

/-! Text in lines of a limited width, measured in cells.

A line is broken before a word that does not fit; the blanks before the break stay at its end as far
as there is room. A word wider than a line is cut, or left whole and cropped later. -/
namespace PerlCalls.Report

open Text

/-- What becomes of a word that is wider than a line. -/
inductive Overflow where
  | fold
  | ellipsis
deriving DecidableEq

/-- The next word with the blanks around it, and what follows. -/
def nextWord? (cs : List Char) : Option (List Char × List Char) :=
  let lead := cs.takeWhile isBlank
  let rest := cs.dropWhile isBlank
  let body := rest.takeWhile (fun c => !isBlank c)
  let rest := rest.dropWhile (fun c => !isBlank c)
  if body.isEmpty then none
  else some (lead ++ body ++ rest.takeWhile isBlank, rest.dropWhile isBlank)

theorem nextWord?_length {cs word rest : List Char} (h : nextWord? cs = some (word, rest)) :
    rest.length < cs.length := by
  simp only [nextWord?] at h
  split at h
  · cases h
  · rename_i hbody
    obtain ⟨-, rfl⟩ := Prod.mk.inj (Option.some.inj h)
    have hsplit := congrArg List.length
      (List.takeWhile_append_dropWhile (p := fun c => !isBlank c) (l := cs.dropWhile isBlank))
    have hpos := List.length_pos_iff.mpr (fun he => hbody (List.isEmpty_iff.mpr he))
    have hlead := (List.dropWhile_sublist isBlank (l := cs)).length_le
    have htrail := (List.dropWhile_sublist isBlank
      (l := (cs.dropWhile isBlank).dropWhile (fun c => !isBlank c))).length_le
    rw [List.length_append] at hsplit
    omega

/-- The words of a line with the blanks around them. -/
def words (cs : List Char) : List (List Char) :=
  match _h : nextWord? cs with
  | none => []
  | some (word, rest) => word :: words rest
termination_by cs.length
decreasing_by exact nextWord?_length _h

/-- Without the blanks at the end. -/
def trimRight (cs : List Char) : List Char := (cs.reverse.dropWhile isBlank).reverse

/-- Lines that are done, the line that is being filled, and how many cells of it are used. -/
structure Filling where
  done : List (List Char) := []
  line : List Char := []
  used : Nat := 0

def Filling.isFresh (f : Filling) : Bool := f.done.isEmpty && f.line.isEmpty

/-- Begin a new line, unless nothing has been written yet. -/
def Filling.break (f : Filling) : Filling :=
  if f.isFresh then f else { done := f.done ++ [f.line] }

def Filling.put (f : Filling) (cs : List Char) : Filling :=
  { f with line := f.line ++ cs, used := f.used + cells cs }

/-- Every piece on a line of its own. -/
def Filling.putPieces (f : Filling) (pieces : List (List Char)) : Filling :=
  pieces.foldl (fun f piece => { f.break with used := 0 }.put piece) f

def Filling.addWord (width : Nat) (overflow : Overflow) (f : Filling) (word : List Char) : Filling :=
  let length := cells (trimRight word)
  if f.used + length ≤ width then f.put word
  else if width < length then
    match overflow with
    | .fold => f.putPieces (chop width word)
    | .ellipsis => { f.break with used := 0 }.put word
  else if f.used != 0 && !f.isFresh then f.break.put word
  else { f with line := f.line ++ word }

/-- One line of text, broken. -/
def breakLine (width : Nat) (overflow : Overflow) (cs : List Char) : List (List Char) :=
  match words cs with
  | [] => [cs]
  | ws =>
    let f := ws.foldl (Filling.addWord width overflow) {}
    f.done ++ [f.line]

/-- Blanks at the end go as far as the line is too long. -/
def trimExcess (width : Nat) (cs : List Char) : List Char :=
  let blanks := cs.length - (trimRight cs).length
  cs.take (cs.length - min blanks (cs.length - width))

/-- Crop a line that is too wide. -/
def crop (width : Nat) (overflow : Overflow) (cs : List Char) : List Char :=
  if cells cs ≤ width then cs
  else match overflow with
    | .fold => fitCells width cs
    | .ellipsis => fitCells (width - 1) cs ++ ['…']

/-- Tabs go to the next multiple of eight. -/
def expandTabs (cs : List Char) : List Char := expand (splitOnChar '\t' cs)
where
  expand : List (List Char) → List Char
    | [] => []
    | [last] => last
    | part :: rest => part ++ List.replicate (8 - cells part % 8) ' ' ++ expand rest

inductive Justify where
  | none
  | left
  | center
  | right
deriving DecidableEq

/-- Place a line within the width. -/
def justify (width : Nat) (overflow : Overflow) (j : Justify) (cs : List Char) : List Char :=
  let blanks := fun n => List.replicate n ' '
  match j with
  | .none => cs
  | .left =>
    let line := crop width overflow cs
    line ++ blanks (width - cells line)
  | .center =>
    let line := crop width overflow (trimRight cs)
    let before := (width - cells line) / 2
    blanks before ++ line ++ blanks (width - cells line - before)
  | .right =>
    let line := crop width overflow (trimRight cs)
    blanks (width - cells line) ++ line

/-- A text in lines of at most `width` cells. -/
def wrap (width : Nat) (overflow : Overflow) (j : Justify) (cs : List Char) : List (List Char) :=
  (splitOnChar '\n' cs).flatMap (fun line =>
    (breakLine width overflow (expandTabs line)).map (fun piece =>
      crop width overflow (justify width overflow j (trimExcess width piece))))

end PerlCalls.Report

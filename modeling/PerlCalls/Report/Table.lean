import PerlCalls.Data.Rounding
import PerlCalls.Report.Markup

/-! Tables with ruled lines.

Every column is as wide as its widest cell and a blank on either side. If that is too wide for the
console, the widest columns give way first, and their cells are broken into lines. -/
namespace PerlCalls.Report

open Text

/-- The characters of a table's rules: left end, rule, crossing and right end of a line. -/
structure Rule where
  left : Char
  fill : Char
  cross : Char
  right : Char

/-- How a table is ruled: above the heading, in it, below it, between the cells of a row, and at the
bottom. -/
structure Box where
  top : Rule
  head : Rule
  belowHead : Rule
  row : Rule
  bottom : Rule

def roundedBox : Box where
  top := ⟨'╭', '─', '┬', '╮'⟩
  head := ⟨'│', ' ', '│', '│'⟩
  belowHead := ⟨'├', '─', '┼', '┤'⟩
  row := ⟨'│', ' ', '│', '│'⟩
  bottom := ⟨'╰', '─', '┴', '╯'⟩

def heavyHeadBox : Box where
  top := ⟨'┏', '━', '┳', '┓'⟩
  head := ⟨'┃', ' ', '┃', '┃'⟩
  belowHead := ⟨'┡', '━', '╇', '┩'⟩
  row := ⟨'│', ' ', '│', '│'⟩
  bottom := ⟨'└', '─', '┴', '┘'⟩

structure Column where
  heading : String
  justify : Justify

structure Table where
  title : String
  box : Box
  columns : List Column
  /-- Cells in markup, one for each column. -/
  rows : List (List String)

/-! ### Widths -/

/-- Characters at which a new line begins when a cell is measured. -/
def endsMeasure (c : Char) : Bool :=
  [0x0A, 0x1C, 0x1D, 0x1E, 0x85, 0x2028, 0x2029].contains c.toNat

/-- The widest line of a cell and a blank on either side, if there is room for that. -/
def cellNeed (room : Nat) (cs : List Char) : Nat :=
  let marked := cs.map (fun c => if endsMeasure c then '\n' else c)
  let widest := ((splitOnChar '\n' marked).map cells).foldl max 0
  if room < 3 then room else min (widest + 2) room

/-- The width of a column in a given room. -/
def columnWidth (room : Nat) (texts : List (List Char)) : Nat :=
  (texts.map (cellNeed room)).foldl max 0

def total (widths : List Nat) : Nat := widths.foldr (· + ·) 0

/-- Take `amount` off the values in proportion to their shares, from none more than its limit. -/
def reduceBy (amount shares : Nat) : List (Nat × Nat × Nat) → List Nat
  | [] => []
  | (share, limit, value) :: rest =>
    if share != 0 && shares != 0 then
      let part := min limit (roundDiv (share * amount) shares)
      (value - part) :: reduceBy (amount - part) (shares - share) rest
    else value :: reduceBy amount shares rest

def reduceShares (amount : Nat) (entries : List (Nat × Nat × Nat)) : List Nat :=
  let entries := entries.map (fun e => (if e.2.1 == 0 then 0 else e.1, e.2))
  let shares := total (entries.map Prod.fst)
  if shares == 0 then entries.map (fun e => e.2.2) else reduceBy amount shares entries

/-- Narrow the widest columns, step by step, until all fit or all are of one width. -/
def collapse (room : Nat) (widths : List Nat) : Nat → List Nat
  | 0 => widths
  | n + 1 =>
    let excess := total widths - room
    let widest := widths.foldl max 0
    let second := (widths.filter (· != widest)).foldl max 0
    if excess == 0 || widest == second then widths
    else
      let limit := min excess (widest - second)
      collapse room
        (reduceShares excess (widths.map (fun w => (if w == widest then 1 else 0, limit, w)))) n

/-- The widths of the columns in a room for all of them. Every column asks for a cell at least. -/
def columnWidths (room : Nat) (texts : List (List (List Char))) : List Nat :=
  let widths := texts.map (fun column => max 1 (columnWidth room column))
  if total widths ≤ room then widths
  else
    let narrowed := collapse room widths (total widths + 1)
    let excess := total narrowed - room
    let last := if excess == 0 then narrowed
      else reduceShares excess (narrowed.map (fun w => (1, w, w)))
    (texts.zip last).map (fun p => min p.2 (columnWidth p.2 p.1))

/-! ### Lines -/

/-- One line across all columns, each part as wide as its column. -/
def ruledLine (r : Rule) (parts : List (List Char)) : List Char :=
  r.left :: joinWith [r.cross] parts ++ [r.right]

def rule (r : Rule) (widths : List Nat) : List Char :=
  ruledLine r (widths.map (fun w => List.replicate w r.fill))

/-- The lines of a cell, with a blank on either side; none if the blanks leave no room. -/
def cellLines (width : Nat) (j : Justify) (cell : Marked) : Except MarkupFault (List (List Char)) :=
  let inner := width - 2
  if inner == 0 then .ok []
  else (cell.lines inner .ellipsis j).map (List.map (fun line => ' ' :: fitCells inner line ++ [' ']))

/-- A row: as many lines as its tallest cell has. -/
def rowLines (r : Rule) (widths : List Nat) (justifies : List Justify) (row : List Marked) :
    Except MarkupFault (List (List Char)) := do
  let columns ← (widths.zip (justifies.zip row)).mapM (fun c => do
    return (c.1, ← cellLines c.1 c.2.1 c.2.2))
  let height := (columns.map (fun c => c.2.length)).foldl max 1
  return (List.range height).map (fun i =>
    ruledLine r (columns.map (fun c => c.2.getD i (List.replicate c.1 ' '))))

/-- The cells of a row. -/
def markedRow (row : List String) : Except MarkupFault (List Marked) :=
  row.mapM (fun cell => markup cell.toList)

/-- The texts of a column. -/
def columnTexts (rows : List (List Marked)) (i : Nat) : List (List Char) :=
  rows.map (fun row => ((row[i]?).map Marked.text).getD [])

/-- The lines of a table on a console of the given width. What is still too wide is cut off. -/
def Table.lines (t : Table) (width : Nat) : Except MarkupFault (List (List Char)) := do
  let headings ← markedRow (t.columns.map Column.heading)
  let rows ← t.rows.mapM markedRow
  let justifies := t.columns.map Column.justify
  let texts := (List.range t.columns.length).map (columnTexts (headings :: rows))
  let widths := columnWidths (width - (t.columns.length + 1)) texts
  let whole := total widths + t.columns.length + 1
  let title ← (← markup t.title.toList).lines whole .fold .center
  let head ← rowLines t.box.head widths justifies headings
  let body ← rows.mapM (rowLines t.box.row widths justifies)
  let lines := title ++ [rule t.box.top widths] ++ head ++ [rule t.box.belowHead widths] ++
    body.flatten ++ [rule t.box.bottom widths]
  return lines.map (crop width .fold)

end PerlCalls.Report

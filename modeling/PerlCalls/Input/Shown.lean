import PerlCalls.Input.Check
import PerlCalls.Text.Lines
import PerlCalls.Text.Quoted
import PerlCalls.Text.Utf8

/-! Values, and what is wrong with them, as a report shows them.

A number in double precision is shown with the fewest digits that are read as that number. A long
value is cut in the middle. -/
namespace PerlCalls.Input

open Text

/-! ### Numbers -/

namespace Fractional

/-- The power of ten that is next above a positive count of units. -/
def magnitude (units : Nat) : Int :=
  if one ≤ units then (Nat.toDigits 10 (units / one)).length
  else 1 - ((List.range 400).find? (fun k => one ≤ units * Nat.pow 10 k)).getD 0

/-- The nearest number of `places` digits, and the power of ten that its last digit counts. -/
def rounded (units places : Nat) : Nat × Int :=
  let shift := (places : Int) - magnitude units
  (roundDiv (units * Nat.pow 10 shift.toNat) (one * Nat.pow 10 (-shift).toNat), -shift)

/-- Seventeen digits tell all numbers apart. -/
def mostPlaces : Nat := 17

/-- The fewest digits that are read as the number, and the power of ten of the last one. -/
def shortest (units : Nat) : List Char × Int :=
  let attempts := (List.range mostPlaces).map (fun i =>
    let (n, exponent) := rounded units (i + 1)
    (Nat.toDigits 10 n, exponent))
  (attempts.find? (fun d => ofDecimal false d.1 d.2 == .finite units)).getD (['0'], 0)

/-- Digits and where the point stands in them: inside, before them or behind them. Very small and
very large numbers have an exponent instead. -/
def shownDigits (digits : List Char) (exponent : Int) : List Char :=
  let point := (digits.length : Int) + exponent
  let zeros := fun (n : Int) => List.replicate n.toNat '0'
  if point ≤ -4 || 16 < point then
    let power := point - 1
    let size := Nat.toDigits 10 power.natAbs
    digits.take 1 ++ (if digits.length == 1 then [] else '.' :: digits.drop 1) ++
      ['e', if power < 0 then '-' else '+'] ++ List.replicate (2 - size.length) '0' ++ size
  else if point ≤ 0 then "0.".toList ++ zeros (-point) ++ digits
  else
    let whole := digits.take point.toNat ++ zeros exponent
    let fraction := digits.drop point.toNat
    whole ++ '.' :: (if fraction.isEmpty then ['0'] else fraction)

def shown : Fractional → List Char
  | .finite units =>
    let (digits, exponent) := if units == 0 then (['0'], 0) else shortest units.natAbs
    (if units < 0 then ['-'] else []) ++ shownDigits digits exponent
  | .infinite negative => (if negative then "-inf" else "inf").toList
  | .undefined => "nan".toList

end Fractional

/-! ### Values -/

/-- A byte between quotes. -/
def shownByte (quote : Char) (b : UInt8) : List Char :=
  if b.toNat < 0x80 then quoteChar quote (Char.ofNat b.toNat)
  else ['\\', 'x'] ++ hexText 2 b.toNat

def shownBytes (bs : List UInt8) : List Char :=
  let quote := quoteFor (bs.map (fun b => Char.ofNat b.toNat))
  'b' :: quote :: bs.flatMap (shownByte quote) ++ [quote]

def joined (parts : List (List Char)) : List Char := joinWith ", ".toList parts

namespace Value

mutual

def shown : Value → List Char
  | .null => "None".toList
  | .bool b => (if b then "True" else "False").toList
  | .int n => (toString n).toList
  | .fractional x => x.shown
  | .text s => (quoted s).toList
  | .bytes bs => shownBytes bs
  | .date => "date".toList
  | .list items => '[' :: joined (shownItems items) ++ [']']
  | .set [] => "set()".toList
  | .set items => '\x7b' :: joined (shownItems items) ++ ['\x7d']
  | .map entries => '\x7b' :: joined (shownEntries entries) ++ ['\x7d']

def shownItems : List Value → List (List Char)
  | [] => []
  | v :: rest => v.shown :: shownItems rest

def shownEntries : List (Value × Value) → List (List Char)
  | [] => []
  | (key, v) :: rest => (key.shown ++ ": ".toList ++ v.shown) :: shownEntries rest

end

/-- What sort of value it is. -/
def sort : Value → String
  | .null => "NoneType"
  | .bool _ => "bool"
  | .int _ => "int"
  | .fractional _ => "float"
  | .text _ => "str"
  | .bytes _ => "bytes"
  | .date => "date"
  | .list _ => "list"
  | .set _ => "set"
  | .map _ => "dict"

/-- One step into a value. -/
def part? (v : Value) : Step → Option Value
  | .field name => match v with
    | .map entries => (entries.find? (fun e => match e.1 with
      | .text key => key == name
      | _ => false)).map Prod.snd
    | _ => none
  | .index i => match v with
    | .list items => items[i]?
    | .set items => items[i]?
    | _ => none

end Value

/-! ### Reports -/

/-- As many characters from the beginning as fit into a number of bytes. -/
def fitBytes (room : Nat) : List Char → List Char
  | [] => []
  | c :: rest =>
    let size := (encodeChar c).length
    if size ≤ room then c :: fitBytes (room - size) rest else []

/-- A text of more than fifty bytes keeps its beginning and its end. -/
def shortened (cs : List Char) : List Char :=
  if (encode cs).length ≤ 50 then cs
  else fitBytes 25 cs ++ "...".toList ++ (fitBytes 24 cs.reverse).reverse

def Step.shown : Step → String
  | .field name => if name.toList.contains '.' then "\x60" ++ name ++ "\x60" else name
  | .index i => s!"{i}"

/-- What is wrong, and with what. -/
def Issue.report (r : Record) (i : Issue) : String :=
  let whole := Value.map (r.map (fun e => (.text e.1, e.2)))
  let v := (i.place.foldl (fun v step => v.bind (·.part? step)) (some whole)).getD .null
  ".".intercalate (i.place.map Step.shown) ++ "\n  " ++ i.kind.message ++ " [type=" ++ i.kind.label ++
    ", input_value=" ++ String.ofList (shortened v.shown) ++ ", input_type=" ++ v.sort ++ "]"

/-- All that is wrong with a record. -/
def report (title : String) (r : Record) (issues : List Issue) : String :=
  let count := issues.length
  s!"{count} validation error" ++ (if count == 1 then "" else "s") ++ s!" for {title}\n" ++
    "\n".intercalate (issues.map (Issue.report r))

end PerlCalls.Input

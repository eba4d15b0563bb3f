import PerlCalls.Text.Blank
import PerlCalls.Text.Digit
import PerlCalls.Text.Quoted

/-! Whole numbers written in digits: a sign, the mark of a base, and digits with single low lines
between them. A number in base ten may not have more than 4300 digits. -/
namespace PerlCalls.Text

/-- Why a text is not a number. -/
inductive NumberFault where
  | unreadable (base : Nat) (text : List Char)
  | tooLong (digits : Nat)
deriving DecidableEq

def NumberFault.message : NumberFault → String
  | .unreadable base text =>
    s!"invalid literal for int() with base {base}: " ++ quoted (String.ofList text)
  | .tooLong digits =>
    s!"Exceeds the limit (4300 digits) for integer string conversion: value has {digits} digits; " ++
      "use sys.set_int_max_str_digits() to increase the limit"

/-- The most digits that a number in base ten has. -/
def digitLimit : Nat := 4300

/-- What a digit is worth in a base up to sixteen. -/
def digitIn? (base : Nat) (c : Char) : Option Nat :=
  (if isDigit c then some (digitWorth c) else hexValue? c).filter (· < base)

/-- A sign, if there is one, and what follows it. -/
def splitSign : List Char → Bool × List Char
  | '-' :: rest => (true, rest)
  | '+' :: rest => (false, rest)
  | cs => (false, cs)

def withSign (negative : Bool) (n : Nat) : Int := if negative then -(n : Int) else n

/-- The letter that marks a base. -/
def baseMark? (base : Nat) : Option Char :=
  if base == 2 then some 'b' else if base == 8 then some 'o' else if base == 16 then some 'x' else none

/-- Without the mark of the base, and a low line behind it. -/
def afterBaseMark (base : Nat) (cs : List Char) : List Char :=
  match cs with
  | '0' :: c :: rest =>
    if some c.toLower == baseMark? base then
      (if rest.head? == some '_' then rest.drop 1 else rest)
    else cs
  | _ => cs

/-- Whether two low lines stand side by side. -/
def hasTwoLines : List Char → Bool
  | '_' :: '_' :: _ => true
  | _ :: rest => hasTwoLines rest
  | [] => false

/-- Low lines stand alone, and between other characters. -/
def linesStandInside (cs : List Char) : Bool :=
  !(cs.head? == some '_' || cs.getLast? == some '_' || hasTwoLines cs)

/-- The number that a text stands for in a base; blanks around it say nothing. -/
def wholeOfText (base : Nat) (text : List Char) : Except NumberFault Int :=
  let (negative, unsigned) := splitSign (trim text)
  let body := afterBaseMark base unsigned
  let run := body.takeWhile (fun c => c == '_' || (digitIn? base c).isSome)
  let digits := run.filter (· != '_')
  if base == 10 && digitLimit < digits.length then .error (.tooLong digits.length)
  else if digits.isEmpty || run.length != body.length || !linesStandInside run then
    .error (.unreadable base text)
  else .ok (withSign negative (digits.foldl (fun n c => base * n + (digitIn? base c).getD 0) 0))

end PerlCalls.Text

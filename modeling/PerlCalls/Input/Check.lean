import PerlCalls.Input.Value
import PerlCalls.Text.Blank
import PerlCalls.Text.Digit
import PerlCalls.Text.Utf8
import PerlCalls.Text.Whole

/-! Checking untyped values against what a record expects.

All fields are checked, and all that is wrong is reported, field by field. -/
namespace PerlCalls.Input

open Text

/-- One step from a value to a part of it. -/
inductive Step where
  | field (name : String)
  | index (i : Nat)
deriving DecidableEq

inductive IssueKind where
  | missing
  | notText
  | textUndecodable
  | notInt
  | intUnreadable
  | intFractional
  | intTooLarge
  | notFinite
  | boolUnreadable
  | notBool
  | notList
  /-- None of the named alternatives. -/
  | notOneOf (labels : List String)
  | unknownField
  /-- Of the right type, but refused for a reason of its own. -/
  | refused (reason : String)
  /-- Holds a number that is too large to be looked at. -/
  | overflow (reason : String)
deriving DecidableEq

namespace IssueKind

def label : IssueKind → String
  | .missing => "missing"
  | .notText => "string_type"
  | .textUndecodable => "string_unicode"
  | .notInt => "int_type"
  | .intUnreadable => "int_parsing"
  | .intFractional => "int_from_float"
  | .intTooLarge => "int_parsing_size"
  | .notFinite => "finite_number"
  | .boolUnreadable => "bool_parsing"
  | .notBool => "bool_type"
  | .notList => "list_type"
  | .notOneOf _ => "enum"
  | .unknownField => "extra_forbidden"
  | .refused _ => "value_error"
  | .overflow _ => "overflow"

/-- Alternatives in single quotes, with commas between them and `or` before the last. -/
def alternatives : List String → String
  | [] => ""
  | [a] => "'" ++ a ++ "'"
  | [a, b] => "'" ++ a ++ "' or '" ++ b ++ "'"
  | a :: rest => "'" ++ a ++ "', " ++ alternatives rest

def message : IssueKind → String
  | .missing => "Field required"
  | .notText => "Input should be a valid string"
  | .textUndecodable =>
    "Input should be a valid string, unable to parse raw data as a unicode string"
  | .notInt => "Input should be a valid integer"
  | .intUnreadable => "Input should be a valid integer, unable to parse string as an integer"
  | .intFractional => "Input should be a valid integer, got a number with a fractional part"
  | .intTooLarge => "Unable to parse input string as an integer, exceeded maximum size"
  | .notFinite => "Input should be a finite number"
  | .boolUnreadable => "Input should be a valid boolean, unable to interpret input"
  | .notBool => "Input should be a valid boolean"
  | .notList => "Input should be a valid list"
  | .notOneOf labels => "Input should be " ++ alternatives labels
  | .unknownField => "Extra inputs are not permitted"
  | .refused reason => "Value error, " ++ reason
  | .overflow reason => reason

end IssueKind

structure Issue where
  place : List Step
  kind : IssueKind
deriving DecidableEq

/-- A result, or all that is wrong. -/
abbrev Checked (α : Type) := Except (List Issue) α

namespace Checked

def fail {α : Type} (kind : IssueKind) : Checked α := .error [⟨[], kind⟩]

/-- Both results, or the issues of the first and then those of the second. -/
def both {α β : Type} : Checked α → Checked β → Checked (α × β)
  | .ok a, .ok b => .ok (a, b)
  | .error e, .ok _ => .error e
  | .ok _, .error e => .error e
  | .error e, .error e' => .error (e ++ e')

/-- A constructor that waits for its arguments. -/
def make {α : Type} (f : α) : Checked α := .ok f

/-- Give a constructor its next argument. -/
def feed {α β : Type} (f : Checked (α → β)) (a : Checked α) : Checked β :=
  (f.both a).map (fun p => p.1 p.2)

/-- Say of every issue that it lies one step further in. -/
def within {α : Type} (step : Step) : Checked α → Checked α
  | .ok a => .ok a
  | .error issues => .error (issues.map (fun i => { i with place := step :: i.place }))

end Checked

/-! ### Single values -/

/-- A text, or bytes that are one. -/
def readText : Value → Checked String
  | .text s => .ok s
  | .bytes bs => match decode? bs with
    | some cs => .ok (String.ofList cs)
    | none => .fail .textUndecodable
  | _ => .fail .notText

/-- The most characters that a whole number has. -/
def intLimit : Nat := 4300

/-- A whole number in plain notation: digits, of which the first is zero only if it is the only one,
and perhaps a minus sign before them. -/
def plainInt (cs : List Char) : Except IssueKind Int :=
  let negative := cs.head? == some '-'
  let body := if negative then cs.drop 1 else cs
  let digits := body.takeWhile isAsciiDigit
  let n : Int := decimalValue digits
  if body == ['0'] then .ok 0
  else if digits.isEmpty || digits.head? == some '0' then .error .intUnreadable
  else if intLimit < digits.length + (if negative then 1 else 0) then .error .intTooLarge
  else if digits.length == body.length then .ok (if negative then -n else n)
  else .error .intUnreadable

/-- What follows zeros at the beginning; `zero` is the last character so far. Low lines between them
go with them, and one zero stays before a point or at the end. -/
def afterZeros (zero : Char) : List Char → Option (List Char)
  | [] => some [zero]
  | c :: rest =>
    if c == '0' || c == '_' then afterZeros c rest
    else if isAsciiDigit c || c == '-' then some (c :: rest)
    else if c == '.' then some (zero :: c :: rest)
    else none

/-- Without zeros at the beginning. -/
def dropZeros : List Char → Option (List Char)
  | [] => none
  | c :: rest =>
    if c == '0' then afterZeros c rest
    else if isAsciiDigit c || c == '-' then some (c :: rest)
    else none

/-- Without a fraction of zeros. -/
def dropFraction (cs : List Char) : List Char :=
  if ((cs.dropWhile (· != '.')).drop 1).all (· == '0') then cs.takeWhile (· != '.') else cs

/-- Without low lines, if they stand alone and inside. -/
def dropLines (cs : List Char) : List Char :=
  if linesStandInside cs then cs.filter (· != '_') else cs

/-- A plus sign goes, unless a minus sign follows it. -/
def dropPlus : List Char → Option (List Char)
  | '+' :: '-' :: _ => none
  | '+' :: rest => some rest
  | cs => some cs

/-- The plain notation of a whole number that is written with blanks around it, a plus sign, zeros
at the beginning, low lines or a fraction of zeros. -/
def plainNotation (cs : List Char) : Option (List Char) :=
  (dropPlus (trimOf isWhite cs)).bind (fun cs =>
    (dropZeros cs).map (fun cs => dropLines (dropFraction cs)))

def intOfText (s : String) : Except IssueKind Int :=
  match plainInt s.toList with
  | .error .intUnreadable =>
    match plainNotation s.toList with
    | some cs => plainInt cs
    | none => .error .intUnreadable
  | read => read

/-- Two to the power of 63, the first number that is too large for a word. -/
def wordEnd : Int := 9223372036854775808

/-- A whole number in double precision, which has to fit into a word. -/
def intOfFractional : Fractional → Except IssueKind Int
  | .finite units =>
    match (Fractional.finite units).toInt? with
    | none => .error .intFractional
    | some n => if -wordEnd < n && n < wordEnd then .ok n else .error .intTooLarge
  | _ => .error .notFinite

def readInt : Value → Checked Int
  | .int n => .ok n
  | .bool b => .ok (if b then 1 else 0)
  | .fractional x => (intOfFractional x).mapError (fun kind => [⟨[], kind⟩])
  | .text s => (intOfText s).mapError (fun kind => [⟨[], kind⟩])
  | _ => .fail .notInt

/-- The words for a truth value, letter case aside. -/
def boolOfText (s : String) : Checked Bool :=
  let low := s.toLower
  if ["0", "off", "f", "false", "n", "no"].contains low then .ok false
  else if ["1", "on", "t", "true", "y", "yes"].contains low then .ok true
  else .fail .boolUnreadable

/-- Zero and one stand for truth values. -/
def boolOfInt (n : Int) : Checked Bool :=
  if n == 0 then .ok false else if n == 1 then .ok true else .fail .boolUnreadable

def readBool : Value → Checked Bool
  | .bool b => .ok b
  | .int n => if -wordEnd ≤ n && n < wordEnd then boolOfInt n else .fail .notBool
  | .fractional x => match intOfFractional x with
    | .ok n => boolOfInt n
    | .error _ => .fail .notBool
  | .text s => boolOfText s
  | .bytes bs => boolOfText (((decode? bs).map String.ofList).getD "")
  | _ => .fail .notBool

/-- A value, or nothing in its place. -/
def readOptional {α : Type} (read : Value → Checked α) : Value → Checked (Option α)
  | .null => .ok none
  | v => (read v).map some

/-- Items from position `i` on. -/
def readItems {α : Type} (read : Value → Checked α) (i : Nat) : List Value → Checked (List α)
  | [] => .ok []
  | v :: rest =>
    (Checked.both ((read v).within (.index i)) (readItems read (i + 1) rest)).map
      (fun p => p.1 :: p.2)

def readList {α : Type} (read : Value → Checked α) : Value → Checked (List α)
  | .list items => readItems read 0 items
  | .set items => readItems read 0 items
  | _ => .fail .notList

/-! ### Fields of records -/

/-- A field that has to be there. -/
def required {α : Type} (r : Record) (name : String) (read : Value → Checked α) : Checked α :=
  Checked.within (.field name) (match r.lookup name with
    | some v => read v
    | none => .fail .missing)

/-- A field with a value to fall back on. -/
def optional {α : Type} (r : Record) (name : String) (read : Value → Checked α) (default : α) :
    Checked α :=
  match r.lookup name with
  | some v => (read v).within (.field name)
  | none => .ok default

/-- Refuse every field that is not expected. -/
def onlyFields (expected : List String) (r : Record) : Checked Unit :=
  match r.filter (fun e => !expected.contains e.1) with
  | [] => .ok ()
  | unknown => .error (unknown.map (fun e => ⟨[.field e.1], .unknownField⟩))

end PerlCalls.Input

import PerlCalls.Input.Value
import PerlCalls.Text.Case
import PerlCalls.Text.Lines
import PerlCalls.Text.Whole
import PerlCalls.Yaml.Fault

/-! What scalars mean: nothing, a truth value, a number, a date, bytes, or their own text.

The kind of a plain scalar follows from its form, that of any other from its tag. A scalar that has
been given a kind by its tag may not have the form that the kind asks for. -/
namespace PerlCalls.Yaml

open Input Text

/-- The kinds of nodes. -/
inductive Kind where
  | null
  | truth
  | whole
  | fractional
  | date
  | bytes
  | text
  | list
  | map
  | set
  /-- A list of maps with one entry each. -/
  | pairs
  /-- The key that brings in the entries of other maps. -/
  | merge
  /-- The key that stands for the value of a map as a whole. -/
  | default
deriving DecidableEq

/-! ### Forms of plain scalars -/

def nullWords : List String := ["", "~", "null", "Null", "NULL"]

def trueWords : List String :=
  ["yes", "Yes", "YES", "true", "True", "TRUE", "on", "On", "ON"]

def falseWords : List String :=
  ["no", "No", "NO", "false", "False", "FALSE", "off", "Off", "OFF"]

/-- Low lines in numbers say nothing. -/
def plainDigits (cs : List Char) : List Char := cs.filter (· != '_')

def isDigitOrLine (c : Char) : Bool := isAsciiDigit c || c == '_'

/-- One digit, or two of which the first is below six. -/
def isSixtieth : List Char → Bool
  | [a] => isAsciiDigit a
  | [a, b] => '0' ≤ a && a ≤ '5' && isAsciiDigit b
  | _ => false

/-- Digits that do not begin with zero. -/
def isPositiveDigits : List Char → Bool
  | c :: rest => '1' ≤ c && c ≤ '9' && rest.all isDigitOrLine
  | [] => false

def isBinaryOrLine (c : Char) : Bool := c == '0' || c == '1' || c == '_'

def isOctalOrLine (c : Char) : Bool := ('0' ≤ c && c ≤ '7') || c == '_'

def isHexOrLine (c : Char) : Bool := isHexDigit c || c == '_'

/-- A whole number: decimal, binary, octal, in base sixteen, or to base sixty. -/
def isWhole (cs : List Char) : Bool :=
  let body := (splitSign cs).2
  match body with
  | ['0'] => true
  | '0' :: 'b' :: rest => !rest.isEmpty && rest.all isBinaryOrLine
  | '0' :: 'x' :: rest => !rest.isEmpty && rest.all isHexOrLine
  | '0' :: rest => rest.all isOctalOrLine
  | _ =>
    isPositiveDigits body ||
      match splitOnChar ':' body with
      | first :: second :: more => isPositiveDigits first && (second :: more).all isSixtieth
      | _ => false

/-- An exponent of ten: its sign has to be written. -/
def isExponent : List Char → Bool
  | [] => true
  | e :: sign :: digits =>
    (e == 'e' || e == 'E') && (sign == '-' || sign == '+') && !digits.isEmpty &&
      digits.all isAsciiDigit
  | _ => false

/-- A number with a point, an infinite one, or one that is undefined. -/
def isFractional (cs : List Char) : Bool :=
  let (_, body) := splitSign cs
  let isSigned := body.length != cs.length
  if [".inf", ".Inf", ".INF"].any (fun w => body == w.toList) then true
  else if [".nan", ".NaN", ".NAN"].any (fun w => body == w.toList) then !isSigned
  else
    let whole := body.takeWhile (· != '.')
    match body.dropWhile (· != '.') with
    | [] => false
    | _ :: tail =>
      let fraction := tail.takeWhile isDigitOrLine
      let rest := tail.dropWhile isDigitOrLine
      match whole with
      | [] => !isSigned && (fraction.head?.map isAsciiDigit).getD false && isExponent rest
      | d :: more =>
        isAsciiDigit d &&
          ((more.all isDigitOrLine && isExponent rest) ||
            (rest.isEmpty &&
              match splitOnChar ':' whole with
              | first :: second :: others =>
                first.all isDigitOrLine && (second :: others).all isSixtieth
              | _ => false))

/-- The kind of a plain scalar. -/
def plainKind (s : String) : Kind :=
  let cs := s.toList
  if trueWords.contains s || falseWords.contains s then .truth
  else if isFractional cs then .fractional
  else if isWhole cs then .whole
  else if s == "<<" then .merge
  else if nullWords.contains s then .null
  else if isDate cs then .date
  else if s == "=" then .default
  else .text

/-! ### Values -/

/-- The value of a whole number. -/
def wholeValue (cs : List Char) : Except Fault Int :=
  let (negative, body) := splitSign (plainDigits cs)
  let signed := fun (n : Int) => if negative then -n else n
  let read := fun base digits => ((wholeOfText base digits).mapError Fault.number).map signed
  match body with
  | [] => .error .noNumber
  | ['0'] => .ok 0
  | '0' :: 'b' :: rest => read 2 rest
  | '0' :: 'x' :: rest => read 16 rest
  | '0' :: _ => read 8 body
  | _ =>
    match splitOnChar ':' body with
    | [digits] => read 10 digits
    | pieces => do
      let ns ← (pieces.mapM (wholeOfText 10)).mapError .number
      return signed (ns.foldl (fun n piece => 60 * n + piece) 0)

/-- Digits, a point and an exponent: all digits, and the power of ten of the last one. -/
def decimal? (cs : List Char) : Option (List Char × Int) :=
  let whole := cs.takeWhile isAsciiDigit
  let rest := cs.dropWhile isAsciiDigit
  let (fraction, rest) := match rest with
    | '.' :: tail => (tail.takeWhile isAsciiDigit, tail.dropWhile isAsciiDigit)
    | _ => ([], rest)
  let places : Int := fraction.length
  if whole.isEmpty && fraction.isEmpty then none
  else match rest with
    | [] => some (whole ++ fraction, -places)
    | e :: tail =>
      let (negative, digits) := splitSign tail
      if e == 'e' && !digits.isEmpty && digits.all isAsciiDigit then
        some (whole ++ fraction, withSign negative (decimalValue digits) - places)
      else none

/-- A number in decimal notation or one of the words for numbers beyond all others, in lower
case. -/
def fractionalOfText? (cs : List Char) : Option Fractional :=
  let (negative, body) := splitSign (trim cs)
  if body == "inf".toList || body == "infinity".toList then some (.infinite negative)
  else if body == "nan".toList then some .undefined
  else (decimal? body).map (fun d => .ofDecimal negative d.1 d.2)

/-- Numbers to base sixty, the most significant first, as a quotient. -/
def sixtyQuotient (pieces : List (List Char)) : Except Fault (Nat × Nat) :=
  pieces.foldlM (fun (n, d) piece =>
    match decimal? (trim piece) with
    | some (digits, exponent) =>
      if 0 < exponent then .error (.notFractional piece)
      else
        let places := Nat.pow 10 (-exponent).toNat
        .ok (60 * n * places + decimalValue digits * d, d * places)
    | none => .error (.notFractional piece)) (0, 1)

/-- The value of a number with a point. -/
def fractionalValue (cs : List Char) : Except Fault Fractional :=
  let text := lower (plainDigits cs)
  let (negative, body) := splitSign text
  if text.isEmpty then .error .noNumber
  else if body == ".inf".toList then .ok (.infinite negative)
  else if body == ".nan".toList then .ok .undefined
  else match splitOnChar ':' body with
    | [digits] =>
      match fractionalOfText? digits with
      | some x => .ok (if negative then x.negate else x)
      | none => .error (.notFractional digits)
    | pieces => do
      let (n, d) ← sixtyQuotient pieces
      return .ofUnits negative (n * Fractional.one) d

def truthValue (cs : List Char) : Except Fault Bool :=
  let low := String.ofList (lower cs)
  if trueWords.contains low then .ok true
  else if falseWords.contains low then .ok false
  else .error (.notTruth low.toList)

def dateValue (cs : List Char) : Except Fault Value :=
  match date? cs with
  | none => .error .notDate
  | some d => match d.fault? with
    | some fault => .error (.date fault)
    | none => .ok .date

/-! ### Bytes -/

/-- The six bits that a character of base 64 stands for. -/
def sixBits? (c : Char) : Option Nat :=
  if 'A' ≤ c && c ≤ 'Z' then some (c.toNat - 65)
  else if 'a' ≤ c && c ≤ 'z' then some (c.toNat - 71)
  else if isAsciiDigit c then some (c.toNat + 4)
  else if c == '+' then some 62
  else if c == '/' then some 63
  else none

/-- Bytes in base 64: `bits` are the last `count` characters that are no whole byte yet, and
`padding` counts the equals signs after them. Other characters say nothing. -/
def base64From (bits count padding : Nat) : List Char → Option (List UInt8)
  | [] => if count == 0 then some [] else none
  | c :: rest =>
    if c == '=' then
      if 2 ≤ count && 4 ≤ count + padding + 1 then some []
      else base64From bits count (if 2 ≤ count then padding + 1 else padding) rest
    else match sixBits? c with
      | none => base64From bits count padding rest
      | some b =>
        if count == 0 then base64From b 1 0 rest
        else if count == 1 then
          (base64From (b % 16) 2 0 rest).map (UInt8.ofNat (4 * bits + b / 16) :: ·)
        else if count == 2 then
          (base64From (b % 4) 3 0 rest).map (UInt8.ofNat (16 * bits + b / 4) :: ·)
        else (base64From 0 0 0 rest).map (UInt8.ofNat (64 * bits + b) :: ·)

def bytesValue (cs : List Char) : Except Fault Value :=
  if cs.all isAscii then
    match base64From 0 0 0 cs with
    | some bytes => .ok (.bytes bytes)
    | none => .error .malformed
  else .error .malformed

/-- The value of a scalar of a kind. -/
def scalarValue (kind : Kind) (s : String) : Except Fault Value :=
  let cs := s.toList
  match kind with
  | .null => .ok .null
  | .truth => (truthValue cs).map .bool
  | .whole => (wholeValue cs).map .int
  | .fractional => (fractionalValue cs).map .fractional
  | .date => dateValue cs
  | .bytes => bytesValue cs
  | .text => .ok (.text s)
  | _ => .error .malformed

end PerlCalls.Yaml

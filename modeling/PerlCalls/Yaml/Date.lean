import PerlCalls.Text.Digit

/-! Calendar dates of YAML, alone or with a time of the day. -/
namespace PerlCalls.Yaml

open Text

/-- How far a time is from universal time. -/
inductive Zone where
  | unknown
  | universal
  | offset (negative : Bool) (minutes : Nat)
deriving DecidableEq

structure DayTime where
  hour : Nat
  minute : Nat
  second : Nat
  zone : Zone
deriving DecidableEq

structure Date where
  year : Nat
  month : Nat
  day : Nat
  time : Option DayTime := none
deriving DecidableEq

/-! ### Reading -/

/-- A number of at least `least` and at most `most` digits, and what follows it. -/
def digitsBetween (least most : Nat) (cs : List Char) : Option (Nat × List Char) :=
  let digits := (cs.takeWhile isAsciiDigit).take most
  if least ≤ digits.length then some (decimalValue digits, cs.drop digits.length) else none

def expectChar (c : Char) : List Char → Option (List Char)
  | d :: rest => if c == d then some rest else none
  | [] => none

def isSpaceOrTab (c : Char) : Bool := c == ' ' || c == '\t'

/-- The zone at the end of a time. -/
def zone? (cs : List Char) : Option Zone :=
  match cs.dropWhile isSpaceOrTab with
  | [] => if cs.isEmpty then some .unknown else none
  | ['Z'] => some .universal
  | sign :: rest =>
    if sign == '-' || sign == '+' then do
      let (hours, rest) ← digitsBetween 1 2 rest
      match rest with
      | [] => some (.offset (sign == '-') (60 * hours))
      | ':' :: rest =>
        let (minutes, rest) ← digitsBetween 2 2 rest
        if rest.isEmpty then some (.offset (sign == '-') (60 * hours + minutes)) else none
      | _ => none
    else none

/-- The time of a day, with fractions of a second and a zone. -/
def dayTime? (cs : List Char) : Option DayTime := do
  let (hour, cs) ← digitsBetween 1 2 cs
  let (minute, cs) ← digitsBetween 2 2 (← expectChar ':' cs)
  let (second, cs) ← digitsBetween 2 2 (← expectChar ':' cs)
  let zone ← match cs with
    | '.' :: rest => zone? (rest.dropWhile isAsciiDigit)
    | _ => zone? cs
  return ⟨hour, minute, second, zone⟩

/-- A date in digits; a time follows a letter or blanks. -/
def date? (cs : List Char) : Option Date := do
  let (year, cs) ← digitsBetween 4 4 cs
  let (month, cs) ← digitsBetween 1 2 (← expectChar '-' cs)
  let (day, cs) ← digitsBetween 1 2 (← expectChar '-' cs)
  match cs with
  | [] => some { year := year, month := month, day := day }
  | c :: rest =>
    let time ← if c == 'T' || c == 't' then dayTime? rest
      else if isSpaceOrTab c then dayTime? (rest.dropWhile isSpaceOrTab)
      else none
    return { year := year, month := month, day := day, time := some time }

/-- Whether a plain scalar is a date: one without a time has two digits for its month and its
day. -/
def isDate (cs : List Char) : Bool :=
  match date? cs with
  | some d => d.time.isSome || cs.length == 10
  | none => false

/-! ### The calendar -/

/-- Why a date is not one of the calendar. -/
inductive DateFault where
  | zone (negative : Bool) (minutes : Nat)
  | year
  | month
  | day
  | hour
  | minute
  | second
deriving DecidableEq

/-- A span of time as whole days and the seconds beyond them. -/
def spanText (negative : Bool) (minutes : Nat) : String :=
  let span : Int := if negative then -(minutes : Int) else minutes
  let days := Int.fdiv span 1440
  let seconds := 60 * Int.fmod span 1440
  s!"datetime.timedelta(days={days}" ++ (if seconds == 0 then "" else s!", seconds={seconds}") ++ ")"

def DateFault.message : DateFault → String
  | .zone negative minutes =>
    "offset must be a timedelta strictly between -timedelta(hours=24) and timedelta(hours=24), not " ++
      spanText negative minutes ++ "."
  | .year => "year 0 is out of range"
  | .month => "month must be in 1..12"
  | .day => "day is out of range for month"
  | .hour => "hour must be in 0..23"
  | .minute => "minute must be in 0..59"
  | .second => "second must be in 0..59"

def isLeapYear (year : Nat) : Bool := year % 4 == 0 && (year % 100 != 0 || year % 400 == 0)

def daysOfMonth (year month : Nat) : Nat :=
  if month == 2 then (if isLeapYear year then 29 else 28)
  else if [4, 6, 9, 11].contains month then 30
  else 31

def Zone.fault? : Zone → Option DateFault
  | .offset negative minutes => if minutes < 1440 then none else some (.zone negative minutes)
  | _ => none

def DayTime.fault? (t : DayTime) : Option DateFault :=
  if 23 < t.hour then some .hour
  else if 59 < t.minute then some .minute
  else if 59 < t.second then some .second
  else none

def Date.dayFault? (d : Date) : Option DateFault :=
  if d.year == 0 then some .year
  else if d.month == 0 || 12 < d.month then some .month
  else if d.day == 0 || daysOfMonth d.year d.month < d.day then some .day
  else none

/-- The first thing that is wrong with a date: its zone, then its day, then its time. -/
def Date.fault? (d : Date) : Option DateFault :=
  ((d.time.bind (fun t => t.zone.fault?)).or d.dayFault?).or (d.time.bind DayTime.fault?)

end PerlCalls.Yaml

import PerlCalls.Input.Check
import PerlCalls.Input.Refusal
import PerlCalls.Input.Shown
import PerlCalls.Pattern.Search
import PerlCalls.Scan.Context
import PerlCalls.Text.Blank
import PerlCalls.Text.Case
import PerlCalls.Text.Quoted

/-! The settings of a run, checked field by field.

What counts as a value of a type is a matter of the library that reads values, and a parameter here
(`Typing`); `Typing.lax` is the one that runs. Patterns are tried out when the settings are read, so settings
that have been accepted hold only patterns that can be searched for. -/
namespace PerlCalls.Run

open Input Scan Text

structure Settings where
  /-- The pattern that selects start nodes. -/
  start : Option String := none
  /-- Patterns of callees to leave out. -/
  ignore : List String := []
  /-- Group the nodes by file. -/
  cluster : Bool := false
  /-- Know files by the last component of their paths. -/
  stripPaths : Bool := true
  extent : BodyExtent := .columnZero
  formats : List String := ["dot"]
  /-- The file or directory to write to. -/
  output : Option String := none
  reportAmbiguous : Bool := false
deriving DecidableEq

/-- How values are read for the types that settings have. -/
structure Typing where
  truth : Value → Checked Bool
  optionalText : Value → Checked (Option String)
  texts : Value → Checked (List String)
  extent : Value → Checked BodyExtent

/-- A format without blanks around it and dots before it, in lower case; none if it is blank. -/
def normalFormat (s : String) : Option String :=
  let cs := trim s.toList
  if cs.isEmpty then none else some (String.ofList ((lower cs).dropWhile (· == '.')))

/-- The formats in normal form, DOT if none is given. -/
def normalFormats (formats : List String) : List String :=
  match formats.filterMap normalFormat with
  | [] => ["dot"]
  | some_ => some_

/-- What a bad pattern is refused with. -/
def patternRefusal (pattern : String) (fault : Pattern.Fault) : IssueKind :=
  if fault.kind.isOverflow then .overflow (fault.message pattern)
  else if fault.kind.isOfValue then .refused (fault.message pattern)
  else .refused ("Invalid regular expression " ++ quoted pattern ++ ": " ++ fault.message pattern)

/-- A pattern that can be read. -/
def checkPattern (s : String) : Checked String :=
  match Pattern.ofString s with
  | .ok _ => .ok s
  | .error fault => .fail (patternRefusal s fault)

/-- All patterns, or the refusal of the first bad one. -/
def checkPatterns : List String → Checked (List String)
  | [] => .ok []
  | s :: rest =>
    match checkPattern s with
    | .error issues => .error issues
    | .ok _ => (checkPatterns rest).map (s :: ·)

namespace Typing

/-- The label of an extent. -/
def extentOfLabel : Value → Checked BodyExtent
  | .text s => match BodyExtent.ofLabel? s with
    | some extent => .ok extent
    | none => .fail (.notOneOf BodyExtent.labels)
  | _ => .fail (.notOneOf BodyExtent.labels)

/-- Values that can be taken for one of another type are. -/
def lax : Typing where
  truth := readBool
  optionalText := readOptional readText
  texts := readList readText
  extent := extentOfLabel

variable (types : Typing)

def readStart (v : Value) : Checked (Option String) :=
  match types.optionalText v with
  | .ok (some s) => (checkPattern s).map some
  | other => other

def readIgnore (v : Value) : Checked (List String) :=
  match types.texts v with
  | .ok patterns => checkPatterns patterns
  | .error issues => .error issues

def readFormats (v : Value) : Checked (List String) := (types.texts v).map normalFormats

end Typing

def fieldNames : List String :=
  ["start", "ignore", "cluster", "strip_paths", "body_extent", "formats", "output",
    "report_ambiguous"]

/-- Check a record of settings; fields that are not there have their defaults. -/
def checkSettings (types : Typing) (r : Record) : Checked Settings :=
  let fields := Checked.make Settings.mk
    |>.feed (optional r "start" types.readStart none)
    |>.feed (optional r "ignore" types.readIgnore [])
    |>.feed (optional r "cluster" types.truth false)
    |>.feed (optional r "strip_paths" types.truth true)
    |>.feed (optional r "body_extent" types.extent .columnZero)
    |>.feed (optional r "formats" types.readFormats ["dot"])
    |>.feed (optional r "output" types.optionalText none)
    |>.feed (optional r "report_ambiguous" types.truth false)
  (fields.both (onlyFields fieldNames r)).map Prod.fst

/-- The reason of an issue that is not one of the record but ends its check. -/
def overflow? (i : Issue) : Option String :=
  match i.kind with
  | .overflow reason => some reason
  | _ => none

/-- How a record with issues is refused. -/
def refusalOf (r : Record) (issues : List Issue) : Refusal :=
  match issues.findSome? overflow? with
  | some reason => ⟨.other "OverflowError", reason⟩
  | none => ⟨.invalid issues, report "GraphConfig" r issues⟩

/-- The entries of a map whose keys are texts. -/
def textKeys : List (Value × Value) → Option Record
  | [] => some []
  | (.text key, value) :: rest => (textKeys rest).map ((key, value) :: ·)
  | _ :: _ => none

/-- The entries of a record. -/
def entriesOf (r : Record) : List (Value × Value) := r.map (fun e => (.text e.1, e.2))

/-- What the library that checks settings makes of the entries of a map. -/
abbrev SettingsCheck := List (Value × Value) → Except Refusal Settings

namespace Settings

def ofRecord (types : Typing) (r : Record) : Except Refusal Settings :=
  (checkSettings types r).mapError (refusalOf r)

/-- The check that runs: names of settings are texts. -/
def ofEntries (types : Typing) : SettingsCheck := fun entries =>
  match textKeys entries with
  | some r => ofRecord types r
  | none => .error ⟨.argument, "keywords must be strings"⟩

def optionalText : Option String → Value
  | some s => .text s
  | none => .null

def toRecord (s : Settings) : Record :=
  [ ("start", optionalText s.start),
    ("ignore", .list (s.ignore.map .text)),
    ("cluster", .bool s.cluster),
    ("strip_paths", .bool s.stripPaths),
    ("body_extent", .text s.extent.label),
    ("formats", .list (s.formats.map .text)),
    ("output", optionalText s.output),
    ("report_ambiguous", .bool s.reportAmbiguous) ]

/-- A value that overrides nothing. -/
def isNull : Value → Bool
  | .null => true
  | _ => false

/-- One record over another: fields of both have the value of the second, and the fields that are
new follow in their order. -/
def override (base changes : Record) : Record :=
  base.map (fun e => (e.1, (changes.lookup e.1).getD e.2)) ++
    changes.filter (fun e => (base.lookup e.1).isNone)

/-- The settings with those overrides that are not null, checked again. -/
def merged (check : SettingsCheck) (s : Settings) (overrides : Record) : Except Refusal Settings :=
  check (entriesOf (override s.toRecord (overrides.filter (fun e => !isNull e.2))))

/-- The pattern that start nodes match: letter case does not count. -/
def startPattern (s : Settings) : Option Pattern :=
  s.start.bind (fun text => (Pattern.ofString text).toOption.map Pattern.ignoringCase)

/-- The patterns of callees to be left out. -/
def ignorePatterns (s : Settings) : List Pattern :=
  s.ignore.filterMap (fun text => (Pattern.ofString text).toOption)

end Settings

end PerlCalls.Run

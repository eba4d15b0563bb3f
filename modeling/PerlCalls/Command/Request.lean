import PerlCalls.Command.Options
import PerlCalls.Input.Value
import PerlCalls.Scan.Context

/-! What a command line asks for. -/
namespace PerlCalls.Command

open Input Scan

/-- What an option asks for that makes all else void. -/
inductive Notice where
  | version
  | help
deriving DecidableEq

structure GraphRequest where
  files : List String := []
  start : Option String := none
  ignore : List String := []
  cluster : Option Bool := none
  stripPaths : Option Bool := none
  /-- The label of a body extent. -/
  extent : Option String := none
  formats : List String := []
  output : Option String := none
  settingsFile : Option String := none
  reportAmbiguous : Option Bool := none
  verbose : Bool := false
  quiet : Bool := false
  help : Bool := false

structure DefinitionsRequest where
  files : List String := []
  stripPaths : Bool := true
  /-- The label of a body extent. -/
  extent : Option String := none
  /-- Only names that several files declare. -/
  shared : Bool := false
  help : Bool := false

inductive Request where
  | notice (n : Notice)
  | graph (r : GraphRequest)
  | definitions (r : DefinitionsRequest) (extent : BodyExtent)

def helpNames : List String := ["--help"]

/-- Options before the command; the first notice counts. -/
def commonOptions : List (OptionSpec (Option Notice)) :=
  [ ⟨["--version", "-V"], .flag (fun n => some (n.getD .version))⟩,
    ⟨helpNames, .flag (fun n => some (n.getD .help))⟩ ]

def graphOptions : List (OptionSpec GraphRequest) :=
  [ ⟨["--start", "-s"], .value (fun v r => { r with start := some v })⟩,
    ⟨["--ignore", "-i"], .value (fun v r => { r with ignore := r.ignore ++ [v] })⟩,
    ⟨["--cluster"], .flag (fun r => { r with cluster := some true })⟩,
    ⟨["--no-cluster"], .flag (fun r => { r with cluster := some false })⟩,
    ⟨["--strip-paths"], .flag (fun r => { r with stripPaths := some true })⟩,
    ⟨["--keep-paths"], .flag (fun r => { r with stripPaths := some false })⟩,
    ⟨["--body-extent"], .value (fun v r => { r with extent := some v })⟩,
    ⟨["--format", "-f"], .value (fun v r => { r with formats := r.formats ++ [v] })⟩,
    ⟨["--output", "-o"], .value (fun v r => { r with output := some v })⟩,
    ⟨["--config", "-c"], .value (fun v r => { r with settingsFile := some v })⟩,
    ⟨["--report-ambiguous"], .flag (fun r => { r with reportAmbiguous := some true })⟩,
    ⟨["--no-report-ambiguous"], .flag (fun r => { r with reportAmbiguous := some false })⟩,
    ⟨["--verbose", "-v"], .flag (fun r => { r with verbose := true })⟩,
    ⟨["--quiet", "-q"], .flag (fun r => { r with quiet := true })⟩,
    ⟨helpNames, .flag (fun r => { r with help := true })⟩ ]

def definitionsOptions : List (OptionSpec DefinitionsRequest) :=
  [ ⟨["--strip-paths"], .flag (fun r => { r with stripPaths := true })⟩,
    ⟨["--keep-paths"], .flag (fun r => { r with stripPaths := false })⟩,
    ⟨["--body-extent"], .value (fun v r => { r with extent := some v })⟩,
    ⟨["--shared"], .flag (fun r => { r with shared := true })⟩,
    ⟨helpNames, .flag (fun r => { r with help := true })⟩ ]

/-- An extent that is given has to be a known one. -/
def knownExtent? (default : BodyExtent) : Option String → Option BodyExtent
  | none => some default
  | some label => BodyExtent.ofLabel? label

def graphRequest? (args : List String) : Option Request := do
  let (r, files) ← readArguments graphOptions false {} args
  if r.help then return .notice .help
  if files.isEmpty || (knownExtent? .columnZero r.extent).isNone then none
  else return .graph { r with files := files }

def definitionsRequest? (args : List String) : Option Request := do
  let (r, files) ← readArguments definitionsOptions false {} args
  if r.help then return .notice .help
  let extent ← knownExtent? .columnZero r.extent
  if files.isEmpty then none else return .definitions { r with files := files } extent

/-- The request of a command line, if it is well formed. -/
def request? (args : List String) : Option Request := do
  let (notice, rest) ← readArguments commonOptions true none args
  match notice, rest with
  | some n, _ => return .notice n
  | none, "graph" :: args => graphRequest? args
  | none, "definitions" :: args => definitionsRequest? args
  | none, _ => none

/-- A value that is given, as one that overrides. -/
def given {β : Type} (value : β → Value) : Option β → Value
  | some b => value b
  | none => .null

/-- A list that is not empty overrides. -/
def givenList : List String → Value
  | [] => .null
  | texts => .list (texts.map .text)

/-- What the options say about the settings; null where they say nothing. -/
def GraphRequest.overrides (r : GraphRequest) : Record :=
  [ ("start", given .text r.start),
    ("ignore", givenList r.ignore),
    ("cluster", given .bool r.cluster),
    ("strip_paths", given .bool r.stripPaths),
    ("body_extent", given .text r.extent),
    ("formats", givenList r.formats),
    ("output", given .text r.output),
    ("report_ambiguous", given .bool r.reportAmbiguous) ]

end PerlCalls.Command

import PerlCalls.Command.Request
import PerlCalls.Export.Destination
import PerlCalls.Report.Console
import PerlCalls.Run.Load
import PerlCalls.Run.Pipeline

/-! A session: from a request to all that it prints and writes.

What a session sees of the world outside is the disk, the backend that draws, the moment of its start, the
libraries that it loads settings with, and two consoles; the session itself is a function of these. An error
of a kind that its command expects is reported, any other escapes. -/
namespace PerlCalls.Command

open PerlCalls.Graph
open Files Export Report Run Scan Text

structure World where
  disk : Disk
  backend : Backend
  now : Moment
  libraries : Libraries
  /-- Where definitions are listed. -/
  listing : Console
  /-- Where a run reports, and where errors go. -/
  reports : Console

/-! ### Failures -/

/-- Why a command fails. -/
inductive Failure where
  | load (error : LoadError)
  | input (error : InputError)
  | write (error : WriteError)
  /-- A console refuses an item. -/
  | shown (refusal : Refusal)
deriving DecidableEq

def Failure.message : Failure → String
  | .load error => error.message
  | .input error => error.message
  | .write error => error.message
  | .shown refusal => refusal.message

/-- A path with a NUL is not even asked for. -/
def accessKind (fault : Fault) : ErrorKind := if fault == .nullByte then .value else .system

def loadKind : LoadError → ErrorKind
  | .notFound _ => .system
  | .access error => accessKind error.fault
  | .notMapping _ => .value
  | .refused refusal => refusal.kind

def writeKind : WriteError → ErrorKind
  | .suffix _ => .value
  | .access error => accessKind error.fault
  | .render (.unavailable _) => .own
  | .render .numberTooLong => .value
  | .render (.refused refusal) => refusal.kind

def Failure.kind : Failure → ErrorKind
  | .load error => loadKind error
  | .input error => if error.fault == .nullByte then .value else .own
  | .write error => writeKind error
  | .shown refusal => refusal.kind

/-- What drawing a graph expects to go wrong. -/
def isExpected : ErrorKind → Bool
  | .own | .invalid _ | .value | .system | .document => true
  | .argument | .markup | .other _ => false

/-! ### Transcripts -/

/-- What has been printed, noted and written. -/
structure Transcript where
  stdout : List UInt8 := []
  stderr : List Char := []
  logs : List LogRecord := []
  disk : Disk

/-- A transcript and what ended it early. -/
structure Outcome where
  transcript : Transcript
  /-- The failure that has been taken to be reported. -/
  reported : Option Failure := none
  /-- The failure that nothing has been done about. -/
  escaped : Option Failure := none

def Outcome.exitCode (o : Outcome) : Nat := if o.reported.isSome || o.escaped.isSome then 1 else 0

namespace Transcript

def note (t : Transcript) (records : List LogRecord) : Transcript :=
  { t with logs := t.logs ++ records }

def out (t : Transcript) (bytes : List UInt8) : Transcript := { t with stdout := t.stdout ++ bytes }

/-- Show items, up to the first that is refused. -/
def tell (t : Transcript) (console : Console) (items : List Item) : Transcript × Option Failure :=
  let printed := console.displayAll items
  ({ t with stderr := t.stderr ++ printed.text }, printed.refusal.map .shown)

/-- Report a failure. -/
def report (t : Transcript) (console : Console) (failure : Failure) : Outcome :=
  match console.display (errorItem failure.message) with
  | .ok text => { transcript := { t with stderr := t.stderr ++ text }, reported := some failure }
  | .error refusal => { transcript := t, reported := some failure, escaped := some (.shown refusal) }

/-- End early or not: a failure is reported if its kind is expected. -/
def close (t : Transcript) (console : Console) (expected : ErrorKind → Bool) : Option Failure → Outcome
  | none => { transcript := t }
  | some failure =>
    if expected failure.kind then t.report console failure
    else { transcript := t, escaped := some failure }

end Transcript

/-! ### Drawing a graph -/

/-- The path for one of several formats: each gets its own suffix, unless a directory has already
given it one. -/
def formatPath (s : Run.Settings) (world : World) (disk : Disk) (destination format : String) :
    Except WriteError String := do
  let path ← (outputPath disk destination format s.start world.now).mapError .access
  if 1 < s.formats.length && path == destination then
    let path ← ((Path.ofString path).withExtension format).mapError .suffix
    return path.toString
  else return path

/-- Print or write the drawing in one format. -/
def writeFormat (r : GraphRequest) (s : Run.Settings) (world : World) (d : Drawing) (t : Transcript)
    (format : String) : Transcript × Option Failure :=
  let options : Options := { format := format, clustered := s.cluster }
  match s.output with
  | none =>
    let (notes, rendering) := d.renderWithFallback world.backend options
    match rendering with
    | .error e => (t.note notes, some (.write (.render e)))
    | .ok rendering => ((t.note notes).out rendering.bytes, none)
  | some destination =>
    match formatPath s world t.disk destination format with
    | .error e => (t, some (.write e))
    | .ok path =>
      let (notes, written) := d.write world.backend options t.disk path
      match written with
      | .error e => (t.note notes, some (.write e))
      | .ok w =>
        { t.note notes with disk := w.disk }.tell world.reports (writtenItems r.quiet w.format w.path)

/-- All formats in order, up to the first that fails. -/
def writeFormats (r : GraphRequest) (s : Run.Settings) (world : World) (d : Drawing) (t : Transcript) :
    List String → Transcript × Option Failure
  | [] => (t, none)
  | format :: rest =>
    match writeFormat r s world d t format with
    | (t, none) => writeFormats r s world d t rest
    | failed => failed

/-- The summary and, if asked for, the ambiguous calls. -/
def runItems (r : GraphRequest) (s : Run.Settings) (result : Result) : List Item :=
  summaryItems r.quiet result.stats ++
    if s.reportAmbiguous then ambiguousItems result.graph.ambiguous else []

/-- The records that a session shows: warnings, or all if it is verbose. -/
def shownLogs (verbose : Bool) (records : List LogRecord) : List LogRecord :=
  if verbose then records else records.filter (fun record => record.level == .warning)

/-- Draw the call graph of the files. -/
def drawGraph (world : World) (r : GraphRequest) : Transcript × Option Failure :=
  let t : Transcript := { disk := world.disk }
  match loadSettings world.libraries world.disk r.settingsFile r.overrides with
  | .error e => (t, some (.load e))
  | .ok s =>
    let (notes, result) := run world.disk s r.files
    let t := t.note notes
    match result with
    | .error e => (t, some (.input e))
    | .ok result =>
      match t.tell world.reports (runItems r s result) with
      | (t, none) => writeFormats r s world result.drawing t s.formats
      | failed => failed

def graph (world : World) (r : GraphRequest) : Outcome :=
  let (t, failure) := drawGraph world r
  ({ t with logs := shownLogs r.verbose t.logs }).close world.reports isExpected failure

/-! ### Listing definitions -/

/-- The definitions to list: declared ones, and if asked only names that several files declare. -/
def listedDefinitions (r : DefinitionsRequest) (tally : Tally) : List Definition :=
  tally.definitionList.filter (fun d =>
    !d.implicit && (!r.shared || 2 ≤ ((tally.definedNames.find? d.name).map List.length).getD 0))

/-- List the subroutines that the files define. Only an error of the program itself is expected. -/
def definitions (world : World) (r : DefinitionsRequest) (extent : BodyExtent) : Outcome :=
  let t : Transcript := { disk := world.disk }
  let progress := ({} : Progress).scanFiles ⟨r.stripPaths, extent⟩ world.disk r.files
  match progress.stopped with
  | some e => t.close world.reports (· == .own) (some (.input e))
  | none =>
    let table := definitionsTable progress.tally.definedNames.size
      (listedDefinitions r progress.tally)
    match world.listing.draw table with
    | .ok text => { transcript := t.out (encode text) }
    | .error refusal => { transcript := t, escaped := some (.shown refusal) }

/-! ### Requests -/

def versionText : String := "pl-callgraph version 0.1.0\n"

def helpText : String :=
  "Usage: pl-callgraph [--version] (graph | definitions) [OPTIONS] FILES...\n"

/-- The outcome of a request. -/
def perform (world : World) : Request → Outcome
  | .notice n =>
    let text := match n with
      | .version => versionText
      | .help => helpText
    { transcript := ({ disk := world.disk } : Transcript).out (encode text.toList) }
  | .graph r => graph world r
  | .definitions r extent => definitions world r extent

/-- The outcome of a command line, if it is well formed. -/
def session (world : World) (args : List String) : Option Outcome :=
  (request? args).map (perform world)

end PerlCalls.Command

import PerlCalls.Data.SortedMap
import PerlCalls.Files.Disk
import PerlCalls.Graph.Resolution
import PerlCalls.Log
import PerlCalls.Scan.Context
import PerlCalls.Text.Lines
import PerlCalls.Text.Utf8

/-! What has been found over all files scanned so far.

Every file has an implicit definition of its top-level scope, which a declaration of the same name
replaces; of several declarations of a name in a file the last counts. Calls are counted by who
calls whom from which file. -/
namespace PerlCalls.Scan

open PerlCalls.Graph
open Files Text

structure Settings where
  /-- Know a file by the last component of its path. -/
  stripPaths : Bool := true
  extent : BodyExtent := .columnZero

def isSlash (c : Char) : Bool := c == '/' || c == '\\'

/-- What follows the last slash, all of it if there is none. -/
def afterLastSlash (cs : List Char) : List Char := (cs.reverse.takeWhile (fun c => !isSlash c)).reverse

/-- The last component of a path. A line feed in a path begins a new line, and each line loses what
comes before its last slash. -/
def baseName (path : String) : String :=
  String.ofList (joinWith ['\n'] ((splitOnChar '\n' path.toList).map afterLastSlash))

/-- The name by which a file is known. -/
def Settings.identity (s : Settings) (path : String) : String :=
  if s.stripPaths then baseName path else path

structure Tally where
  /-- In the order of first sight. -/
  files : List String := []
  definitions : SortedMap Site Definition := SortedMap.empty
  calls : SortedMap CallKey Int := SortedMap.empty

namespace Tally

def addFile (t : Tally) (file : String) : Tally :=
  if t.files.contains file then t else { t with files := t.files ++ [file] }

/-- An implicit definition replaces nothing. -/
def define (t : Tally) (d : Definition) : Tally :=
  { t with definitions :=
      t.definitions.alter ⟨d.file, d.name⟩ (fun old => if d.implicit then old.getD d else d) }

def addCall (file caller : String) (t : Tally) (callee : String) : Tally :=
  { t with calls := t.calls.alter ⟨caller, file, callee⟩ (fun old => old.getD 0 + 1) }

/-- Enter what a line of `file` tells. -/
def addFindings (file : String) (t : Tally) (f : Findings) : Tally :=
  let defined := match f.definition with
    | some d => t.define d
    | none => t
  f.calls.foldl (addCall file f.caller) defined

/-- Scan the lines of one file, numbered from one. -/
def scanLines (t : Tally) (s : Settings) (path : String) (lines : List (List Char)) : Tally :=
  let file := s.identity path
  let opened := (t.addFile file).define { name := mainScope, file := file, line := 0, implicit := true }
  (Context.run s.extent { file := file } 1 (lines.map chomp)).foldl (addFindings file) opened

/-- The definitions, by file and name. -/
def definitionList (t : Tally) : List Definition := t.definitions.values

/-- The calls, by caller, file and callee. -/
def callList (t : Tally) : List Call :=
  t.calls.entries.map (fun e => ⟨e.1.caller, e.1.file, e.1.callee, e.2⟩)

/-- List the file of a declaration under its name, after those listed before. -/
def listFile (names : SortedMap String (List String)) (d : Definition) :
    SortedMap String (List String) :=
  if d.implicit then names else names.alter d.name (fun files => files.getD [] ++ [d.file])

/-- For each declared name the files that declare it, sorted and each once. -/
def definedNames (t : Tally) : SortedMap String (List String) :=
  (t.definitionList.foldl listFile SortedMap.empty).mapValues
    (fun files => (SortedSet.ofList files).elems)

end Tally

/-- A source file that cannot be read. -/
structure InputError where
  path : String
  fault : Fault
deriving DecidableEq

def InputError.message (e : InputError) : String :=
  if e.fault == .nullByte then e.fault.reason else s!"Cannot read {e.path}: " ++ e.fault.reason

/-- A scan as far as it has come: stopped at the first file that cannot be read, if there is one. -/
structure Progress where
  tally : Tally := {}
  log : List LogRecord := []
  stopped : Option InputError := none

namespace Progress

def scanFile (p : Progress) (s : Settings) (disk : Disk) (path : String) : Progress :=
  match p.stopped with
  | some _ => p
  | none =>
    match disk.read path with
    | .error fault => { p with stopped := some ⟨path, fault⟩ }
    | .ok bytes =>
      let lines := lines (decodeLossy bytes)
      { p with
        tally := p.tally.scanLines s path lines
        log := p.log ++ [.scanned (s.identity path) lines.length] }

def scanFiles (p : Progress) (s : Settings) (disk : Disk) (paths : List String) : Progress :=
  paths.foldl (fun p path => p.scanFile s disk path) p

end Progress

end PerlCalls.Scan

import PerlCalls.Command.Usual
import Std.Time

/-! The command line: look at the files that a request may touch, run the session on them, and carry
out what it prints and writes. No backend that draws is at hand here. -/
namespace PerlCalls.Main

open Command Export Files

/-- The location that a path leads to from a working directory. -/
def locationOf (home : Location) (path : String) : Location :=
  let start := if path.toList.head? == some '/' then [] else home
  (Path.ofString path).parts.foldl
    (fun here name => if name == ".." then here.dropLast else here ++ [name]) start

def pathOf (location : Location) : String := "/" ++ "/".intercalate location

/-- What stands at a location that could not be opened, if anything does. -/
def barred? : IO.Error → Option Entry
  | .noFileOrDirectory .. | .noSuchThing .. => none
  | .permissionDenied _ number reason => some (.barred number.toNat reason)
  | .resourceExhausted _ number reason => some (.barred number.toNat reason)
  | .otherError number reason => some (.barred number.toNat reason)
  | _ => none

/-- The entry at a location, if there is one. -/
def entryAt (location : Location) : IO (Option Entry) := do
  try
    let path ← IO.FS.realPath (pathOf location)
    if ← path.isDir then return some .directory
    else return some (.file (← IO.FS.readBinFile path).toList)
  catch e => return barred? e

/-- Enter what stands along a path. -/
def survey (disk : Disk) (path : String) : IO Disk := do
  let location := locationOf disk.home path
  (List.range location.length).foldlM (fun disk n => do
    let here := location.take (n + 1)
    match ← entryAt here with
    | some entry => return { disk with entries := (here, entry) :: disk.entries }
    | none => return disk) disk

/-- The paths that a request names. -/
def namedPaths : Request → List String
  | .notice _ => []
  | .graph r => r.files ++ r.settingsFile.toList ++ r.output.toList
  | .definitions r _ => r.files

/-- The destination that the settings of a request name. -/
def destination (disk : Disk) : Request → List String
  | .graph r =>
    match Run.loadSettings usualLibraries disk r.settingsFile r.overrides with
    | .ok s => s.output.toList
    | .error _ => []
  | _ => []

def currentMoment : IO Moment := do
  let now ← Std.Time.PlainDateTime.now
  return {
    year := now.year.toInt.toNat
    month := now.month.val.toNat
    day := now.day.val.toNat
    hour := now.hour.val.toNat
    minute := now.minute.val.toNat
    second := now.second.val.toNat }

/-- Write the files that a session has changed. -/
def carryOut (before after : Disk) : IO Unit :=
  after.entries.forM (fun e => do
    match e.2 with
    | .directory | .barred .. => return ()
    | .file bytes =>
      if before.entries.lookup e.1 != some e.2 then
        IO.FS.writeBinFile (pathOf e.1) ⟨bytes.toArray⟩)

/-- The width of the consoles: what the surroundings say, or else eighty cells. -/
def consoleWidth : IO Nat := do
  return ((← IO.getEnv "COLUMNS").bind String.toNat?).getD 80

def run (args : List String) : IO UInt32 := do
  match request? args with
  | none =>
    IO.eprint helpText
    return 2
  | some request =>
    let home := locationOf [] (← IO.currentDir).toString
    let disk ← (namedPaths request).foldlM survey { home := home }
    let disk ← (destination disk request).foldlM survey disk
    let world := World.usual (← consoleWidth) disk (fun _ => .missing) (← currentMoment)
    let outcome := perform world request
    let t := outcome.transcript
    carryOut disk t.disk
    t.logs.forM (fun record => IO.eprintln (record.level.label ++ " " ++ record.message))
    IO.eprint (String.ofList t.stderr)
    (← IO.getStdout).write ⟨t.stdout.toArray⟩
    return UInt32.ofNat outcome.exitCode

end PerlCalls.Main

def main (args : List String) : IO UInt32 := PerlCalls.Main.run args

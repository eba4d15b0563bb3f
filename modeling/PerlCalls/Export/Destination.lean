import PerlCalls.Export.Render
import PerlCalls.Files.Disk
import PerlCalls.Files.Path
import PerlCalls.Text.Ranges

/-! Where a rendering goes: into the file that the user names, or into a directory under a name of
its own. -/
namespace PerlCalls.Export

open Files Text

/-- A moment of the local calendar. -/
structure Moment where
  year : Nat
  month : Nat
  day : Nat
  hour : Nat
  minute : Nat
  second : Nat
deriving DecidableEq

def twoDigits (n : Nat) : String := if n < 10 then s!"0{n}" else s!"{n}"

/-- Year, month and day, a dash, and the time of the day, all in digits. -/
def Moment.compact (m : Moment) : String :=
  s!"{m.year}" ++ twoDigits m.month ++ twoDigits m.day ++ "-" ++ twoDigits m.hour ++
    twoDigits m.minute ++ twoDigits m.second

/-- The characters of a pattern that go into a file name. -/
def isNameChar (c : Char) : Bool := isAsciiAlnum c || c == '_' || c == '-'

/-- The maximal runs of characters that pass the test. -/
def runsOf (test : Char → Bool) (cs : List Char) : List (List Char) :=
  match cs with
  | [] => []
  | c :: rest =>
    if test c then
      (c :: rest.takeWhile test) :: runsOf test (rest.dropWhile test)
    else runsOf test rest
termination_by cs.length
decreasing_by
  · exact Nat.lt_succ_of_le (List.dropWhile_sublist test).length_le
  · exact Nat.lt_succ_self _

/-- The name of a file without its extensions: the plain parts of the start pattern, or the moment. -/
def derivedName (start : Option String) (now : Moment) : String :=
  let parts := (runsOf isNameChar (start.getD "").toList).map String.ofList
  if parts.isEmpty then now.compact else "_".intercalate parts

/-- The path ends like that of a directory. -/
def endsLikeDirectory (path : String) : Bool :=
  match path.toList.getLast? with
  | some c => c == '/' || c == '\\'
  | none => false

/-- A directory gets a file in it, any other destination is the file. -/
def outputPath (disk : Disk) (destination format : String) (start : Option String) (now : Moment) :
    Except AccessError String := do
  let path := Path.ofString destination
  if (← disk.isDirectory path.toString) || endsLikeDirectory destination then
    return (path.append (derivedName start now ++ ".callgraph." ++ format)).toString
  else return destination

inductive WriteError where
  | suffix (fault : SuffixFault)
  | access (error : AccessError)
  | render (error : RenderError)
deriving DecidableEq

def WriteError.message : WriteError → String
  | .suffix fault => fault.message
  | .access error => error.message
  | .render error => error.message

/-- What has been written where. -/
structure Written where
  format : String
  path : String
  disk : Disk

/-- Write the subgraph to the path. A fallback format brings its own suffix. -/
def Drawing.write (d : Drawing) (backend : Backend) (options : Options) (disk : Disk)
    (destination : String) : List LogRecord × Except WriteError Written :=
  let (notes, result) := d.renderWithFallback backend options
  match result with
  | .error e => (notes, .error (.render e))
  | .ok rendering =>
    let path := Path.ofString destination
    let placed := if rendering.format == options.format then .ok path
      else path.withExtension rendering.format
    match placed with
    | .error fault => (notes, .error (.suffix fault))
    | .ok path =>
      match disk.write path.toString rendering.bytes with
      | .error e => (notes, .error (.access e))
      | .ok disk =>
        (notes ++ [.wrote rendering.format path.toString],
          .ok ⟨rendering.format, path.toString, disk⟩)

end PerlCalls.Export

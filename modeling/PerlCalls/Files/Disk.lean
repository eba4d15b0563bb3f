import PerlCalls.Text.Lines
import PerlCalls.Text.Quoted
import PerlCalls.Text.Utf8

/-! The files that a run can see and write.

A disk is a tree of known entries with a working directory in it. Looking up a path goes component
by component, as the system does, so the first component that cannot be passed decides what is wrong
with the path. There are no links on a disk: an entry has one location, and paths that lead to one file
lead to one location. -/
namespace PerlCalls.Files

open Text

/-- The components that lead from the root to an entry. -/
abbrev Location := List String

inductive Entry where
  | file (bytes : List UInt8)
  | directory
  /-- What the system does not open, for a reason of its own. -/
  | barred (number : Nat) (reason : String)
deriving DecidableEq

/-- The working directory and the known entries. A directory that holds one of them is known through
it. -/
structure Disk where
  home : Location := []
  entries : List (Location × Entry) := []

inductive Fault where
  | missing
  | notDirectory
  | isDirectory
  | nameTooLong
  /-- Any other fault of the system, with the number that it has there. -/
  | system (number : Nat) (reason : String)
  /-- A path holds a NUL, so it cannot even be asked for. -/
  | nullByte
deriving DecidableEq

def Fault.reason : Fault → String
  | .missing => "No such file or directory"
  | .notDirectory => "Not a directory"
  | .isDirectory => "Is a directory"
  | .nameTooLong => "File name too long"
  | .system _ reason => reason
  | .nullByte => "embedded null byte"

/-- The number that the system gives to a fault of its own. -/
def Fault.number? : Fault → Option Nat
  | .missing => some 2
  | .notDirectory => some 20
  | .isDirectory => some 21
  | .nameTooLong => some 36
  | .system number _ => some number
  | .nullByte => none

/-- A fault together with the path that was asked for. -/
structure AccessError where
  fault : Fault
  path : String
deriving DecidableEq

def AccessError.message (e : AccessError) : String :=
  match e.fault.number? with
  | some n => s!"[Errno {n}] " ++ e.fault.reason ++ ": " ++ quoted e.path
  | none => e.fault.reason

/-- The longest component and the longest path, in bytes. -/
def maxComponent : Nat := 255

def maxPath : Nat := 4095

/-- What stands at a path: an entry, or nothing yet in a directory that exists. -/
inductive Standing where
  | file (location : Location) (bytes : List UInt8)
  | directory
  | barred (number : Nat) (reason : String)
  | absent (location : Location)

namespace Disk

def find? (disk : Disk) (location : Location) : Option Entry :=
  match disk.entries.lookup location with
  | some entry => some entry
  | none =>
    if location.isPrefixOf disk.home || disk.entries.any (fun e => location.isPrefixOf e.1) then
      some .directory
    else none

/-- Go on from a directory. The directory above the root is the root. -/
def walk (disk : Disk) : Location → List String → Except Fault Standing
  | _, [] => .ok .directory
  | place, name :: rest =>
    if name == "." then disk.walk place rest
    else if name == ".." then disk.walk place.dropLast rest
    else if maxComponent < name.utf8ByteSize then .error .nameTooLong
    else
      let here := place ++ [name]
      match disk.find? here with
      | some .directory => disk.walk here rest
      | some (.file bytes) => if rest.isEmpty then .ok (.file here bytes) else .error .notDirectory
      | some (.barred number reason) =>
        if rest.isEmpty then .ok (.barred number reason) else .error (.system number reason)
      | none => if rest.isEmpty then .ok (.absent here) else .error .missing

/-- A slash at the end asks for a directory. -/
def steps (cs : List Char) : List String :=
  let pieces := ((splitOnChar '/' cs).filter (fun piece => !piece.isEmpty)).map String.ofList
  if cs.getLast? == some '/' then pieces ++ ["."] else pieces

def locate (disk : Disk) (path : String) : Except Fault Standing :=
  if path.isEmpty then .error .missing
  else if path.toList.contains (Char.ofNat 0) then .error .nullByte
  else if maxPath < path.utf8ByteSize then .error .nameTooLong
  else
    let cs := path.toList
    disk.walk (if cs.head? == some '/' then [] else disk.home) (steps cs)

def read (disk : Disk) (path : String) : Except Fault (List UInt8) :=
  match disk.locate path with
  | .ok (.file _ bytes) => .ok bytes
  | .ok .directory => .error .isDirectory
  | .ok (.barred number reason) => .error (.system number reason)
  | .ok (.absent _) => .error .missing
  | .error fault => .error fault

/-- The numbers of a closed file and of a link that leads to itself. -/
def absentNumbers : List Nat := [9, 40]

/-- Whether a question about the path finds nothing there rather than failing. -/
def Fault.meansAbsent : Fault → Bool
  | .nameTooLong => false
  | .system number _ => absentNumbers.contains number
  | _ => true

def pathExists (disk : Disk) (path : String) : Except AccessError Bool :=
  match disk.locate path with
  | .ok (.absent _) => .ok false
  | .ok (.barred number reason) => .ok (!Fault.meansAbsent (.system number reason))
  | .ok _ => .ok true
  | .error fault => if Fault.meansAbsent fault then .ok false else .error ⟨fault, path⟩

def isDirectory (disk : Disk) (path : String) : Except AccessError Bool :=
  match disk.locate path with
  | .ok .directory => .ok true
  | .ok _ => .ok false
  | .error fault => if Fault.meansAbsent fault then .ok false else .error ⟨fault, path⟩

/-- Put bytes at a location, in place of what a file there held. -/
def put (disk : Disk) (location : Location) (bytes : List UInt8) : Disk :=
  { disk with entries := (location, .file bytes) :: disk.entries.filter (fun e => e.1 != location) }

/-- Write a file into a directory that exists. -/
def write (disk : Disk) (path : String) (bytes : List UInt8) : Except AccessError Disk :=
  match disk.locate path with
  | .ok (.file location _) => .ok (disk.put location bytes)
  | .ok (.absent location) => .ok (disk.put location bytes)
  | .ok .directory => .error ⟨.isDirectory, path⟩
  | .ok (.barred number reason) => .error ⟨.system number reason, path⟩
  | .error fault => .error ⟨fault, path⟩

end Disk

end PerlCalls.Files

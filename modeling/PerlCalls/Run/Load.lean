import PerlCalls.Files.Disk
import PerlCalls.Files.Path
import PerlCalls.Run.Settings

/-! Settings from a file, with overrides on top. -/
namespace PerlCalls.Run

open Files Input

/-- The libraries that settings are loaded with. -/
structure Libraries where
  /-- The value of a document, from its path and its bytes. -/
  parse : String → List UInt8 → Except Refusal Value
  check : SettingsCheck

inductive LoadError where
  | notFound (path : String)
  | access (error : AccessError)
  | notMapping (path : String)
  /-- A library refuses the document, or the settings in it. -/
  | refused (refusal : Refusal)
deriving DecidableEq

def LoadError.message : LoadError → String
  | .notFound path => s!"Configuration file not found: {path}"
  | .access error => error.message
  | .notMapping path => s!"Configuration in {path} must be a mapping"
  | .refused refusal => refusal.message

section Loading
variable (libraries : Libraries) (disk : Disk)

/-- The settings that a document holds; one that says nothing holds the defaults. -/
def settingsOfValue (path : String) (v : Value) : Except LoadError Settings :=
  if v.isVoid then (libraries.check []).mapError .refused
  else match v with
    | .map entries => (libraries.check entries).mapError .refused
    | _ => .error (.notMapping path)

def settingsOfFile (path : String) : Except LoadError Settings :=
  match disk.read path with
  | .error fault => .error (.access ⟨fault, path⟩)
  | .ok bytes =>
    match libraries.parse path bytes with
    | .error refusal => .error (.refused refusal)
    | .ok v => settingsOfValue libraries path v

/-- The settings of a file, or the defaults; an empty name is no file. -/
def baseSettings (file : Option String) : Except LoadError Settings := do
  match file.filter (fun path => !path.isEmpty) with
  | none => return {}
  | some path =>
    if ← (disk.pathExists (Path.ofString path).toString).mapError .access then
      settingsOfFile libraries disk path
    else throw (.notFound path)

/-- The settings of a file with overrides. -/
def loadSettings (file : Option String) (overrides : Record) : Except LoadError Settings := do
  let base ← baseSettings libraries disk file
  (base.merged libraries.check overrides).mapError .refused

end Loading

end PerlCalls.Run

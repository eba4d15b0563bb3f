import PerlCalls.Text.Lines
import PerlCalls.Text.Quoted

/-! Paths as a program that names output files sees them.

A path is a root and the components after it. Repeated slashes and components that are a single dot
say nothing and are left out, and so is a slash at the end. Two slashes at the beginning are a root
of their own, three or more are one. -/
namespace PerlCalls.Files

open Text

structure Path where
  root : String
  parts : List String
deriving DecidableEq

/-- The components of a relative path. -/
def components (cs : List Char) : List String :=
  ((splitOnChar '/' cs).filter (fun piece => !piece.isEmpty && piece != ['.'])).map String.ofList

def Path.ofString (s : String) : Path :=
  let cs := s.toList
  let slashes := (cs.takeWhile (· == '/')).length
  let root := if slashes == 0 then "" else if slashes == 2 then "//" else "/"
  ⟨root, components cs⟩

def Path.toString (p : Path) : String :=
  let text := p.root ++ "/".intercalate p.parts
  if text.isEmpty then "." else text

/-- A relative path below `p`. -/
def Path.append (p : Path) (relative : String) : Path :=
  { p with parts := p.parts ++ components relative.toList }

/-- The last component, empty if there is none. -/
def Path.name (p : Path) : String := p.parts.getLast?.getD ""

/-- A name without its suffix. The suffix begins at the last dot, which must be neither the first
nor the last character of the name. -/
def stem (name : List Char) : List Char :=
  let back := name.reverse
  let ending := back.takeWhile (· != '.')
  let before := (back.dropWhile (· != '.')).tail.reverse
  if ending.isEmpty || before.isEmpty then name else before

inductive SuffixFault where
  /-- The new suffix holds a slash or is a dot alone. -/
  | invalid (suffix : String)
  /-- There is no last component to give a suffix to. -/
  | emptyName (path : Path)
deriving DecidableEq

def SuffixFault.message : SuffixFault → String
  | .invalid suffix => "Invalid suffix " ++ quoted suffix
  | .emptyName path => "PosixPath(" ++ quoted path.toString ++ ") has an empty name"

/-- The path with `extension` for its suffix. -/
def Path.withExtension (p : Path) (extension : String) : Except SuffixFault Path :=
  let suffix := "." ++ extension
  if extension.toList.contains '/' || extension.isEmpty then .error (.invalid suffix)
  else if p.name.isEmpty then .error (.emptyName p)
  else .ok { p with parts := p.parts.dropLast ++ [String.ofList (stem p.name.toList) ++ suffix] }

end PerlCalls.Files

import PerlCalls.Text.Quoted
import PerlCalls.Text.Whole
import PerlCalls.Yaml.Date

/-! What can be wrong with a YAML document, and how that is said. -/
namespace PerlCalls.Yaml

open Text

/-- Why a document has no value. -/
inductive Fault where
  /-- It is not YAML, or holds a node that cannot be made. -/
  | malformed
  /-- An escape with a number that is beyond all characters. -/
  | noCharacter
  /-- An escape for half of a pair, which is no character by itself. -/
  | halfCharacter
  /-- An escape with a number of more than 31 bits. -/
  | characterTooLarge
  | number (fault : NumberFault)
  /-- A number without a single character. -/
  | noNumber
  | notFractional (text : List Char)
  | notTruth (text : List Char)
  | date (fault : DateFault)
  | notDate
deriving DecidableEq

def Fault.message : Fault → String
  | .malformed => "Configuration is not a YAML document"
  | .noCharacter => "chr() arg not in range(0x110000)"
  | .halfCharacter => "surrogates not allowed"
  | .characterTooLarge => "Python int too large to convert to C int"
  | .number fault => fault.message
  | .noNumber => "string index out of range"
  | .notFractional text => "could not convert string to float: " ++ quoted (String.ofList text)
  | .notTruth text => quoted (String.ofList text)
  | .date fault => fault.message
  | .notDate => "'NoneType' object has no attribute 'groupdict'"

/-- The outcome of reading a part of a document. -/
abbrev Reading := Except Fault

/-- What is not there is a fault of the document. -/
def orMalformed {α : Type} : Option α → Reading α
  | some a => .ok a
  | none => .error .malformed

end PerlCalls.Yaml

import PerlCalls.Pattern.Node
import PerlCalls.Text.Quoted
import PerlCalls.Text.Whole

/-! What can be wrong with a search pattern, and how that is said. -/
namespace PerlCalls.Pattern

open Text

inductive FaultKind where
  | unterminatedGroup
  | unbalancedParenthesis
  | unterminatedSet
  | nothingToRepeat
  | multipleRepeat
  | escapeAtEnd
  | badEscape (escape : String)
  | incompleteEscape (escape : String)
  | octalTooLarge (escape : String)
  | badRange (first last : String)
  | minAboveMax
  | endOfPattern
  | unknownExtension (extension : String)
  | invalidGroupReference (group : Nat)
  | openGroupReference
  | lookbehindGroupReference
  | badGroupName (name : String)
  | unknownGroupName (name : String)
  | badGroupNumber
  | redefinedGroup (name : String) (group earlier : Nat)
  | missing (what : String)
  | unterminatedName (terminator : Char)
  | undefinedCharacterName (name : String)
  | unterminatedComment
  | tooManyBranches
  | lateGlobalFlags
  | unknownFlag
  | localeFlag
  | clashingTypeFlags
  | turnedOffTypeFlags
  | globalFlagOn
  | globalFlagOff
  | flagOnAndOff
  | clashingTypes
  | variableLookbehind
  | farLookbehind
  | templateRepeat (greed : Greed)
  | repeatTooLarge
  /-- An escape with a number of more than 31 bits. -/
  | characterTooLarge
  /-- A bound that has too many digits to be read. -/
  | number (fault : NumberFault)
deriving DecidableEq

def Greed.operator : Greed → String
  | .greedy => "MAX_REPEAT"
  | .lazy => "MIN_REPEAT"
  | .possessive => "POSSESSIVE_REPEAT"

def FaultKind.message : FaultKind → String
  | .unterminatedGroup => "missing ), unterminated subpattern"
  | .unbalancedParenthesis => "unbalanced parenthesis"
  | .unterminatedSet => "unterminated character set"
  | .nothingToRepeat => "nothing to repeat"
  | .multipleRepeat => "multiple repeat"
  | .escapeAtEnd => "bad escape (end of pattern)"
  | .badEscape escape => s!"bad escape {escape}"
  | .incompleteEscape escape => s!"incomplete escape {escape}"
  | .octalTooLarge escape => s!"octal escape value {escape} outside of range 0-0o377"
  | .badRange first last => s!"bad character range {first}-{last}"
  | .minAboveMax => "min repeat greater than max repeat"
  | .endOfPattern => "unexpected end of pattern"
  | .unknownExtension extension => s!"unknown extension {extension}"
  | .invalidGroupReference group => s!"invalid group reference {group}"
  | .openGroupReference => "cannot refer to an open group"
  | .lookbehindGroupReference => "cannot refer to group defined in the same lookbehind subpattern"
  | .badGroupName name => "bad character in group name " ++ quoted name
  | .unknownGroupName name => "unknown group name " ++ quoted name
  | .badGroupNumber => "bad group number"
  | .redefinedGroup name group earlier =>
    "redefinition of group name " ++ quoted name ++ s!" as group {group}; was group {earlier}"
  | .missing what => s!"missing {what}"
  | .unterminatedName terminator => s!"missing {terminator}, unterminated name"
  | .undefinedCharacterName name => "undefined character name " ++ quoted name
  | .unterminatedComment => "missing ), unterminated comment"
  | .tooManyBranches => "conditional backref with more than two branches"
  | .lateGlobalFlags => "global flags not at the start of the expression"
  | .unknownFlag => "unknown flag"
  | .localeFlag => "bad inline flags: cannot use 'L' flag with a str pattern"
  | .clashingTypeFlags => "bad inline flags: flags 'a', 'u' and 'L' are incompatible"
  | .turnedOffTypeFlags => "bad inline flags: cannot turn off flags 'a', 'u' and 'L'"
  | .globalFlagOn => "bad inline flags: cannot turn on global flag"
  | .globalFlagOff => "bad inline flags: cannot turn off global flag"
  | .flagOnAndOff => "bad inline flags: flag turned on and off"
  | .clashingTypes => "ASCII and UNICODE flags are incompatible"
  | .variableLookbehind => "look-behind requires fixed-width pattern"
  | .farLookbehind => "looks too much behind"
  | .templateRepeat greed => "internal: unsupported template operator " ++ greed.operator
  | .repeatTooLarge => "the repetition number is too large"
  | .characterTooLarge => "Python int too large to convert to C int"
  | .number fault => fault.message

/-- Faults of a number that cannot even be looked at. -/
def FaultKind.isOverflow : FaultKind → Bool
  | .repeatTooLarge | .characterTooLarge => true
  | _ => false

/-- Faults of a value that the pattern is given, not of the way it is written. -/
def FaultKind.isOfValue : FaultKind → Bool
  | .clashingTypes | .number _ => true
  | _ => false

/-- A fault and, if it has one, its place in the pattern. -/
structure Fault where
  kind : FaultKind
  position : Option Nat := none
deriving DecidableEq

/-- The place is a number of characters; in a pattern of several lines its line and column follow. -/
def Fault.message (f : Fault) (pattern : String) : String :=
  match f.position with
  | none => f.kind.message
  | some position =>
    let base := f.kind.message ++ s!" at position {position}"
    let cs := pattern.toList
    if cs.contains '\n' then
      let before := cs.take position
      let line := before.count '\n' + 1
      let column := (before.reverse.takeWhile (· != '\n')).length + 1
      base ++ s!" (line {line}, column {column})"
    else base

end PerlCalls.Pattern

import PerlCalls.Text.Blank
import PerlCalls.Text.Word

/-! What a single line of Perl says, judged by its looks.

A line is a list of characters. It may hold line feeds: the tests that look at a whole line accept
one line feed at its very end, and a comment runs to the next line feed. -/
namespace PerlCalls.Perl

open Text

/-- At the end of the text, or at a line feed that ends it. -/
def atLineEnd : List Char → Bool
  | [] => true
  | ['\n'] => true
  | _ => false

/-- What follows is nothing, or a comment that takes the rest of the line. -/
def endsOrComments : List Char → Bool
  | [] => true
  | '#' :: rest => atLineEnd (rest.dropWhile (· != '\n'))
  | _ => false

/-- Blank, or nothing but a comment. -/
def isSkipped (line : List Char) : Bool := endsOrComments (line.dropWhile isBlank)

/-- Opens a block of embedded documentation: an equals sign and a directive. -/
def opensPod : List Char → Bool
  | '=' :: c :: _ => isAsciiLetter c
  | _ => false

/-- Closes a block of embedded documentation. -/
def closesPod : List Char → Bool
  | '=' :: 'c' :: 'u' :: 't' :: rest =>
    match rest with
    | [] => true
    | c :: _ => !isWord c
  | _ => false

/-- What is left of a line after a fixed beginning. -/
def after? : List Char → List Char → Option (List Char)
  | [], line => some line
  | _ :: _, [] => none
  | c :: beginning, d :: line => if c == d then after? beginning line else none

/-- Everything from here on is data, not code. -/
def marksEnd (line : List Char) : Bool :=
  let tailBlank := fun rest => (rest : List Char).all isBlank
  ((after? "__END__".toList line).any tailBlank) || ((after? "__DATA__".toList line).any tailBlank)

/-- A closing brace in the first column. -/
def closesBody : List Char → Bool
  | '}' :: _ => true
  | _ => false

/-- What may follow the name in a declaration: an opening brace, a comment, both or neither. -/
def endsDeclaration (rest : List Char) : Bool :=
  match rest.dropWhile isBlank with
  | '{' :: more => endsOrComments (more.dropWhile isBlank)
  | other => endsOrComments other

/-- The name that the line declares: the word after `sub`, if nothing but a brace and a comment
follows it. -/
def declaredName (line : List Char) : Option (List Char) :=
  match after? "sub".toList (line.dropWhile isBlank) with
  | none => none
  | some rest =>
    let afterGap := rest.dropWhile isBlank
    let name := afterGap.takeWhile isWord
    if afterGap.length < rest.length && !name.isEmpty && endsDeclaration (afterGap.dropWhile isWord)
    then some name
    else none

def declaration (line : List Char) : Option String := (declaredName line).map String.ofList

/-- A parenthesis opens here, blanks aside. -/
def opensCall (rest : List Char) : Bool := (rest.dropWhile isBlank).head? == some '('

/-- A word right after one of these is a variable and not a call. -/
def isSigil (c : Char) : Bool := c == '$' || c == '@' || c == '%'

/-- The words of the line before an opening parenthesis that no sigil introduces. `sigil` tells
whether the character before is one. -/
def callWords (sigil : Bool) (line : List Char) : List (List Char) :=
  match line with
  | [] => []
  | c :: rest =>
    if isWord c then
      let beyond := rest.dropWhile isWord
      if !sigil && opensCall beyond then (c :: rest.takeWhile isWord) :: callWords false beyond
      else callWords false beyond
    else callWords (isSigil c) rest
termination_by line.length
decreasing_by
  · exact Nat.lt_succ_of_le (List.dropWhile_sublist isWord).length_le
  · exact Nat.lt_succ_of_le (List.dropWhile_sublist isWord).length_le
  · exact Nat.lt_succ_self _

/-- Every call on the line, left to right. -/
def calls (line : List Char) : List String := (callWords false line).map String.ofList

end PerlCalls.Perl

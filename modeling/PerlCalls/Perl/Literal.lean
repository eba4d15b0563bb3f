/-! The code of a line, without what could hide braces: escaped characters, quoted strings and the
comment at its end. Each is removed from all of the line before the next is looked for. -/
namespace PerlCalls.Perl

/-- A backslash goes together with the character after it, unless that is a line feed. -/
def dropEscapes : List Char → List Char
  | '\\' :: c :: rest => if c == '\n' then '\\' :: c :: dropEscapes rest else dropEscapes rest
  | c :: rest => c :: dropEscapes rest
  | [] => []

/-- What follows the next `quote`. -/
def afterQuote? (quote : Char) : List Char → Option (List Char)
  | [] => none
  | c :: rest => if c == quote then some rest else afterQuote? quote rest

theorem afterQuote?_length {quote : Char} :
    {cs rest : List Char} → afterQuote? quote cs = some rest → rest.length < cs.length
  | [], _, h => by simp [afterQuote?] at h
  | c :: cs, rest, h => by
    simp only [afterQuote?] at h
    split at h
    · cases h
      simp
    · exact Nat.lt_succ_of_lt (afterQuote?_length h)

def isQuote (c : Char) : Bool := c == '"' || c == Char.ofNat 0x27

/-- A quote with a partner later on goes together with all up to the partner. -/
def dropStrings (cs : List Char) : List Char :=
  match cs with
  | [] => []
  | c :: rest =>
    if isQuote c then
      match _h : afterQuote? c rest with
      | some beyond => dropStrings beyond
      | none => c :: dropStrings rest
    else c :: dropStrings rest
termination_by cs.length
decreasing_by
  · exact Nat.lt_succ_of_lt (afterQuote?_length _h)
  · exact Nat.lt_succ_self _
  · exact Nat.lt_succ_self _

/-- A hash sign not right after a dollar sign begins the comment, if the text ends with that line.
`dollar` tells whether the character before is a dollar sign. -/
def dropComment (dollar : Bool) : List Char → List Char
  | [] => []
  | c :: rest =>
    if c == '#' && !dollar then
      match rest.dropWhile (· != '\n') with
      | [] => []
      | ['\n'] => ['\n']
      | _ => c :: dropComment false rest
    else c :: dropComment (c == '$') rest

/-- The line without escapes, strings and its comment. -/
def stripLiterals (line : List Char) : List Char :=
  dropComment false (dropStrings (dropEscapes line))

/-- How much deeper the braces of the line's code go. -/
def braceDelta (line : List Char) : Int :=
  let code := stripLiterals line
  (code.count '{' : Int) - (code.count '}' : Int)

end PerlCalls.Perl

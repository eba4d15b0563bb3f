/-! Sets of characters given by ranges of code points. -/
namespace PerlCalls.Text

/-- Code points from the first to the second number of a pair, both included. -/
abbrev Ranges := List (Nat × Nat)

def Ranges.has (r : Ranges) (c : Char) : Bool :=
  r.any (fun p => Nat.ble p.1 c.toNat && Nat.ble c.toNat p.2)

def isAscii (c : Char) : Bool := c.toNat < 0x80

def isAsciiLetter (c : Char) : Bool :=
  ('a' ≤ c && c ≤ 'z') || ('A' ≤ c && c ≤ 'Z')

def isAsciiDigit (c : Char) : Bool := '0' ≤ c && c ≤ '9'

def isAsciiAlnum (c : Char) : Bool := isAsciiLetter c || isAsciiDigit c

end PerlCalls.Text

import PerlCalls.Text.Ranges

/-! White space: the Unicode white-space characters together with the four separators of ASCII
(file, group, record and unit). -/
namespace PerlCalls.Text

/-- The white space beyond ASCII. -/
def blankRanges : Ranges :=
  [(0x85, 0x85), (0xA0, 0xA0), (0x1680, 0x1680), (0x2000, 0x200A), (0x2028, 0x2029),
   (0x202F, 0x202F), (0x205F, 0x205F), (0x3000, 0x3000)]

def isBlank (c : Char) : Bool :=
  if isAscii c then c == ' ' || (0x09 ≤ c.toNat && c.toNat ≤ 0x0D) || (0x1C ≤ c.toNat && c.toNat ≤ 0x1F)
  else blankRanges.has c

/-- The white space of Unicode alone, without the four separators. -/
def isWhite (c : Char) : Bool := isBlank c && !(0x1C ≤ c.toNat && c.toNat ≤ 0x1F)

/-- Without the characters at either end that pass a test. -/
def trimOf (test : Char → Bool) (cs : List Char) : List Char :=
  ((cs.dropWhile test).reverse.dropWhile test).reverse

/-- Without the white space at either end. -/
def trim (cs : List Char) : List Char := trimOf isBlank cs

end PerlCalls.Text

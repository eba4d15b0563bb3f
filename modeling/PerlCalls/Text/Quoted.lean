import PerlCalls.Text.Digit
import PerlCalls.Text.Printable

/-! A text in quotes, as shown in error messages.

Single quotes, unless the text holds a single quote and no double one. The quote and the backslash
are escaped, and so is every character that cannot be printed. -/
namespace PerlCalls.Text

/-- The quote that stands around a text. -/
def quoteFor (cs : List Char) : Char :=
  if cs.contains (Char.ofNat 0x27) && !cs.contains '"' then '"' else Char.ofNat 0x27

def quoteChar (quote c : Char) : List Char :=
  if c == quote || c == '\\' then ['\\', c]
  else if c == '\n' then ['\\', 'n']
  else if c == '\r' then ['\\', 'r']
  else if c == '\t' then ['\\', 't']
  else if isPrintable c then [c]
  else if c.toNat < 0x100 then ['\\', 'x'] ++ hexText 2 c.toNat
  else if c.toNat < 0x10000 then ['\\', 'u'] ++ hexText 4 c.toNat
  else ['\\', 'U'] ++ hexText 8 c.toNat

def quoted (s : String) : String :=
  let cs := s.toList
  let quote := quoteFor cs
  String.ofList (quote :: cs.flatMap (quoteChar quote) ++ [quote])

end PerlCalls.Text

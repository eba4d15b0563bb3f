import PerlCalls.Text.Digit
import PerlCalls.Text.Lines
import PerlCalls.Text.Names.Aliases
import PerlCalls.Text.Names.Letters
import PerlCalls.Text.Names.Pictures
import PerlCalls.Text.Names.Scripts
import PerlCalls.Text.Names.Syllables
import PerlCalls.Text.Names.Symbols

/-! Characters by name.

Most names stand in tables, and letter case does not count in them. Ideographs are named by their
code points, and a Hangul syllable by the sounds that it is made of; these names are in upper
case. -/
namespace PerlCalls.Text

/-! ### Tables -/

/-- The code point that a line of a table gives to a name. -/
def codeInLine? (name line : List Char) : Option Nat :=
  match splitOnChar '/' line with
  | [] => none
  | head :: endings =>
    let first := hexNumber (head.takeWhile (· != ' '))
    let beginning := (head.dropWhile (· != ' ')).drop 1
    if beginning.isPrefixOf name then
      (endings.idxOf? (name.drop beginning.length)).map (first + ·)
    else none

def codeInTable? (name : List Char) (table : String) : Option Nat :=
  (splitOnChar '\n' table.toList).findSome? (codeInLine? name)

def nameTables : List String :=
  [letterNames, symbolNames, syllableNames, scriptNames, pictureNames, aliasNames]

/-! ### Names that hold a code point -/

/-- A code point in four or five digits. -/
def codeOfDigits? (ranges : Ranges) (digits : List Char) : Option Nat :=
  let n := hexNumber digits
  if (digits.length == 4 || digits.length == 5) && digits.all (fun c => isHexDigit c && !c.isLower) &&
      ranges.has (Char.ofNat n) then some n
  else none

def ideographBeginning : List Char := "CJK UNIFIED IDEOGRAPH-".toList

def ideographRanges : Ranges :=
  [(0x3400, 0x4DBF), (0x4E00, 0x9FFF), (0x20000, 0x2A6DF), (0x2A700, 0x2B738), (0x2B740, 0x2B81D),
   (0x2B820, 0x2CEA1), (0x2CEB0, 0x2EBE0), (0x30000, 0x3134A)]

/-- Series of names that end in the code point. -/
def numberedSeries : List (String × Ranges) :=
  [ ("CJK COMPATIBILITY IDEOGRAPH-", [(0xF900, 0xFA6D), (0xFA70, 0xFAD9), (0x2F800, 0x2FA1D)]),
    ("KHITAN SMALL SCRIPT CHARACTER-", [(0x18B00, 0x18CD5)]),
    ("NUSHU CHARACTER-", [(0x1B170, 0x1B2FB)]) ]

/-- The code point of a name in such a series; it is written without zeros that say nothing. -/
def codeInSeries? (name : List Char) (series : String × Ranges) : Option Nat :=
  let beginning := series.1.toList
  if beginning.isPrefixOf name then
    let digits := name.drop beginning.length
    (codeOfDigits? series.2 digits).filter (fun n => (hexText 4 n).length == digits.length)
  else none

/-! ### Hangul -/

/-- The sounds that a syllable begins with, those in its middle and those that it ends with. -/
def firstSounds : List String :=
  ["G", "GG", "N", "D", "DD", "R", "M", "B", "BB", "S", "SS", "", "J", "JJ", "C", "K", "T", "P", "H"]

def middleSounds : List String :=
  ["A", "AE", "YA", "YAE", "EO", "E", "YEO", "YE", "O", "WA", "WAE", "OE", "YO", "U", "WEO", "WE",
   "WI", "YU", "EU", "YI", "I"]

def lastSounds : List String :=
  ["", "G", "GG", "GS", "N", "NJ", "NH", "D", "L", "LG", "LM", "LB", "LS", "LT", "LP", "LH", "M",
   "B", "BS", "S", "SS", "NG", "J", "C", "K", "T", "P", "H"]

/-- The longest sound that a text begins with: its position in the list, and what follows it. -/
def takeSound (sounds : List String) (cs : List Char) : Option (Nat × List Char) :=
  let fitting := sounds.zipIdx.filter (fun s => s.1.toList.isPrefixOf cs)
  let longest := fitting.foldl (fun best s => match best with
    | none => some s
    | some b => if b.1.length < s.1.length then some s else some b) none
  longest.map (fun s => (s.2, cs.drop s.1.length))

def hangulBeginning : List Char := "HANGUL SYLLABLE ".toList

/-- The code point of a syllable. -/
def hangulCode? (sounds : List Char) : Option Nat := do
  let (first, rest) ← takeSound firstSounds sounds
  let (middle, rest) ← takeSound middleSounds rest
  let (last, rest) ← takeSound lastSounds rest
  if rest.isEmpty then
    return 0xAC00 + (first * middleSounds.length + middle) * lastSounds.length + last
  else none

/-! ### All names -/

/-- The code point of the character with a name. -/
def characterNamed? (name : List Char) : Option Nat :=
  if hangulBeginning.isPrefixOf name then hangulCode? (name.drop hangulBeginning.length)
  else if ideographBeginning.isPrefixOf name then
    codeOfDigits? ideographRanges (name.drop ideographBeginning.length)
  else
    let upper := name.map Char.toUpper
    (numberedSeries.findSome? (codeInSeries? upper)).or
      (nameTables.findSome? (codeInTable? upper))

end PerlCalls.Text

/-! UTF-8.

The reader takes one byte at a time. A byte that cannot go on with the sequence before it ends that
sequence, which then counts as one fault, and is read again as a first byte; so a fault is the
longest beginning of a sequence, or a single byte that begins none. -/
namespace PerlCalls.Text

def encodeChar (c : Char) : List UInt8 :=
  let n := c.toNat
  if n < 0x80 then [n.toUInt8]
  else if n < 0x800 then [(0xC0 + n / 64).toUInt8, (0x80 + n % 64).toUInt8]
  else if n < 0x10000 then
    [(0xE0 + n / 4096).toUInt8, (0x80 + n / 64 % 64).toUInt8, (0x80 + n % 64).toUInt8]
  else
    [(0xF0 + n / 262144).toUInt8, (0x80 + n / 4096 % 64).toUInt8, (0x80 + n / 64 % 64).toUInt8,
      (0x80 + n % 64).toUInt8]

def encode (cs : List Char) : List UInt8 := cs.flatMap encodeChar

/-- Between two characters, or `left` bytes before the end of one: `acc` is what its bytes so far
stand for, and the next byte has to lie between `lo` and `hi`. -/
inductive Reading where
  | between
  | within (acc left lo hi : Nat)

/-- A byte read as the first of a character. -/
def openChar (b : UInt8) : List (Option Char) × Reading :=
  let n := b.toNat
  if n < 0x80 then ([some (Char.ofNat n)], .between)
  else if n < 0xC2 then ([none], .between)
  else if n < 0xE0 then ([], .within (n - 0xC0) 1 0x80 0xBF)
  else if n == 0xE0 then ([], .within 0 2 0xA0 0xBF)
  else if n == 0xED then ([], .within 0xD 2 0x80 0x9F)
  else if n < 0xF0 then ([], .within (n - 0xE0) 2 0x80 0xBF)
  else if n == 0xF0 then ([], .within 0 3 0x90 0xBF)
  else if n < 0xF4 then ([], .within (n - 0xF0) 3 0x80 0xBF)
  else if n == 0xF4 then ([], .within 4 3 0x80 0x8F)
  else ([none], .between)

def readByte : Reading → UInt8 → List (Option Char) × Reading
  | .between, b => openChar b
  | .within acc left lo hi, b =>
    if lo ≤ b.toNat && b.toNat ≤ hi then
      let acc := acc * 64 + (b.toNat - 0x80)
      if left ≤ 1 then ([some (Char.ofNat acc)], .between)
      else ([], .within acc (left - 1) 0x80 0xBF)
    else (none :: (openChar b).1, (openChar b).2)

/-- The characters of a byte sequence, `none` for each fault. -/
def readBytes (r : Reading) : List UInt8 → List (Option Char)
  | [] => match r with
    | .between => []
    | .within .. => [none]
  | b :: rest => (readByte r b).1 ++ readBytes (readByte r b).2 rest

/-- Every fault becomes the replacement character. -/
def decodeLossy (bytes : List UInt8) : List Char :=
  (readBytes .between bytes).map (·.getD (Char.ofNat 0xFFFD))

/-- The text of a byte sequence without faults. -/
def decode? (bytes : List UInt8) : Option (List Char) :=
  (readBytes .between bytes).mapM id

end PerlCalls.Text

import PerlCalls.Input.Fractional

/-! Untyped values, as data files and requests hold them. -/
namespace PerlCalls.Input

inductive Value where
  | null
  | bool (b : Bool)
  | int (n : Int)
  | fractional (x : Fractional)
  | text (s : String)
  | bytes (bs : List UInt8)
  /-- A calendar date, which no setting takes. -/
  | date
  | list (items : List Value)
  | set (items : List Value)
  | map (entries : List (Value × Value))

namespace Value

/-- Says nothing: null, false, zero or without content. -/
def isVoid : Value → Bool
  | .null => true
  | .bool b => !b
  | .int n => n == 0
  | .fractional x => x.toInt? == some 0
  | .text s => s.isEmpty
  | .bytes bs => bs.isEmpty
  | .date => false
  | .list items => items.isEmpty
  | .set items => items.isEmpty
  | .map entries => entries.isEmpty

end Value

/-- Named values; every name once. -/
abbrev Record := List (String × Value)

end PerlCalls.Input

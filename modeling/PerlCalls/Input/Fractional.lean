import PerlCalls.Data.Rounding
import PerlCalls.Text.Digit

/-! Numbers written with a fraction, in double precision.

Every finite one is a multiple of the smallest positive one, two to the power of -1074, so it is
kept as a count of these units, and reading a decimal rounds an exact quotient once. -/
namespace PerlCalls.Input

open Text

/-- A count of the smallest units, or one of the values beyond all numbers. -/
inductive Fractional where
  | finite (units : Int)
  | infinite (negative : Bool)
  | undefined
deriving DecidableEq

namespace Fractional

/-- The units of one. -/
def one : Nat := Nat.pow 2 1074

/-- The number of bits that are kept. -/
def precision : Nat := 53

/-- The smallest count of units that is beyond all finite numbers. -/
def limit : Nat := Nat.pow 2 2098

/-- The whole number that it equals. -/
def toInt? : Fractional → Option Int
  | .finite units => if units % (one : Int) == 0 then some (units / (one : Int)) else none
  | _ => none

def negate : Fractional → Fractional
  | .finite units => .finite (-units)
  | .infinite negative => .infinite !negative
  | .undefined => .undefined

/-- The nearest count of units that keeps the precision, a half going to the even one. -/
def roundUnits (n d : Nat) : Nat :=
  let bits := Nat.log2 (n / d) + 1
  let step := Nat.pow 2 (bits - precision)
  roundDiv n (d * step) * step

/-- The number with a magnitude of `n / d` units. -/
def ofUnits (negative : Bool) (n d : Nat) : Fractional :=
  let units := roundUnits n d
  if limit ≤ units then .infinite negative
  else .finite (if negative then -(units : Int) else units)

/-- A number of digits before the point beyond which all numbers are infinite, and a number of zeros
behind the point beyond which all are zero. -/
def farOut : Int := 400

/-- The number with these digits, times a power of ten. -/
def ofDecimal (negative : Bool) (digits : List Char) (exponent : Int) : Fractional :=
  let significant := digits.dropWhile (· == '0')
  let size := (significant.length : Int) + exponent
  if significant.isEmpty || size < -farOut then .finite 0
  else if farOut < size then .infinite negative
  else
    ofUnits negative (decimalValue significant * Nat.pow 10 exponent.toNat * one)
      (Nat.pow 10 (-exponent).toNat)

end Fractional

end PerlCalls.Input

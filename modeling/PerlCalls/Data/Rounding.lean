/-! Quotients of natural numbers, rounded to the nearest whole number. -/
namespace PerlCalls

/-- `n` over `d`, to the nearest whole number, a half going to the even one. -/
def roundDiv (n d : Nat) : Nat :=
  let q := n / d
  let twice := 2 * (n % d)
  if twice < d then q else if d < twice then q + 1 else if q % 2 == 0 then q else q + 1

end PerlCalls

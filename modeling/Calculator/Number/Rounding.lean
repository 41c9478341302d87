import Calculator.Number.Binary

/-!
# Rounding to decimal places

A double is rounded on its exact value: to the nearest number with the given
count of places after the point, and to the even one of two equally near.
-/

namespace Calculator.Number

/-- The whole number nearest to a quotient, the even one of two equally
near. -/
def nearestQuotient (top bottom : Nat) : Nat :=
  let below := top / bottom
  let left := 2 * (top % bottom)
  if left < bottom || left = bottom && below % 2 = 0 then below else below + 1

def roundTo (decimals : Nat) (x : Float) : Float :=
  if x.isNaN || x.isInf then x
  else
    let b := Binary.ofFloat x
    let top := b.mantissa * powerTop 2 b.exponent * Nat.pow 10 decimals
    let rounded := nearestQuotient top (powerBottom 2 b.exponent)
    let magnitude := Float.ofScientific rounded true decimals
    if b.negative then -magnitude else magnitude

end Calculator.Number

/-!
# Doubles as whole numbers

A finite double is a sign, a whole number below `2 ^ 53` and a power of two.
In this form its value is exact, and what is computed from it in whole numbers
is exact as well.
-/

namespace Calculator.Number

/-- The numerator of `base ^ exponent` in lowest terms. -/
def powerTop (base : Nat) (exponent : Int) : Nat :=
  Nat.pow base exponent.toNat

/-- The denominator of `base ^ exponent` in lowest terms. -/
def powerBottom (base : Nat) (exponent : Int) : Nat :=
  Nat.pow base (-exponent).toNat

/-- The number `± mantissa · 2 ^ exponent`. -/
structure Binary where
  negative : Bool
  mantissa : Nat
  exponent : Int
  deriving DecidableEq, Repr

namespace Binary

/-- The first bit of the mantissas of normal numbers, `2 ^ 52`.  It is not
stored. -/
def leadingBit : Nat :=
  Nat.pow 2 52

def signBit : Nat :=
  Nat.pow 2 63

/-- The parts of a finite double.  The exponent field is the same for
subnormal numbers and for the least normal ones, which have one bit more. -/
def ofFloat (x : Float) : Binary :=
  let bits := x.toBits.toNat
  let field := bits % signBit / leadingBit
  let fraction := bits % leadingBit
  { negative := signBit ≤ bits
    mantissa := if field = 0 then fraction else fraction + leadingBit
    exponent := Int.ofNat (max field 1) - 1075 }

/-- The double with these parts, for a mantissa below `2 ^ 53` whose value a
double can hold. -/
def toFloat (b : Binary) : Float :=
  let top := b.mantissa.log2
  let scale := b.exponent + top
  let magnitude :=
    if b.mantissa = 0 then 0
    else if scale < -1022 then b.mantissa * powerTop 2 (b.exponent + 1074)
    else (scale + 1022).toNat * leadingBit + b.mantissa * Nat.pow 2 (52 - top)
  Float.ofBits (UInt64.ofNat ((if b.negative then signBit else 0) + magnitude))

end Binary

end Calculator.Number

import Calculator.Number.Binary

/-!
# The remainder of a division

What is left of `x` once `y` has been taken away as often as it fits.  The
remainder has the sign of `x`, a magnitude below that of `y`, and is exact: on
the finer of the two grids of powers of two both numbers are whole, and the
remainder there fits into a double again.
-/

namespace Calculator.Number

def nan : Float :=
  0.0 / 0.0

/-- Undefined for an infinite `x` and for a zero `y`; an infinite `y` never
fits into `x`. -/
def remainder (x y : Float) : Float :=
  if x.isNaN || y.isNaN || x.isInf || y == 0.0 then nan
  else if y.isInf then x
  else
    let a := Binary.ofFloat x
    let b := Binary.ofFloat y
    let grid := min a.exponent b.exponent
    let whole := a.mantissa * powerTop 2 (a.exponent - grid)
    let step := b.mantissa * powerTop 2 (b.exponent - grid)
    Binary.toFloat { negative := a.negative, mantissa := whole % step, exponent := grid }

end Calculator.Number

import Calculator.Number.Binary

/-!
# The shortest decimal of a double

Many decimals read back as the same double: those in an interval around it
that reaches half way to its neighbours.  The shortest decimal is the one with
the fewest digits in there, and the nearest to the double if there are several.

The search goes through the decimal grids from coarse to fine, from one digit
to seventeen.  On a grid only the two points next to the double matter: if any
point of the grid lies in the interval, one of these two does.  All
comparisons are between whole numbers.
-/

namespace Calculator.Number

/-- The number `digits · 10 ^ exponent`. -/
structure Decimal where
  digits : Nat
  exponent : Int
  deriving DecidableEq, Repr

/-- How many decimal places a whole number is written with. -/
def places (n : Nat) : Nat :=
  (Nat.toDigits 10 n).length

/-- The exponent of the leading digit of `mantissa · 2 ^ exponent`.  Below one
it is read off the places of the inverse; only a power of ten, which one alone
is among these numbers, would be an exception. -/
def leadingExponent (mantissa : Nat) (exponent : Int) : Int :=
  let top := mantissa * powerTop 2 exponent
  let bottom := powerBottom 2 exponent
  if bottom ≤ top then Int.ofNat (places (top / bottom)) - 1
  else -Int.ofNat (places (bottom / top))

/-- An interval of reals with a point inside, in quarters of the unit in the
last place: from `low` to `high` around `value`, each times `2 ^ exponent`. -/
structure Interval where
  low : Nat
  value : Nat
  high : Nat
  exponent : Int
  closed : Bool

/-- The reals that round to a positive double.  At a power of two the
neighbour below is only half as far away as the one above; ends round to the
even mantissa. -/
def Interval.around (b : Binary) : Interval where
  low := 4 * b.mantissa - (if b.mantissa = Binary.leadingBit && b.exponent > -1074 then 1 else 2)
  value := 4 * b.mantissa
  high := 4 * b.mantissa + 2
  exponent := b.exponent - 2
  closed := b.mantissa % 2 == 0

/-- The point of the grid `10 ^ place` nearest to the value, among those in
the interval; of two equally near ones the even. -/
def Interval.onGrid? (i : Interval) (place : Int) : Option Nat :=
  -- `n · 10 ^ place` against `m · 2 ^ exponent` is `n · step` against `m · unit`
  let step := powerTop 10 place * powerBottom 2 i.exponent
  let unit := powerBottom 10 place * powerTop 2 i.exponent
  let inside (n : Nat) : Bool :=
    if i.closed then i.low * unit ≤ n * step && n * step ≤ i.high * unit
    else i.low * unit < n * step && n * step < i.high * unit
  let below := i.value * unit / step
  match inside below, inside (below + 1) with
  | true, true =>
    let twice := 2 * (i.value * unit)
    let middle := (2 * below + 1) * step
    some (if twice < middle || twice = middle && below % 2 = 0 then below else below + 1)
  | true, false => some below
  | false, true => some (below + 1)
  | false, false => none

/-- The shortest decimal that reads back as the given positive double. -/
def shortest (b : Binary) : Decimal :=
  let interval := Interval.around b
  let lead := leadingExponent b.mantissa b.exponent
  let grids := (List.range 17).map fun i => lead - Int.ofNat i
  let found := grids.findSome? fun place =>
    (interval.onGrid? place).map fun digits => { digits, exponent := place : Decimal }
  found.getD { digits := 0, exponent := 0 }

end Calculator.Number

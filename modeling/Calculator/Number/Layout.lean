import Calculator.Number.Shortest
import Calculator.Text.Digit

/-!
# Numbers as text

A double is written with its shortest decimal.  From `10 ^ -4` up to below
`10 ^ 16` the point stands where it belongs, with a digit on either side;
outside, one digit stands before the point, if more follow, and the power of
ten after an `e`, with a sign and at least two places.
-/

namespace Calculator.Number

/-- The choices in writing a double: the exponents written without a power of
ten, and the words for what is no number. -/
structure Layout where
  leastPlain : Int
  leastScientific : Int
  exponentPlaces : Nat
  infinity : String
  notNumber : String

/-- The layout of results and messages. -/
def Layout.plain : Layout where
  leastPlain := -4
  leastScientific := 16
  exponentPlaces := 2
  infinity := "inf"
  notNumber := "nan"

/-- The layout of data exchange, which has its own words for what is no
number. -/
def Layout.exchange : Layout :=
  { Layout.plain with infinity := "Infinity", notNumber := "NaN" }

/-- The significant digits of a decimal, without the zeros at the end. -/
def Decimal.significant (d : Decimal) : List Char :=
  ((Nat.toDigits 10 d.digits).reverse.dropWhile (· = '0')).reverse

/-- The exponent of the first digit. -/
def Decimal.lead (d : Decimal) : Int :=
  d.exponent + Int.ofNat (places d.digits) - 1

/-- Digits with the point where the exponent of the first one puts it. -/
def plainText (digits : List Char) (lead : Int) : List Char :=
  if lead < 0 then
    '0' :: '.' :: List.replicate (-lead - 1).toNat '0' ++ digits
  else
    let whole := lead.toNat + 1
    let fraction := digits.drop whole
    digits.take whole ++ List.replicate (whole - digits.length) '0' ++
      '.' :: (if fraction.isEmpty then ['0'] else fraction)

/-- Digits with the point after the first and the exponent behind. -/
def scientificText (layout : Layout) (digits : List Char) (lead : Int) : List Char :=
  let fraction := digits.drop 1
  let power := Nat.toDigits 10 lead.natAbs
  digits.take 1 ++ (if fraction.isEmpty then [] else '.' :: fraction) ++
    'e' :: (if lead < 0 then '-' else '+') ::
      List.replicate (layout.exponentPlaces - power.length) '0' ++ power

/-- A magnitude without its sign. -/
def magnitudeText (layout : Layout) (b : Binary) : List Char :=
  if b.mantissa = 0 then ['0', '.', '0']
  else
    let decimal := shortest b
    if layout.leastPlain ≤ decimal.lead && decimal.lead < layout.leastScientific then
      plainText decimal.significant decimal.lead
    else scientificText layout decimal.significant decimal.lead

/-- A double as text.  Zero keeps its sign, and what is not a number has
none. -/
def Layout.write (layout : Layout) (x : Float) : String :=
  if x.isNaN then layout.notNumber
  else
    let b := Binary.ofFloat x
    let sign := if b.negative then "-" else ""
    if x.isInf then sign ++ layout.infinity
    else sign ++ String.ofList (magnitudeText layout b)

/-- A double as results and messages show it. -/
def text (x : Float) : String :=
  Layout.plain.write x

end Calculator.Number

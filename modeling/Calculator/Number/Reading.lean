import Calculator.Number.Remainder
import Calculator.Text.Blank
import Calculator.Text.Digit

/-!
# Numbers from text

The written forms of a number: a sign or none, digits with at most one point
among them and at least one digit, and a power of ten after an `e`.  Digits of
any script count; a low line may stand between two digits.  Infinity and
undefined have words of their own, in any case.

A decimal is read as the nearest double, the even one of two equally near.
-/

namespace Calculator.Number

open Calculator.Text

/-- The digits at the front of a text and what comes after them.  A low line
is passed over where a digit stands on both sides; the flag says whether a
digit came just before. -/
def digitRun (after : Bool) : List Char → List Nat × List Char
  | [] => ([], [])
  | c :: rest =>
    match digitValue? c with
    | some d =>
      let run := digitRun true rest
      (d :: run.1, run.2)
    | none =>
      if c = '_' && after && rest.head?.any (digitValue? · |>.isSome) then digitRun false rest
      else ([], c :: rest)

/-- The number that a row of digits stands for. -/
def ofDigits (digits : List Nat) : Nat :=
  digits.foldl (fun n d => 10 * n + d) 0

/-- A sign at the front of a text, negative or not, and what comes after. -/
def signed : List Char → Bool × List Char
  | '+' :: rest => (false, rest)
  | '-' :: rest => (true, rest)
  | rest => (false, rest)

/-- The double nearest to `digits · 10 ^ exponent`.  Beyond the range of
doubles on either side the exponent is not raised to a power first. -/
def nearest (digits : Nat) (exponent : Int) : Float :=
  let lead := exponent + Int.ofNat (Nat.toDigits 10 digits).length
  if digits = 0 || lead < -400 then 0.0
  else if lead > 400 then 1.0 / 0.0
  else Float.ofScientific digits (exponent < 0) exponent.natAbs

/-- The exponent part of a number, up to the end of the text. -/
def exponentPart? : List Char → Option Int
  | [] => some 0
  | c :: rest =>
    if c = 'e' || c = 'E' then
      let (negative, rest) := signed rest
      match digitRun false rest with
      | ([], _) => none
      | (digits, []) => some (if negative then -Int.ofNat (ofDigits digits) else ofDigits digits)
      | _ => none
    else none

/-- A magnitude in digits. -/
def decimal? (text : List Char) : Option Float :=
  let (whole, rest) := digitRun false text
  let (fraction, rest) := match rest with
    | '.' :: rest => digitRun false rest
    | rest => ([], rest)
  if whole.isEmpty && fraction.isEmpty then none
  else (exponentPart? rest).map fun exponent =>
    nearest (ofDigits (whole ++ fraction)) (exponent - Int.ofNat fraction.length)

/-- A magnitude in digits or in a word. -/
def magnitude? (text : List Char) : Option Float :=
  let word := text.map Char.toLower
  if word = "inf".toList || word = "infinity".toList then some (1.0 / 0.0)
  else if word = "nan".toList then some nan
  else decimal? text

/-- The double that a text stands for, blanks around it left out. -/
def ofText? (text : String) : Option Float :=
  let (negative, rest) := signed (strip isNumberBlank text.toList)
  (magnitude? rest).map fun x => if negative then -x else x

/-- The most digits that an integer is read from. -/
def mostIntegerDigits : Nat :=
  4300

/-- The integer that a text stands for: a sign or none, and digits, blanks
around them left out. -/
def integer? (text : String) : Option Int :=
  let (negative, rest) := signed (strip isNumberBlank text.toList)
  match digitRun false rest with
  | ([], _) => none
  | (digits, []) =>
    if digits.length > mostIntegerDigits then none
    else some (if negative then -Int.ofNat (ofDigits digits) else ofDigits digits)
  | _ => none

end Calculator.Number

import Calculator.Failure
import Calculator.Number.Remainder

/-!
# What operators and functions compute

All arithmetic is on doubles.  Infinity and undefined are results like any
other; only a zero divisor and an operand outside the domain of a function are
refused.  An undefined operand is in no domain, since it compares with
nothing.
-/

namespace Calculator

/-! ### Angles -/

namespace AngleUnit

def toRadians (unit : AngleUnit) (x : Float) : Float :=
  match unit with
  | degrees => x * (Constant.pi.value / 180.0)
  | radians => x

def ofRadians (unit : AngleUnit) (x : Float) : Float :=
  match unit with
  | degrees => x * (180.0 / Constant.pi.value)
  | radians => x

end AngleUnit

/-! ### Functions -/

namespace NamedFunction

/-- Why an operand is outside the domain of a function, if it is. -/
def domainFault? (f : NamedFunction) (x : Float) : Option Fault :=
  match f with
  | asin | acos => if -1.0 ≤ x && x ≤ 1.0 then none else some (.outsideUnitInterval f x)
  | log | ln => if x > 0.0 then none else some (.nonPositiveLogarithm f x)
  | sqrt => if x ≥ 0.0 then none else some (.negativeRoot x)
  | sin | cos | tan | atan | abs | exp => none

/-- The value of a function at an operand in its domain. -/
def value (f : NamedFunction) (unit : AngleUnit) (x : Float) : Float :=
  match f with
  | sin => Float.sin (unit.toRadians x)
  | cos => Float.cos (unit.toRadians x)
  | tan => Float.tan (unit.toRadians x)
  | asin => unit.ofRadians (Float.asin x)
  | acos => unit.ofRadians (Float.acos x)
  | atan => unit.ofRadians (Float.atan x)
  | log => Float.log10 x
  | ln => Float.log x
  | sqrt => Float.sqrt x
  | abs => Float.abs x
  | exp => Float.exp x

def apply (f : NamedFunction) (unit : AngleUnit) (x : Float) : Except Failure Float :=
  match f.domainFault? x with
  | some fault => .error (.fault fault)
  | none => .ok (f.value unit x)

/-- Applies the function of the given name. -/
def applyNamed (name : String) (unit : AngleUnit) (x : Float) : Except Failure Float :=
  match ofName? name with
  | some f => f.apply unit x
  | none => .error (.missingKey name)

end NamedFunction

/-- The value of the constant with the given symbol. -/
def Constant.valueOf (symbol : String) : Except Failure Float :=
  match ofSymbol? symbol with
  | some constant => .ok constant.value
  | none => .error (.missingKey symbol)

/-! ### Operations on two operands -/

inductive BinaryOperation where
  | add
  | subtract
  | multiply
  | divide
  | modulo
  | power
  deriving DecidableEq, Repr

namespace BinaryOperation

def all : List BinaryOperation :=
  [add, subtract, multiply, divide, modulo, power]

def symbol : BinaryOperation → String
  | add => "+"
  | subtract => "-"
  | multiply => "*"
  | divide => "/"
  | modulo => "%"
  | power => "^"

def ofSymbol? (symbol : String) : Option BinaryOperation :=
  all.find? fun operation => operation.symbol = symbol

@[simp] theorem ofSymbol?_symbol (operation : BinaryOperation) :
    ofSymbol? operation.symbol = some operation := by
  cases operation <;> rfl

/-- Whether the right operand is a divisor. -/
def divides : BinaryOperation → Bool
  | divide | modulo => true
  | add | subtract | multiply | power => false

/-- A power.  The exponents of the reciprocal, the square root and the square
have these operations done, each rounded once.  So the root of minus zero is
minus zero, and minus infinity has no root. -/
def raise (base exponent : Float) : Float :=
  if exponent == -1.0 then 1.0 / base
  else if exponent == 0.5 then Float.sqrt base
  else if exponent == 2.0 then base * base
  else Float.pow base exponent

def value (operation : BinaryOperation) (left right : Float) : Float :=
  match operation with
  | add => left + right
  | subtract => left - right
  | multiply => left * right
  | divide => left / right
  | modulo => Number.remainder left right
  | power => raise left right

/-- The value of an operation; a zero divisor of either sign is refused. -/
def apply (operation : BinaryOperation) (left right : Float) : Except Failure Float :=
  if operation.divides && right == 0.0 then
    .error (.fault (.zeroDivisor operation.symbol left))
  else .ok (operation.value left right)

/-- Applies the operation with the given symbol. -/
def applySymbol (symbol : String) (left right : Float) : Except Failure Float :=
  match ofSymbol? symbol with
  | some operation => operation.apply left right
  | none => .error (.missingKey symbol)

end BinaryOperation

end Calculator

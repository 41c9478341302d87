/-!
# Named functions and constants

The functions of one operand that expressions call by name, and the constants.
-/

namespace Calculator

inductive NamedFunction where
  | sin
  | cos
  | tan
  | asin
  | acos
  | atan
  | log
  | ln
  | sqrt
  | abs
  | exp
  deriving DecidableEq, Repr

namespace NamedFunction

/-- All functions, in the order in which they are listed. -/
def all : List NamedFunction :=
  [sin, cos, tan, asin, acos, atan, log, ln, sqrt, abs, exp]

def name : NamedFunction → String
  | sin => "sin"
  | cos => "cos"
  | tan => "tan"
  | asin => "asin"
  | acos => "acos"
  | atan => "atan"
  | log => "log"
  | ln => "ln"
  | sqrt => "sqrt"
  | abs => "abs"
  | exp => "exp"

def description : NamedFunction → String
  | sin => "Sine"
  | cos => "Cosine"
  | tan => "Tangent"
  | asin => "Inverse sine, operand in [-1, 1]"
  | acos => "Inverse cosine, operand in [-1, 1]"
  | atan => "Inverse tangent"
  | log => "Base-10 logarithm, operand > 0"
  | ln => "Natural logarithm, operand > 0"
  | sqrt => "Square root, operand >= 0"
  | abs => "Absolute value"
  | exp => "e raised to the operand"

/-- Whether the operand or the result is an angle, so that the unit of angles
matters. -/
def angleSensitive : NamedFunction → Bool
  | sin | cos | tan | asin | acos | atan => true
  | log | ln | sqrt | abs | exp => false

def ofName? (name : String) : Option NamedFunction :=
  all.find? fun f => f.name = name

@[simp] theorem ofName?_name (f : NamedFunction) : ofName? f.name = some f := by
  cases f <;> rfl

/-- The order in which a text is searched for a name: the longest names first,
so that no name is taken for a shorter one that it starts with. -/
def longestFirst : List NamedFunction :=
  [asin, acos, atan, sqrt, sin, cos, tan, log, abs, exp, ln]

end NamedFunction

inductive Constant where
  | pi
  | e
  deriving DecidableEq, Repr

namespace Constant

def all : List Constant :=
  [pi, e]

def symbol : Constant → String
  | pi => "π"
  | e => "e"

/-- The double nearest to the constant. -/
def value : Constant → Float
  | pi => 3.141592653589793
  | e => 2.718281828459045

def ofSymbol? (symbol : String) : Option Constant :=
  all.find? fun constant => constant.symbol = symbol

@[simp] theorem ofSymbol?_symbol (constant : Constant) :
    ofSymbol? constant.symbol = some constant := by
  cases constant <;> rfl

end Constant

end Calculator

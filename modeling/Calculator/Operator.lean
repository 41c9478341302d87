import Calculator.Fields
import Calculator.Token

/-!
# Operators

An operator has a rank, by which it binds, and a side to which equals are
grouped.  The order of an expression depends on operators through a table
alone, and any table will do; the standard one has the four operations, the
remainder, the power and the sign.

The sign stands between the products and the power, so that `-2^2` is the
negative of a square.
-/

namespace Calculator

inductive Associativity where
  | left
  | right
  deriving DecidableEq, Repr

def Associativity.name : Associativity → String
  | left => "left"
  | right => "right"

/-- The rank and the grouping of an operator; the higher rank binds first. -/
structure Operator where
  precedence : Int
  associativity : Associativity
  deriving DecidableEq, Repr

/-- What is known of operators by their symbols. -/
abbrev OperatorTable := String → Option Operator

namespace Operator

/-- The standard operators, in the order of their rank. -/
def standard : Fields Operator :=
  [("+", ⟨1, .left⟩), ("-", ⟨1, .left⟩), ("*", ⟨2, .left⟩), ("/", ⟨2, .left⟩), ("%", ⟨2, .left⟩),
    (Token.negation.text, ⟨3, .right⟩), ("^", ⟨4, .right⟩)]

/-- The sign takes one operand, all others two. -/
def arity (symbol : String) : Nat :=
  if symbol = Token.negation.text then 1 else 2

end Operator

/-- The table of the standard operators. -/
def OperatorTable.standard : OperatorTable :=
  fun symbol => Operator.standard.get? symbol

end Calculator

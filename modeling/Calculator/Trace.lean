import Calculator.Evaluation
import Calculator.Juxtaposition
import Calculator.Postfix

/-!
# From text to value

An expression goes through four stages: its text is cleaned, split into tokens,
put in postfix order and evaluated.  A trace keeps what every stage made of it.
-/

namespace Calculator

/-- An evaluation with all its stages. -/
structure Trace where
  expression : String
  sanitized : String
  unit : AngleUnit
  tokens : List Token
  ordered : List Token
  result : Float

namespace Trace

/-- Evaluates an expression under a unit of angles.  A missing expression
counts as an empty one. -/
def ofExpression (expression : Option String) (unit : AngleUnit) : Except Failure Trace := do
  let sanitized := sanitize expression
  let tokens ← tokenize (some sanitized)
  let ordered ← Postfix.ofInfix .standard tokens
  let result ← Postfix.evaluate unit ordered
  return { expression := expression.getD "", sanitized, unit, tokens, ordered, result }

def isFinite (trace : Trace) : Bool :=
  trace.result.isFinite

def toFields (trace : Trace) : Fields Value :=
  [("expression", .text trace.expression),
    ("sanitized", .text trace.sanitized),
    ("angle_mode", .text trace.unit.label),
    ("tokens", .list ((Token.texts trace.tokens).map .text)),
    ("postfix", .list ((Token.texts trace.ordered).map .text)),
    ("result", .number trace.result)]

end Trace

/-- The value of an expression under a unit of angles. -/
def evaluate (expression : Option String) (unit : AngleUnit) : Except Failure Float := do
  let trace ← Trace.ofExpression expression unit
  return trace.result

end Calculator

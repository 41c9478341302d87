import Calculator.Log.Record
import Calculator.Trace

/-!
# What an evaluation logs

An evaluation says when it has found the postfix order and when it has found
the value.  One that fails has said what it had found up to then.
-/

namespace Calculator.Log

def orderEntry (tokens ordered : List Token) : Entry where
  level := .debug
  message := "Converted to postfix"
  fields := [("infix_tokens", .whole tokens.length), ("postfix", .text (Token.line ordered))]

def valueEntry (unit : AngleUnit) (result : Float) : Entry where
  level := .debug
  message := "Evaluated postfix"
  fields := [("angle_mode", .text unit.label), ("result", .number result)]

/-- The entries of the evaluation of an expression. -/
def evaluationEntries (expression : Option String) (unit : AngleUnit) : List Entry :=
  match tokenize expression with
  | .error _ => []
  | .ok tokens =>
    match Postfix.ofInfix .standard tokens with
    | .error _ => []
    | .ok ordered =>
      match Postfix.evaluate unit ordered with
      | .error _ => [orderEntry tokens ordered]
      | .ok result => [orderEntry tokens ordered, valueEntry unit result]

end Calculator.Log

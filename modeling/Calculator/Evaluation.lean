import Calculator.Arithmetic
import Calculator.Number.Reading

/-!
# The value of a postfix order

Operands are pushed on a stack; functions and operators take their operands
from it and put their value there.  What is left at the end must be one value.
The first failure, from left to right, ends the evaluation.
-/

namespace Calculator.Postfix

/-- The number that a token's text writes. -/
def literal (text : String) : Except Failure Float :=
  match Number.ofText? text with
  | some x => .ok x
  | none => .error (.unreadableNumber text)

def insufficient (token : Token) (needed : Nat) (stack : List Float) : Except Failure α :=
  .error (.fault (.insufficientOperands token needed stack.length))

/-- One token: the stack after it, the last value on top. -/
def evaluateStep (unit : AngleUnit) (stack : List Float) (token : Token) :
    Except Failure (List Float) :=
  match token.kind with
  | .number => do
    let x ← literal token.text
    return x :: stack
  | .constant => do
    let x ← Constant.valueOf token.text
    return x :: stack
  | .function =>
    match stack with
    | [] => insufficient token 1 stack
    | x :: below => do
      let y ← NamedFunction.applyNamed token.text unit x
      return y :: below
  | .operator =>
    if token.isNegation then
      match stack with
      | [] => insufficient token 1 stack
      | x :: below => .ok (-x :: below)
    else
      match stack with
      | right :: left :: below => do
        let y ← BinaryOperation.applySymbol token.text left right
        return y :: below
      | _ => insufficient token 2 stack
  | .leftParen | .rightParen | .bar => .error (.fault (.strayToken token))

/-- All tokens in turn: the stack after the last. -/
def evaluateFrom (unit : AngleUnit) (stack : List Float) :
    List Token → Except Failure (List Float)
  | [] => .ok stack
  | token :: rest => do
    let stack ← evaluateStep unit stack token
    evaluateFrom unit stack rest

theorem evaluateFrom_append (unit : AngleUnit) (stack : List Float) (left right : List Token) :
    evaluateFrom unit stack (left ++ right) =
      (evaluateFrom unit stack left).bind fun stack => evaluateFrom unit stack right := by
  induction left generalizing stack with
  | nil => rfl
  | cons token rest ih =>
      simp only [List.cons_append, evaluateFrom, bind, Except.bind]
      cases evaluateStep unit stack token with
      | error failure => rfl
      | ok stack => exact ih stack

/-- The value of a postfix order. -/
def evaluate (unit : AngleUnit) (tokens : List Token) : Except Failure Float := do
  match ← evaluateFrom unit [] tokens with
  | [x] => .ok x
  | stack => .error (.fault (.leftover stack.length))

end Calculator.Postfix

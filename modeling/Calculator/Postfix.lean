import Calculator.Infix
import Calculator.Operator

/-!
# Expressions in postfix order

In postfix order every operator and function stands after its operands, and no
parentheses are needed.  The order is found in one pass over the prepared
infix tokens.  Operands go straight to the output; functions, parentheses and
operators wait on a stack.  An operator first sends to the output whatever
waits on top and binds its own left operand: operators of higher rank, and of
the same rank if it groups to the left.  A right parenthesis sends everything
back to its partner, and after that the function that the group belongs to.

A function without parentheses is not an operator and is sent to the output
only by a right parenthesis or by the end, so its operand reaches as far as its
group does.
-/

namespace Calculator.Postfix

/-- The tokens that go to the output, and the stack that stays. -/
abbrev Step := List Token × List Token

/-- Sends to the output the operators that bind the left operand of an operator
that comes. -/
def popOperators (table : OperatorTable) (coming : Operator) :
    List Token → Except Failure Step
  | [] => .ok ([], [])
  | top :: below =>
    if top.kind = .operator then
      match table top.text with
      | none => .error (.missingKey top.text)
      | some waiting =>
        if waiting.precedence > coming.precedence ||
            (waiting.precedence = coming.precedence && coming.associativity = .left) then do
          let (sent, stack) ← popOperators table coming below
          return (top :: sent, stack)
        else .ok ([], top :: below)
    else .ok ([], top :: below)

/-- Sends to the output the function on top, if there is one. -/
def popFunction : List Token → Step
  | [] => ([], [])
  | top :: below => if top.kind = .function then ([top], below) else ([], top :: below)

/-- Sends to the output what waits above the last left parenthesis, drops the
parenthesis, and sends the function in front of it after that. -/
def closeGroup : List Token → Except Failure Step
  | [] => .error (.fault .unopened)
  | top :: below =>
    if top.kind = .leftParen then .ok (popFunction below)
    else do
      let (sent, stack) ← closeGroup below
      return (top :: sent, stack)

/-- One token: what it sends to the output, and the stack after it. -/
def step (table : OperatorTable) (stack : List Token) (token : Token) : Except Failure Step :=
  match token.kind with
  | .number | .constant => .ok ([token], stack)
  | .function | .leftParen => .ok ([], token :: stack)
  | .rightParen => closeGroup stack
  | .operator =>
    match table token.text with
    | none => .error (.missingKey token.text)
    | some coming => do
      let (sent, stack) ← popOperators table coming stack
      return (sent, token :: stack)
  | .bar => .ok ([], stack)

/-- All tokens in turn: what they send to the output, and the stack after the
last. -/
def run (table : OperatorTable) (stack : List Token) : List Token → Except Failure Step
  | [] => .ok ([], stack)
  | token :: rest => do
    let (sent, stack) ← step table stack token
    let (more, stack) ← run table stack rest
    return (sent ++ more, stack)

theorem run_append (table : OperatorTable) (stack left right : List Token) :
    run table stack (left ++ right) =
      (run table stack left).bind fun (sent, stack) =>
        (run table stack right).map fun (more, stack) => (sent ++ more, stack) := by
  induction left generalizing stack with
  | nil =>
      simp only [List.nil_append, run, Except.bind]
      cases run table stack right <;> rfl
  | cons token rest ih =>
      simp only [List.cons_append, run, bind, Except.bind]
      cases step table stack token with
      | error failure => rfl
      | ok result =>
          simp only [ih, Except.bind]
          cases run table result.2 rest with
          | error failure => rfl
          | ok result' =>
              simp only [pure, Except.pure]
              cases run table result'.2 right with
              | error failure => rfl
              | ok last => simp [Except.map]

/-- Sends to the output all that still waits. -/
def drain : List Token → Except Failure (List Token)
  | [] => .ok []
  | top :: below =>
    if top.kind = .leftParen || top.kind = .rightParen then .error (.fault .leftOpen)
    else do
      let sent ← drain below
      return top :: sent

/-- The postfix order of prepared tokens. -/
def ofPrepared (table : OperatorTable) (tokens : List Token) : Except Failure (List Token) := do
  let (sent, stack) ← run table [] tokens
  let rest ← drain stack
  return sent ++ rest

/-- The postfix order of an expression under an operator table. -/
def ofInfix (table : OperatorTable) (tokens : List Token) : Except Failure (List Token) := do
  let prepared ← Infix.prepare tokens
  ofPrepared table prepared

end Calculator.Postfix

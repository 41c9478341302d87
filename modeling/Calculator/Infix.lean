import Calculator.Failure

/-!
# Expressions in infix order

Before the operators of an expression are put in order, three things about its
tokens are settled: every parenthesis must have its partner, a minus sign
without a left operand becomes the sign of what follows, and a pair of bars
becomes a call of the absolute value.

Parentheses are matched before bars are resolved, so a pair of bars and a pair
of parentheses may cross.
-/

namespace Calculator.Infix

/-- Follows the depth of open parentheses through the tokens. -/
def checkParentheses (depth : Nat) : List Token → Except Failure Unit
  | [] => if depth = 0 then .ok () else .error (.fault (.unclosed depth))
  | token :: rest =>
    match token.kind with
    | .leftParen => checkParentheses (depth + 1) rest
    | .rightParen =>
      match depth with
      | 0 => .error (.fault .unopened)
      | depth + 1 => checkParentheses depth rest
    | _ => checkParentheses depth rest

/-- Whether a minus sign after the given token has no left operand.  After a
bar it is taken to have one. -/
def opensOperand : Option Token → Bool
  | none => true
  | some previous => previous.kind = .operator || previous.kind = .leftParen

/-- Turns every minus sign without a left operand into a sign, given the token
in front. -/
def markNegations (previous : Option Token) : List Token → List Token
  | [] => []
  | token :: rest =>
    let marked :=
      if token.kind = .operator && token.text = "-" && opensOperand previous then Token.negation
      else token
    marked :: markNegations (some marked) rest

@[simp] theorem markNegations_nil (previous : Option Token) :
    markNegations previous [] = [] := rfl

/-- Turns bars, which open and close in turn, into calls; the flag says whether
one is open. -/
def expandBars (inside : Bool) : List Token → Except Failure (List Token)
  | [] => if inside then .error (.fault .unbalancedBars) else .ok []
  | token :: rest =>
    if token.kind = .bar then do
      let more ← expandBars (!inside) rest
      return if inside then .rightParen :: more else .magnitude :: .leftParen :: more
    else do
      let more ← expandBars inside rest
      return token :: more

/-- Settles parentheses, signs and bars. -/
def prepare (tokens : List Token) : Except Failure (List Token) := do
  checkParentheses 0 tokens
  expandBars false (markNegations none tokens)

end Calculator.Infix

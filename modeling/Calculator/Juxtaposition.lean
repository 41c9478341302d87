import Calculator.Lexeme

/-!
# Products that are not written

Two parts of an expression next to each other may stand for a product, as in
`2π`, `2(3+4)`, `(3)(4)`, `(3)2` or `2sin30`.  Which pairs do depends on the
kinds of the two alone.  A function after a right parenthesis does not, nor
does a number after a number or a constant.
-/

namespace Calculator

/-- Whether a product is meant between a token and the one before it. -/
def impliesProduct (previous : Option Token) (current : Token) : Bool :=
  match previous with
  | none => false
  | some previous =>
    match current.kind with
    | .constant | .leftParen => previous.isOperand || previous.kind = .rightParen
    | .number => previous.kind = .rightParen
    | .function => previous.isOperand
    | .operator | .rightParen | .bar => false

/-- Writes out the products that are meant, given the token in front. -/
def writeProducts (previous : Option Token) : List Token → List Token
  | [] => []
  | token :: rest =>
    if impliesProduct previous token then
      .times :: token :: writeProducts (some token) rest
    else token :: writeProducts (some token) rest

@[simp] theorem writeProducts_nil (previous : Option Token) :
    writeProducts previous [] = [] := rfl

/-- The tokens of an expression: its lexemes, and a product wherever one is
meant. -/
def tokenize (expression : Option String) : Except Failure (List Token) := do
  let lexemes ← lexemes expression
  return writeProducts none lexemes

end Calculator

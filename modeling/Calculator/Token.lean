import Calculator.Text.Blank

/-!
# Tokens

The units that an expression is made of.  A token keeps its text: the digits
of a number, the name of a constant or function, the symbol of an operator.
Tokens may come from anywhere, so a text need not fit its kind.
-/

namespace Calculator

inductive Token.Kind where
  | number
  | constant
  | operator
  | function
  | leftParen
  | rightParen
  | bar
  deriving DecidableEq, Repr

structure Token where
  kind : Token.Kind
  text : String
  deriving DecidableEq, Repr

namespace Token

def Kind.name : Kind → String
  | number => "number"
  | constant => "constant"
  | operator => "operator"
  | function => "function"
  | leftParen => "left_paren"
  | rightParen => "right_paren"
  | bar => "abs_bar"

def Kind.all : List Kind :=
  [number, constant, operator, function, leftParen, rightParen, bar]

def Kind.ofName? (name : String) : Option Kind :=
  Kind.all.find? fun kind => kind.name = name

@[simp] theorem Kind.ofName?_name (kind : Kind) : Kind.ofName? kind.name = some kind := by
  cases kind <;> rfl

def leftParen : Token := ⟨.leftParen, "("⟩

def rightParen : Token := ⟨.rightParen, ")"⟩

def bar : Token := ⟨.bar, "|"⟩

def times : Token := ⟨.operator, "*"⟩

/-- The minus sign in front of an operand. -/
def negation : Token := ⟨.operator, "u-"⟩

/-- The function that a pair of bars stands for. -/
def magnitude : Token := ⟨.function, "abs"⟩

def isOperand (token : Token) : Bool :=
  token.kind = .number || token.kind = .constant

def isNegation (token : Token) : Bool :=
  token.kind = .operator && token.text = negation.text

theorem isNegation_of_ne {symbol : String} (h : symbol ≠ negation.text) :
    isNegation ⟨.operator, symbol⟩ = false := by
  simp [isNegation, h]

def texts (tokens : List Token) : List String :=
  tokens.map text

/-- Tokens on one line, a blank between any two. -/
def line (tokens : List Token) : String :=
  Text.join " " (texts tokens)

end Token

end Calculator

import Calculator.Session
import Calculator.Tool.Capability

/-!
# Expressions as a capability

Four tools: to evaluate an expression, to split it into tokens, to put it in
postfix order, and to list what expressions may use.
-/

namespace Calculator.ExpressionTools

def expressionSchema : Value :=
  .record
    [("type", .text "string"),
      ("description",
        .text "Infix expression, e.g. '2sin(30) + |2-5|^2'. Commas are ignored.")]

def unitSchema : Value :=
  .record
    [("type", .text "string"),
      ("description", .text "Angle unit for trigonometric functions."),
      ("enum", .list [.text "deg", .text "rad"])]

/-- The schema of a record with the given fields, some of them required. -/
def recordSchema (properties : Fields Value) (required : List String) : Value :=
  .record
    ([("type", .text "object"), ("properties", .record properties)] ++
      if required.isEmpty then [] else [("required", .list (required.map .text))])

def tools : List Tool :=
  [{ name := "calc_evaluate"
     description :=
      "Evaluate an infix expression with + - * / % ^, parentheses, |x|, " ++
        "functions (sin, cos, tan, asin, acos, atan, log, ln, sqrt, abs, exp) " ++
        "and constants π and e. Implicit multiplication such as 2π is supported."
     schema :=
      recordSchema [("expression", expressionSchema), ("angle_mode", unitSchema)]
        ["expression"] },
    { name := "calc_tokenize"
      description := "Split an expression into tokens, including inferred multiplications."
      schema := recordSchema [("expression", expressionSchema)] ["expression"] },
    { name := "calc_to_postfix"
      description := "Convert an expression to postfix (Reverse Polish) order."
      schema := recordSchema [("expression", expressionSchema)] ["expression"] },
    { name := "calc_list_functions"
      description := "List supported functions, constants and operators."
      schema := recordSchema [] [] }]

/-! ### What expressions may use -/

def functionListing : Fields Value :=
  NamedFunction.all.map fun f =>
    (f.name,
      .record [("description", .text f.description), ("angle_sensitive", .truth f.angleSensitive)])

def constantListing : Fields Value :=
  Constant.all.map fun constant => (constant.symbol, .number constant.value)

def operatorListing : Fields Value :=
  Operator.standard.map fun (symbol, operator) =>
    (symbol,
      .record
        [("precedence", .whole operator.precedence),
          ("associativity", .text operator.associativity.name),
          ("arity", .whole (Operator.arity symbol))])

def listing : Value :=
  .record
    [("functions", .record functionListing), ("constants", .record constantListing),
      ("operators", .record operatorListing)]

/-! ### Calls -/

/-- The field of the arguments with the given name, which must be a record. -/
def argument (arguments : Value) (name : String) : Except Failure Value :=
  match arguments with
  | .record fields => .ok ((Fields.get? fields name).getD .null)
  | other => .error (.notRecord other)

/-- The expression among the arguments, which must be a text. -/
def requireExpression (arguments : Value) : Except Failure String := do
  match ← argument arguments "expression" with
  | .text expression => .ok expression
  | .null => .error (.refusal .missingExpression)
  | other => .error (.refusal (.expressionNotText other))

/-- Evaluates an expression under the unit given, or the one of the settings,
and says how the value came about. -/
def evaluate (settings : Except Failure Settings) (expression : Option String) (given : Value) :
    Except Failure Outcome := do
  let unit ← AngleUnit.resolve settings given
  let trace ← Trace.ofExpression expression unit
  return {
    result := .record
      [("value", .ofNumber trace.result), ("is_finite", .truth trace.isFinite),
        ("angle_mode", .text unit.label),
        ("postfix", .list ((Token.texts trace.ordered).map .text))]
    shape := []
    itemType := "float64" }

def tokenData (token : Token) : Value :=
  .record [("kind", .text token.kind.name), ("text", .text token.text)]

def handle (settings : Except Failure Settings) (tool : String) (arguments : Value) :
    Except Failure Outcome := do
  if tool = "calc_evaluate" then
    let expression ← requireExpression arguments
    let given ← argument arguments "angle_mode"
    evaluate settings (some expression) given
  else if tool = "calc_tokenize" then
    let tokens ← tokenize (some (← requireExpression arguments))
    return { result := .list (tokens.map tokenData), shape := [tokens.length], itemType := "token" }
  else if tool = "calc_to_postfix" then
    let tokens ← tokenize (some (← requireExpression arguments))
    let ordered ← Postfix.ofInfix .standard tokens
    return {
      result := .list ((Token.texts ordered).map .text)
      shape := [ordered.length]
      itemType := "token" }
  else if tool = "calc_list_functions" then
    return { result := listing, shape := [], itemType := "object" }
  else .error (.refusal (.unknownTool tool))

/-- Expressions as a capability. -/
def capability : Capability where
  name := "expression"
  description :=
    "Evaluate infix calculator expressions with precedence, functions and angle modes"
  tools := tools
  handle := handle

end Calculator.ExpressionTools

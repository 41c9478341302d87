import Calculator.AngleUnit
import Calculator.NamedFunction
import Calculator.Setting
import Calculator.Token
import Calculator.Value

/-!
# Failures

Everything that can go wrong, by its cause.  The causes in the first group are
faults of an expression; each belongs to one of three kinds and has a reason
that programs can read.  The others are requests that cannot be met, settings
that make no sense, and look-ups that find nothing.

The wording of every failure is here and nowhere else.
-/

namespace Calculator

open Calculator.Text

/-! ### Faults of an expression -/

/-- The kinds of faults that a caller is told. -/
inductive FaultKind where
  | form
  | domain
  | arithmetic
  deriving DecidableEq, Repr

def FaultKind.name : FaultKind → String
  | form => "syntax"
  | domain => "domain"
  | arithmetic => "arithmetic"

/-- The reasons behind faults, as programs read them. -/
inductive FaultReason where
  | invalidCharacter
  | invalidNumber
  | mismatchedParentheses
  | unbalancedBars
  | insufficientOperands
  | malformedExpression
  | negativeRoot
  | nonPositiveLogarithm
  | outsideUnitInterval
  | zeroDivisor
  deriving DecidableEq, Repr

namespace FaultReason

def name : FaultReason → String
  | invalidCharacter => "invalid_character"
  | invalidNumber => "invalid_number"
  | mismatchedParentheses => "mismatched_parentheses"
  | unbalancedBars => "unbalanced_absolute_value"
  | insufficientOperands => "insufficient_operands"
  | malformedExpression => "malformed_expression"
  | negativeRoot => "sqrt_of_negative"
  | nonPositiveLogarithm => "log_of_non_positive"
  | outsideUnitInterval => "inverse_trig_out_of_range"
  | zeroDivisor => "division_by_zero"

def all : List FaultReason :=
  [invalidCharacter, invalidNumber, mismatchedParentheses, unbalancedBars, insufficientOperands,
    malformedExpression, negativeRoot, nonPositiveLogarithm, outsideUnitInterval, zeroDivisor]

def ofName? (name : String) : Option FaultReason :=
  all.find? fun reason => reason.name = name

@[simp] theorem ofName?_name (reason : FaultReason) : ofName? reason.name = some reason := by
  cases reason <;> rfl

/-- The kind of fault that a reason leads to. -/
def kind : FaultReason → FaultKind
  | invalidCharacter | invalidNumber | mismatchedParentheses | unbalancedBars
  | insufficientOperands | malformedExpression => .form
  | negativeRoot | nonPositiveLogarithm | outsideUnitInterval => .domain
  | zeroDivisor => .arithmetic

end FaultReason

/-- Why an expression has no value. -/
inductive Fault where
  | invalidCharacter (c : Char) (position : Nat)
  | invalidNumber (position : Nat)
  /-- A right parenthesis that closes nothing. -/
  | unopened
  /-- Left parentheses that are never closed. -/
  | unclosed (count : Nat)
  /-- A left parenthesis that is still open when the tokens end. -/
  | leftOpen
  | unbalancedBars
  | insufficientOperands (token : Token) (needed available : Nat)
  /-- A token that has no place among operands and operators. -/
  | strayToken (token : Token)
  | leftover (size : Nat)
  | negativeRoot (operand : Float)
  | nonPositiveLogarithm (function : NamedFunction) (operand : Float)
  | outsideUnitInterval (function : NamedFunction) (operand : Float)
  | zeroDivisor (symbol : String) (left : Float)

namespace Fault

def reason : Fault → FaultReason
  | invalidCharacter .. => .invalidCharacter
  | invalidNumber _ => .invalidNumber
  | unopened | unclosed _ | leftOpen => .mismatchedParentheses
  | unbalancedBars => .unbalancedBars
  | insufficientOperands .. => .insufficientOperands
  | strayToken _ | leftover _ => .malformedExpression
  | negativeRoot _ => .negativeRoot
  | nonPositiveLogarithm .. => .nonPositiveLogarithm
  | outsideUnitInterval .. => .outsideUnitInterval
  | zeroDivisor .. => .zeroDivisor

def kind (fault : Fault) : FaultKind :=
  fault.reason.kind

def message : Fault → String
  | invalidCharacter c _ => "Invalid character: " ++ quoted (String.ofList [c])
  | invalidNumber _ => "Number has no digits: '.'"
  | unopened => "Mismatched parentheses: ')' without matching '('"
  | unclosed count => "Mismatched parentheses: " ++ natText count ++ " unclosed '('"
  | leftOpen => "Mismatched parentheses: unclosed '('"
  | unbalancedBars => "Unbalanced absolute value: '|' is never closed"
  | insufficientOperands token needed available =>
    "Syntax error: '" ++ token.text ++ "' needs " ++ natText needed ++ " operand(s), found " ++
      natText available
  | strayToken token => "Unexpected token in postfix sequence: '" ++ token.text ++ "'"
  | leftover size => "Syntax error: expression leaves " ++ natText size ++ " values instead of 1"
  | negativeRoot x =>
    "Domain error: sqrt requires a non-negative operand, got " ++ Number.text x
  | nonPositiveLogarithm f x =>
    "Domain error: " ++ f.name ++ " requires a positive operand, got " ++ Number.text x
  | outsideUnitInterval f x =>
    "Domain error: " ++ f.name ++ " requires an operand in [-1, 1], got " ++ Number.text x
  | zeroDivisor symbol _ => if symbol = "/" then "Division by zero" else "Modulo by zero"

/-- What a fault tells beyond its kind and reason. -/
def particulars : Fault → Fields Value
  | invalidCharacter c position =>
    [("character", .text (String.ofList [c])), ("position", .whole position)]
  | invalidNumber position => [("position", .whole position)]
  | unopened | unclosed _ | leftOpen | unbalancedBars => []
  | insufficientOperands token needed available =>
    [("token", .text token.text), ("needed", .whole needed), ("available", .whole available)]
  | strayToken token => [("token", .text token.text), ("kind", .text token.kind.name)]
  | leftover size => [("stack_size", .whole size)]
  | negativeRoot x => [("function", .text NamedFunction.sqrt.name), ("operand", .number x)]
  | nonPositiveLogarithm f x | outsideUnitInterval f x =>
    [("function", .text f.name), ("operand", .number x)]
  | zeroDivisor symbol left => [("operator", .text symbol), ("left", .number left)]

end Fault

/-- The details of a classified failure: its kind, its reason and then the
particulars, fit for data exchange.  A particular with the name of an earlier
detail replaces it. -/
def classifiedDetails (kind : FaultKind) (reason : FaultReason) (particulars : Fields Value) :
    Fields Value :=
  Fields.update [("kind", .text kind.name), ("reason", .text reason.name)]
    (particulars.map fun field => (field.1, field.2.exchangeable))

def Fault.details (fault : Fault) : Fields Value :=
  classifiedDetails fault.kind fault.reason fault.particulars

/-! ### Requests that cannot be met -/

/-- Why a request is refused before anything is computed. -/
inductive Refusal where
  | unknownAngleUnit (value : Value)
  | missingExpression
  | expressionNotText (value : Value)
  | unknownTool (name : String)
  | unregisteredTool (name : String)
  /-- A body that is no JSON, in the words of its reader. -/
  | bodyNotJson (words : String)

namespace Refusal

def message : Refusal → String
  | unknownAngleUnit value =>
    "Unknown angle mode: " ++ value.quoted ++ ". Supported: 'deg', 'rad'"
  | missingExpression => "Missing required argument: expression"
  | expressionNotText value =>
    "Argument 'expression' must be a string, got " ++ value.typeName
  | unknownTool name => "Unknown tool: " ++ name
  | unregisteredTool name => "Unknown tool: '" ++ name ++ "'"
  | bodyNotJson words => "Request body is not valid JSON: " ++ words

def details : Refusal → Fields Value
  | unknownAngleUnit value => [("angle_mode", .text value.shown)]
  | _ => []

end Refusal

/-! ### Settings that make no sense -/

/-- Why settings cannot be read. -/
inductive Misconfiguration where
  | unknownLevel (name : String)
  | unknownAngleUnit (name : String)
  | notTruth (raw : String)
  | notInteger (setting : Setting) (raw : String)
  | portOutOfRange (setting : Setting) (port : Int)
  deriving DecidableEq, Repr

namespace Misconfiguration

/-- The setting at fault. -/
def setting : Misconfiguration → Setting
  | unknownLevel _ => .logLevel
  | unknownAngleUnit _ => .angleUnit
  | notTruth _ => .logJson
  | notInteger setting _ | portOutOfRange setting _ => setting

def message : Misconfiguration → String
  | unknownLevel name => "Unknown log level: '" ++ name ++ "'"
  | unknownAngleUnit name =>
    "Unknown angle mode: '" ++ name ++ "'. Supported: ['deg', 'degrees', 'rad', 'radians']"
  | notTruth raw => Setting.logJson.variableName ++ " must be a boolean, got '" ++ raw ++ "'"
  | notInteger setting raw =>
    setting.variableName ++ " must be an integer, got '" ++ raw ++ "'"
  | portOutOfRange setting port =>
    setting.variableName ++ " out of range: " ++ intText port

def details (cause : Misconfiguration) : Fields Value :=
  [("variable", .text cause.setting.variableName)]

end Misconfiguration

/-! ### All failures -/

inductive Failure where
  | fault (cause : Fault)
  | refusal (cause : Refusal)
  | misconfiguration (cause : Misconfiguration)
  /-- A name that a table does not have. -/
  | missingKey (name : String)
  /-- A number token whose text is no number. -/
  | unreadableNumber (text : String)
  /-- Arguments that are no record. -/
  | notRecord (arguments : Value)
  | capabilityTaken (name : String)
  | toolTaken (tool capability : String)

def Failure.message : Failure → String
  | fault cause => cause.message
  | refusal cause => cause.message
  | misconfiguration cause => cause.message
  | missingKey name => quoted name
  | unreadableNumber text => "could not convert string to float: " ++ quoted text
  | notRecord arguments => "'" ++ arguments.typeName ++ "' object has no attribute 'get'"
  | capabilityTaken name => "Capability '" ++ name ++ "' already registered"
  | toolTaken tool capability =>
    "Tool '" ++ tool ++ "' already registered by capability '" ++ capability ++ "'"

/-- The unit of angles that a value gives. -/
def AngleUnit.ofValue (value : Value) : Except Failure AngleUnit :=
  let unit? := match value with
    | .text text => AngleUnit.ofText? text
    | _ => none
  match unit? with
  | some unit => .ok unit
  | none => .error (.refusal (.unknownAngleUnit value))

end Calculator

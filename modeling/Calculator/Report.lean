import Calculator.Failure

/-!
# Reports of failures

What a client is told about a failure: a code, the message, details and what to
do about it.  Tool clients and web clients get the same in different records.
-/

namespace Calculator

/-- What part of a request is wrong, and how. -/
structure SchemaProblem where
  location : List String
  message : String
  deriving DecidableEq, Repr

/-- The classes of failures that reports tell apart. -/
inductive Report.Category where
  | classified (kind : FaultKind) (reason : FaultReason)
  | invalidInput
  | configuration
  /-- A failure that brings its own code. -/
  | coded (code : String)
  | validation
  /-- A failure that the program was not prepared for, by its type. -/
  | internal (typeName : String)
  deriving DecidableEq, Repr

structure Report where
  category : Report.Category
  message : String
  details : Fields Value

namespace Report

/-- The code of a category. -/
def Category.code : Category → String
  | classified .form _ => "SYNTAX_ERROR"
  | classified .domain _ => "DOMAIN_ERROR"
  | classified .arithmetic _ => "ARITHMETIC_ERROR"
  | invalidInput => "INVALID_INPUT"
  | configuration => "CONFIGURATION_ERROR"
  | coded code => code
  | validation => "PYDANTIC_VALIDATION_ERROR"
  | internal _ => "INTERNAL_ERROR"

/-- What to do about a failure with the given code. -/
def recoveryFor (code : String) : String :=
  if code = "SYNTAX_ERROR" then
    "Check the expression: every '(' and '|' must be closed and every operator needs operands on both sides."
  else if code = "DOMAIN_ERROR" then
    "A function received a value outside its domain (sqrt of a negative, log of a non-positive, asin/acos outside [-1, 1])."
  else if code = "ARITHMETIC_ERROR" then
    "The expression divides or takes a modulo by zero. Change the divisor."
  else if code = "INVALID_INPUT" then
    "Check the request arguments: 'expression' must be a string and 'angle_mode' one of 'deg' or 'rad'."
  else if code = "CONFIGURATION_ERROR" then
    "Fix the CALCENGINE_* environment variables and restart the service."
  else "Review the error message, adjust the request, and try again."

def Category.recovery : Category → String
  | validation => "Check the error details and provide valid input according to the schema."
  | internal _ => "An unexpected error occurred. Please report this issue if it persists."
  | category => recoveryFor category.code

/-- The status of a web answer. -/
def Category.status : Category → Nat
  | classified .. | invalidInput | coded _ => 400
  | validation => 422
  | configuration | internal _ => 500

/-! ### Reports by category -/

/-- A classified failure.  Particulars come after kind and reason. -/
def classified (kind : FaultKind) (reason : FaultReason) (message : String)
    (particulars : Fields Value) : Report where
  category := .classified kind reason
  message := message
  details := classifiedDetails kind reason particulars

def internal (typeName message : String) : Report where
  category := .internal typeName
  message := message
  details := [("exception_type", .text typeName)]

def validation (problems : List SchemaProblem) : Report where
  category := .validation
  message := "Validation failed: " ++ Text.natText problems.length ++ " error(s)"
  details :=
    [("errors",
      .list (problems.map fun problem =>
        .record
          [("loc", .list (problem.location.map .text)), ("msg", .text problem.message)]))]

/-- The report of a failure. -/
def ofFailure (failure : Failure) : Report :=
  match failure with
  | .fault cause => classified cause.kind cause.reason cause.message cause.particulars
  | .refusal cause => ⟨.invalidInput, cause.message, cause.details⟩
  | .misconfiguration cause => ⟨.configuration, cause.message, cause.details⟩
  | .missingKey _ => internal "KeyError" failure.message
  | .notRecord _ => internal "AttributeError" failure.message
  | .unreadableNumber _ | .capabilityTaken _ | .toolTaken .. =>
    internal "ValueError" failure.message

/-! ### Reports as data -/

/-- The details, or nothing if there are none. -/
def shownDetails (report : Report) : Value :=
  if report.details.isEmpty then .null else .record report.details

/-- A report for tool clients. -/
def toToolFields (report : Report) : Fields Value :=
  [("status", .text "error"), ("error_code", .text report.category.code),
    ("message", .text report.message), ("details", report.shownDetails),
    ("recovery_strategy", .text report.category.recovery)]

/-- A report for web clients. -/
def toWebFields (report : Report) : Fields Value :=
  [("status", .text "error"),
    ("error",
      .record
        [("code", .text report.category.code), ("message", .text report.message),
          ("details", report.shownDetails), ("recovery", .text report.category.recovery)])]

end Report

end Calculator

import Calculator.Json.Datum
import Calculator.Report
import Calculator.Tool.Expression

/-!
# Expressions in points

An expression that comes in a body may hold halves of surrogate pairs.  A half is
no blank and in no lexeme, so the scan reads what stands in front of the first
half as it would alone, and stops there.  Nothing behind it matters, and an
expression without halves is one like any other.
-/

namespace Calculator

open Calculator.Text Calculator.Json

/-- Why an expression in points has no value. -/
inductive Stop where
  | failure (cause : Failure)
  /-- A half where a character should be. -/
  | half (half : Half) (position : Nat)

namespace Stop

/-- Where the scan stops if the characters in front of the first half are these:
at a fault among them, or at the half.  Its position is that in the cleaned
text. -/
def behind (front : List Char) (half : Half) : Stop :=
  match lexemes (some (String.ofList front)) with
  | .error cause => .failure cause
  | .ok _ => .half half ((front.filter (· != ',')).dropWhile isBlank).length

def category : Stop → Report.Category
  | failure cause => (Report.ofFailure cause).category
  | half .. => .classified .form .invalidCharacter

def message : Stop → String
  | failure cause => cause.message
  | half h _ => "Invalid character: " ++ h.quoted

/-- What is told besides the message: of a half what is told of any character
that cannot be read. -/
def details : Stop → Datum
  | failure cause => .ofValue (Report.ofFailure cause).shownDetails
  | half h position =>
    .record
      (Datum.ofFields (classifiedDetails .form .invalidCharacter []) ++
        [("character", .text [.half h]), ("position", .whole position)].map Datum.written)

/-- A stop for web clients. -/
def toWebDatum (stop : Stop) : Datum :=
  let error :=
    [("code", .text (points stop.category.code)), ("message", .text (points stop.message)),
      ("details", stop.details), ("recovery", .text (points stop.category.recovery))]
  .record ([("status", .text (points "error")), ("error", .record (error.map Datum.written))].map
    Datum.written)

end Stop

/-- The value of an expression in points under a unit of angles. -/
def evaluatePoints (expression : List Point) (unit : AngleUnit) : Except Stop Float :=
  match splitHalf expression with
  | (text, none) => (evaluate (some (String.ofList text)) unit).mapError .failure
  | (front, some half) => .error (.behind front half)

/-- Evaluates an expression in points like one that is a text of the program. -/
def ExpressionTools.evaluatePoints (settings : Except Failure Settings) (expression : List Point)
    (given : Value) : Except Stop Outcome :=
  match splitHalf expression with
  | (text, none) => (evaluate settings (some (String.ofList text)) given).mapError .failure
  | (front, some half) => do
    let _ ← (AngleUnit.resolve settings given).mapError .failure
    .error (.behind front half)

end Calculator

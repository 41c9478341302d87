import Calculator.Fields

/-!
# Levels

How grave a message is, in numbers.  A log prints what is at least as grave as
its threshold; a threshold of zero is none, and the one of warnings is used.
-/

namespace Calculator.Log

inductive Level where
  | debug
  | info
  | warning
  | error
  | critical
  deriving DecidableEq, Repr

namespace Level

def number : Level → Int
  | debug => 10
  | info => 20
  | warning => 30
  | error => 40
  | critical => 50

def name : Level → String
  | debug => "DEBUG"
  | info => "INFO"
  | warning => "WARNING"
  | error => "ERROR"
  | critical => "CRITICAL"

/-- Whether a message passes a threshold. -/
def passes (level : Level) (threshold : Int) : Bool :=
  (if threshold = 0 then warning.number else threshold) ≤ level.number

end Level

/-- The names by which a threshold is set. -/
def thresholdNames : Fields Int :=
  [("CRITICAL", 50), ("FATAL", 50), ("ERROR", 40), ("WARN", 30), ("WARNING", 30), ("INFO", 20),
    ("DEBUG", 10), ("NOTSET", 0)]

end Calculator.Log

import Calculator.Log.Record
import Calculator.Number.Rounding

/-!
# Timed calls

A call is logged when it starts, with its arguments cut to a reasonable
length, and when it ends, with the seconds it took, to four places.
-/

namespace Calculator.Log

/-- The most characters of an argument that are logged. -/
def longestArgument : Nat :=
  500

/-- An argument as it is logged. -/
def truncate (value : Value) : String :=
  let shown := value.shown.toList
  if shown.length > longestArgument then
    String.ofList (shown.take longestArgument) ++ "...(truncated)"
  else value.shown

/-- How a call ended: in order, or by an error of some type. -/
inductive CallEnd where
  | completed
  | failed (message typeName : String)

/-- The entries of a call between two readings of the clock. -/
def callEntries (name : String) (positional : List Value) (keyed : Fields Value)
    (started ended : Float) (callEnd : CallEnd) : List Entry :=
  let duration : Value := .number (Number.roundTo 4 (ended - started))
  let start : Entry :=
    { level := .debug
      message := "Starting " ++ name
      fields :=
        [("args", .list (positional.map fun value => .text (truncate value))),
          ("kwargs", .record (keyed.map fun field => (field.1, .text (truncate field.2))))] }
  match callEnd with
  | .completed =>
    [start,
      { level := .info
        message := "Completed " ++ name
        fields := [("duration_seconds", duration), ("success", .truth true)] }]
  | .failed message typeName =>
    [start,
      { level := .error
        message := "Failed " ++ name
        fields :=
          [("duration_seconds", duration), ("error", .text message),
            ("error_type", .text typeName), ("success", .truth false)] }]

end Calculator.Log

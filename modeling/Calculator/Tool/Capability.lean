import Calculator.Settings

/-!
# Tools and capabilities

A tool is something that a client can call by name, with arguments in a record.
A capability offers tools and answers the calls to them.
-/

namespace Calculator

structure Tool where
  name : String
  description : String
  /-- The form of the arguments, as a JSON schema. -/
  schema : Value
  handler : String := "handle"

/-- The result of a call, with its shape and the type of its items. -/
structure Outcome where
  result : Value
  shape : List Int
  itemType : String

/-- The result as data.  A double that stands on its own is made fit for data
exchange. -/
def Outcome.toFields (outcome : Outcome) : Fields Value :=
  [("result", outcome.result.exchangeable), ("shape", .list (outcome.shape.map .whole)),
    ("dtype", .text outcome.itemType)]

structure Capability where
  name : String
  description : String
  tools : List Tool
  /-- The answer to a call of a tool with arguments, given the settings or why
  there are none. -/
  handle : Except Failure Settings → String → Value → Except Failure Outcome

end Calculator

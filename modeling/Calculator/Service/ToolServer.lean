import Calculator.Json.Writer
import Calculator.Report
import Calculator.Tool.Registry

/-!
# The tool server

Clients list the tools and call them; every call is answered by a text, also
one that fails.  One tool is the server's own and tells that it is there.
-/

namespace Calculator.ToolServer

def serviceName : String :=
  "calcengine"

def ping : Tool where
  name := "ping"
  description := "Health check - returns server status"
  schema := ExpressionTools.recordSchema [] []

def list (registry : Registry) : List Tool :=
  ping :: registry.tools.map Prod.snd

/-- The answer to a call as data.  Listings stand alone; other results come with
their shape and type. -/
def answer (registry : Registry) (settings : Except Failure Settings) (tool : String)
    (arguments : Value) : Value :=
  if tool = ping.name then
    .record [("status", .text "ok"), ("service", .text serviceName)]
  else if registry.has tool then
    let given := if arguments.isGiven then arguments else .record []
    match registry.handle settings tool given with
    | .ok outcome =>
      if outcome.itemType = "object" then outcome.result else .record outcome.toFields
    | .error failure => .record (Report.ofFailure failure).toToolFields
  else
    .record
      [("status", .text "error"), ("error_code", .text "UNKNOWN_TOOL"),
        ("message", .text ("Unknown tool: " ++ tool))]

/-- The texts that answer a call. -/
def call (registry : Registry) (settings : Except Failure Settings) (tool : String)
    (arguments : Value) : List String :=
  [Json.write .indented (answer registry settings tool arguments)]

end Calculator.ToolServer

import Calculator.CommandLine
import Calculator.Log.Record
import Calculator.Report

/-!
# Starting a server

A server reads its settings, then its arguments, says in its log where it
listens, serves, and says how that came to an end.
-/

namespace Calculator.Startup

inductive Server where
  | web
  | tools
  deriving DecidableEq, Repr

/-- How serving ended: by itself, by a user, or by an error of some type. -/
inductive Ending where
  | returned
  | interrupted
  | failed (message typeName : String)

/-- What a start leaves behind: the exit status, unless the program ran to its
end; where it served; what it logged; and what it said about its arguments. -/
structure Outcome where
  exit : Option Nat
  served : List (Value × Value) := []
  log : List Log.Entry := []
  err : String := ""

def hostOption : CommandOption :=
  { names := ["--host"], value? := some fun text => .ok (.text text) }

def portOption : CommandOption :=
  { names := ["--port"]
    value? := some fun text =>
      match Number.integer? text with
      | some port => .ok (.whole port)
      | none => .error ("invalid int value: " ++ Text.quoted text) }

def info (message : String) (fields : Fields Value := []) : Log.Entry :=
  { level := .info, message, fields }

def error (message : String) (fields : Fields Value) : Log.Entry :=
  { level := .error, message, fields }

/-- A line across the log. -/
def rule : Log.Entry :=
  info (String.ofList (List.replicate 70 '='))

/-- An address under the host and port. -/
def address (host port : Value) (path : String) : String :=
  "http://" ++ host.shown ++ ":" ++ port.shown ++ path

/-- What a server says before it serves. -/
def greeting (server : Server) (settings : Settings) (host port : Value) : List Log.Entry :=
  match server with
  | .web =>
    [rule, info "STARTING CALCENGINE WEB SERVER", rule,
      info "Configuration" [("host", host), ("port", port)],
      info ("Evaluate: POST " ++ address host port "/evaluate"),
      info ("Health check: " ++ address host port "/health"), rule]
  | .tools =>
    [rule, info "STARTING CALCENGINE MCP SERVER", rule,
      info "Configuration"
        [("host", host), ("port", port), ("transport", .text "HTTP Streamable"),
          ("default_angle_mode", .text settings.angleName)],
      info ("MCP endpoint: " ++ address host port "/mcp"), rule]

/-- What a server says when it has served, and its exit status. -/
def farewell (server : Server) (ending : Ending) : Log.Entry × Option Nat :=
  match server, ending with
  | .web, .returned => (info "Web server shutdown complete", none)
  | .tools, .returned => (info "MCP server shutdown complete", none)
  | .web, .interrupted => (info "Web server stopped by user", some 0)
  | .tools, .interrupted => (info "Shutdown complete", some 0)
  | .web, .failed message typeName =>
    (error "Failed to start web server"
      [("error", .text message), ("error_type", .text typeName)], some 1)
  | .tools, .failed message typeName =>
    (error "Failed to start server"
      [("error", .text message), ("error_type", .text typeName)], some 1)

def Server.defaultPort (server : Server) (settings : Settings) : Nat :=
  match server with
  | .web => settings.webPort
  | .tools => settings.mcpPort

/-- A whole start, given how serving ends once it has begun. -/
def run (server : Server) (settings : Except Failure Settings) (arguments : List String)
    (ending : Ending) : Outcome :=
  match settings with
  | .error failure =>
    let report := Report.ofFailure failure
    { exit := some 1
      log :=
        [error "FATAL: Invalid configuration"
          (("error", .text report.message) :: report.details)] }
  | .ok settings =>
    match Arguments.read [Arguments.help, hostOption, portOption] false arguments with
    | .error problem =>
      let refusal := CommandLine.refuse problem.message
      { exit := some refusal.status, err := refusal.err }
    | .ok none => { exit := some 0 }
    | .ok (some parsed) =>
      let host := (parsed.values.lookup "--host").getD (.text "0.0.0.0")
      let port := (parsed.values.lookup "--port").getD (.whole (server.defaultPort settings))
      let (last, exit) := farewell server ending
      { exit
        served := [(host, port)]
        log := greeting server settings host port ++ [last] }

end Calculator.Startup

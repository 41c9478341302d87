/-!
# Settings by name

The settings that the surroundings may fix, and the variables they are read
from.
-/

namespace Calculator

inductive Setting where
  | logLevel
  | logFile
  | logJson
  | angleUnit
  | mcpPort
  | webPort
  deriving DecidableEq, Repr

def Setting.all : List Setting :=
  [logLevel, logFile, logJson, angleUnit, mcpPort, webPort]

def Setting.variableName : Setting → String
  | logLevel => "CALCENGINE_LOG_LEVEL"
  | logFile => "CALCENGINE_LOG_FILE"
  | logJson => "CALCENGINE_LOG_JSON"
  | angleUnit => "CALCENGINE_ANGLE_MODE"
  | mcpPort => "CALCENGINE_MCP_PORT"
  | webPort => "CALCENGINE_WEB_PORT"

end Calculator

import Calculator.CommandLine

/-!
# The program

Reads the variables, the arguments and, line by line, the input, and leaves the
rest to the library.
-/

namespace Calculator.Main

/-- The variables of the process that settings are read from. -/
def environment : IO Environment := do
  let found ← Setting.all.filterMapM fun setting => do
    return (← IO.getEnv setting.variableName).map (setting.variableName, ·)
  return fun name => found.lookup name

/-- Answers the lines of the input until one of them, or the input, ends the
dialogue. -/
partial def converse (session : Session) : IO UInt32 := do
  let line ← (← IO.getStdin).getLine
  if line.isEmpty then return 0
  if Text.trim line = "" then converse session
  else
    match session.respond line with
    | (.ok none, _) => return 0
    | (.ok (some answer), session) =>
      IO.println answer
      (← IO.getStdout).flush
      converse session
    | (.error failure, _) =>
      IO.eprintln failure.message
      return 1

end Calculator.Main

def main (arguments : List String) : IO UInt32 := do
  let settings := Calculator.Settings.ofEnvironment (← Calculator.Main.environment)
  match Calculator.CommandLine.plan settings arguments with
  | .error failure =>
    IO.eprintln failure.message
    return 1
  | .ok (.dialogue session) => Calculator.Main.converse session
  | .ok (.done outcome) =>
    IO.print outcome.out
    IO.eprint outcome.err
    return UInt32.ofNat outcome.status

import Calculator.Arguments
import Calculator.Session

/-!
# The command line calculator

Expressions among the arguments are evaluated one after the other, their values
going to one stream and their faults to another.  Without any, the lines of the
input are a dialogue.
-/

namespace Calculator.CommandLine

/-- The name that messages about arguments start with. -/
def programName : String :=
  "calcengine"

/-- What a run of a program leaves behind. -/
structure Outcome where
  status : Nat
  out : String := ""
  err : String := ""
  deriving DecidableEq, Repr

/-- Texts on lines of their own. -/
def lines (texts : List String) : String :=
  String.join (texts.map (· ++ "\n"))

/-- The end of a run whose arguments make no sense. -/
def refuse (message : String) : Outcome :=
  { status := 2, err := programName ++ ": error: " ++ message ++ "\n" }

def unitOption : CommandOption :=
  { names := ["--angle-mode"], value? := some fun text => .ok (.text text) }

/-- Expressions one after the other: the lines for values and the lines for
faults. -/
def batch (unit : AngleUnit) : List String → Except Failure (List String × List String)
  | [] => .ok ([], [])
  | expression :: rest =>
    match evaluate (some expression) unit with
    | .ok x => do
      let (values, faults) ← batch unit rest
      return (Number.text x :: values, faults)
    | .error (.fault fault) => do
      let (values, faults) ← batch unit rest
      return (values, (fault.kind.name ++ " error: " ++ fault.message) :: faults)
    | .error failure => .error failure

/-- The outcome of expressions one after the other. -/
def batchOutcome (unit : AngleUnit) (expressions : List String) : Except Failure Outcome := do
  let (values, faults) ← batch unit expressions
  return { status := if faults.isEmpty then 0 else 1, out := lines values, err := lines faults }

/-- What the arguments ask for: nothing more than they bring, or a dialogue. -/
inductive Plan where
  | done (outcome : Outcome)
  | dialogue (session : Session)

/-- The plan of a run.  A unit that is not known is an error of the arguments,
while settings that cannot be read end the run by themselves. -/
def plan (settings : Except Failure Settings) (arguments : List String) : Except Failure Plan :=
  match Arguments.read [Arguments.help, unitOption] true arguments with
  | .error problem => .ok (.done (refuse problem.message))
  | .ok none => .ok (.done { status := 0 })
  | .ok (some parsed) =>
    match Session.start settings ((parsed.values.lookup "--angle-mode").getD .null) with
    | .error (.refusal cause) => .ok (.done (refuse cause.message))
    | .error failure => .error failure
    | .ok session =>
      match parsed.row.getD [] with
      | [] => .ok (.dialogue session)
      | expressions => (batchOutcome session.unit expressions).map .done

/-- The outcome of a dialogue: its answers on lines of their own. -/
def converse (session : Session) (input : List String) : Except Failure Outcome := do
  let (answers, _) ← session.dialogue input
  return { status := 0, out := lines answers }

/-- A whole run on the lines of the input. -/
def run (settings : Except Failure Settings) (arguments input : List String) :
    Except Failure Outcome := do
  match ← plan settings arguments with
  | .done outcome => return outcome
  | .dialogue session => converse session input

end Calculator.CommandLine

import Calculator.Settings
import Calculator.Trace

/-!
# Sessions

A session holds the unit of angles for a row of evaluations.  It can be set,
toggled and read; evaluations use it and leave it alone.
-/

namespace Calculator

open Calculator.Text

/-- The unit that a value gives, or the settings if no value is given. -/
def AngleUnit.resolve (settings : Except Failure Settings) (given : Value) :
    Except Failure AngleUnit :=
  match given with
  | .null => do
    let settings ← settings
    AngleUnit.ofValue (.text settings.angleName)
  | value => AngleUnit.ofValue value

structure Session where
  unit : AngleUnit
  deriving DecidableEq, Repr

namespace Session

/-- A new session with the unit given, or the one of the settings. -/
def start (settings : Except Failure Settings) (given : Value) : Except Failure Session := do
  let unit ← AngleUnit.resolve settings given
  return { unit }

def toggle (session : Session) : Session :=
  { unit := session.unit.toggled }

/-- What a holder of the unit is called in listings. -/
def describe (session : Session) : String :=
  "AngleModeContext(" ++ session.unit.label ++ ")"

/-! ### Lines of a dialogue -/

def unitLine (unit : AngleUnit) : String :=
  "mode: " ++ unit.label

/-- The answer to an expression on one line: its value, or its fault.  A failure
that is no fault of the expression has no such line. -/
def answerLine (unit : AngleUnit) (expression : String) : Except Failure String :=
  match evaluate (some expression) unit with
  | .ok x => .ok (Number.text x)
  | .error (.fault fault) => .ok (fault.kind.name ++ " error: " ++ fault.message)
  | .error failure => .error failure

/-- Whether a line ends the dialogue. -/
def quits (command : String) : Bool :=
  command = ":quit" || command = ":q"

/-- The answer to a line, none if it ends the dialogue, and the session after
it.  A line is a command or an expression. -/
def respond (session : Session) (line : String) : Except Failure (Option String) × Session :=
  let command := trim line
  if quits command then (.ok none, session)
  else if command = ":deg" then (.ok (some (unitLine .degrees)), { unit := .degrees })
  else if command = ":rad" then (.ok (some (unitLine .radians)), { unit := .radians })
  else if command = ":mode" then (.ok (some (unitLine session.unit)), session)
  else if command = ":toggle" then (.ok (some (unitLine session.toggle.unit)), session.toggle)
  else ((answerLine session.unit command).map some, session)

/-- The answers to the lines of a dialogue up to its end, blank lines passed
over, and the session after it. -/
def dialogue (session : Session) : List String → Except Failure (List String × Session)
  | [] => .ok ([], session)
  | line :: rest =>
    if trim line = "" then dialogue session rest
    else
      match respond session line with
      | (.error failure, _) => .error failure
      | (.ok none, session) => .ok ([], session)
      | (.ok (some answer), session) => do
        let (answers, session) ← dialogue session rest
        return (answer :: answers, session)

/-! ### Requests to several sessions -/

inductive Request where
  | setUnit (value : Value)
  | toggle
  | readUnit
  | evaluate (expression : Option String)
  | trace (expression : Option String)
  | line (text : String)

inductive Answer where
  | nothing
  | unit (unit : AngleUnit)
  | number (x : Float)
  | trace (trace : Trace)
  /-- The answer to a line; none ends the dialogue. -/
  | line (text : Option String)

/-- The answer of a session to a request, and the session after it. -/
def answer (session : Session) : Request → Except Failure Answer × Session
  | .setUnit value =>
    match AngleUnit.ofValue value with
    | .ok unit => (.ok (.unit unit), { unit })
    | .error failure => (.error failure, session)
  | .toggle => (.ok (.unit session.toggle.unit), session.toggle)
  | .readUnit => (.ok (.unit session.unit), session)
  | .evaluate expression =>
    ((Calculator.evaluate expression session.unit).map .number, session)
  | .trace expression => ((Trace.ofExpression expression session.unit).map .trace, session)
  | .line text =>
    let (answer, session) := session.respond text
    (answer.map .line, session)

/-- Directs a request to one of several sessions; the others are left alone. -/
def answerAmong (sessions : List Session) (index : Nat) (request : Request) :
    Except Failure Answer × List Session :=
  match sessions[index]? with
  | none => (.ok .nothing, sessions)
  | some session =>
    let (answer, session) := session.answer request
    (answer, sessions.set index session)

end Session

end Calculator

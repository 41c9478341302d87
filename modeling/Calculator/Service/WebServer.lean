import Calculator.Json.Encoding
import Calculator.Json.Writer
import Calculator.Tool.Points

/-!
# The web server

A few pages tell what the server is and can do, and one evaluates expressions:
its body is a record with the expression and, if wanted, the unit of angles.

Answers are written without escapes for what is no ASCII character, so one that
tells a half of a surrogate pair has no bytes, and there is none.
-/

namespace Calculator.WebServer

open Calculator.Text Calculator.Json

structure Response where
  status : Nat
  body : String
  deriving DecidableEq, Repr

def serviceName : String :=
  "calcengine-web"

def version : String :=
  "0.1.0"

/-- An answer that tells a datum. -/
def render (status : Nat) (datum : Datum) : Except Unencodable Response := do
  let body ← encoded (datum.write .compact)
  return { status, body }

def json (status : Nat) (fields : Fields Value) : Except Unencodable Response :=
  render status (.ofValue (.record fields))

/-! ### Evaluation -/

/-- The body of an evaluation. -/
structure EvaluateRequest where
  expression : List Point
  unit : Option AngleUnit
  deriving DecidableEq, Repr

/-- What is wrong with a text that is needed as one of the program. -/
def notPlain : String :=
  "Input should be a valid string, unable to parse raw data as a unicode string"

/-- What is wrong with the field for the expression. -/
def expressionProblems (fields : Fields Datum) : List SchemaProblem :=
  match fields.get? "expression" with
  | some (.text _) => []
  | some _ => [⟨["expression"], "Input should be a valid string"⟩]
  | none => [⟨["expression"], "Field required"⟩]

/-- The unit that the field for it gives: none if there is no field, or an empty
one. -/
def unitField (fields : Fields Datum) : Except SchemaProblem (Option AngleUnit) :=
  match fields.get? "angle_mode" with
  | none | some .null => .ok none
  | some (.text name) =>
    match plain? name with
    | some "deg" => .ok (some .degrees)
    | some "rad" => .ok (some .radians)
    | some _ => .error ⟨["angle_mode"], "Input should be 'deg' or 'rad'"⟩
    | none => .error ⟨["angle_mode"], notPlain⟩
  | some _ => .error ⟨["angle_mode"], "Input should be 'deg' or 'rad'"⟩

def unitProblems (fields : Fields Datum) : List SchemaProblem :=
  match unitField fields with
  | .ok _ => []
  | .error problem => [problem]

/-- The fields that an evaluation does not have. -/
def excessProblems (fields : Fields Datum) : List SchemaProblem :=
  (fields.names.filter fun name => name != "expression" && name != "angle_mode").map fun name =>
    ⟨[name], "Extra inputs are not permitted"⟩

/-- Reads the fields of an evaluation, or lists all that is wrong with them. -/
def EvaluateRequest.ofFields (fields : Fields Datum) :
    Except (List SchemaProblem) EvaluateRequest :=
  let problems := expressionProblems fields ++ unitProblems fields ++ excessProblems fields
  match problems, fields.get? "expression", unitField fields with
  | [], some (.text expression), .ok unit => .ok { expression, unit }
  | _, _, _ => .error problems

/-- Reads the body of an evaluation, or lists all that is wrong with it.  A name
that is no text of the program is all that is told. -/
def EvaluateRequest.ofDatum (datum : Datum) : Except (List SchemaProblem) EvaluateRequest :=
  match datum with
  | .record fields =>
    match Datum.fields? fields with
    | some fields => ofFields fields
    | none => .error [⟨[], notPlain⟩]
  | _ => .error [⟨[], "Input should be a valid dictionary or instance of EvaluateRequest"⟩]

/-- The unit of a request as a value, for the tools to take. -/
def EvaluateRequest.given (request : EvaluateRequest) : Value :=
  match request.unit with
  | some unit => .text unit.name
  | none => .null

def refuse (report : Report) : Except Unencodable Response :=
  json report.category.status report.toWebFields

/-- Evaluates the expression of a body.  What the reader of bodies says of one that
it cannot read is given. -/
def evaluate (settings : Except Failure Settings) (words : List UInt8 → String)
    (body : List UInt8) : Except Unencodable Response :=
  match readBody? body with
  | none => refuse (Report.ofFailure (.refusal (.bodyNotJson (words body))))
  | some datum =>
    match EvaluateRequest.ofDatum datum with
    | .error problems => refuse (Report.validation problems)
    | .ok request =>
      match ExpressionTools.evaluatePoints settings request.expression request.given with
      | .error stop => render stop.category.status stop.toWebDatum
      | .ok outcome =>
        json 200 [("status", .text "success"), ("data", .record outcome.toFields)]

/-! ### Pages -/

inductive Page where
  | root
  | ping
  | health
  | functions
  | evaluate
  deriving DecidableEq, Repr

def Page.ofPath? (path : String) : Option Page :=
  if path = "/" then some .root
  else if path = "/ping" then some .ping
  else if path = "/health" then some .health
  else if path = "/functions" then some .functions
  else if path = "/evaluate" then some .evaluate
  else none

/-- The methods of a page. -/
def Page.methods : Page → List String
  | evaluate => ["POST"]
  | root | ping | health | functions => ["GET", "HEAD"]

/-- A path with its final slashes taken off, or with one put on if it has
none. -/
def otherSlash (path : String) : String :=
  match path.toList.reverse with
  | '/' :: rest => String.ofList (rest.dropWhile (· = '/')).reverse
  | _ => path ++ "/"

def Page.respond (settings : Except Failure Settings) (words : List UInt8 → String)
    (body : List UInt8) : Page → Except Unencodable Response
  | root =>
    json 200
      [("service", .text serviceName), ("status", .text "ok"),
        ("message",
          .text ("calcengine Web Server - POST /evaluate with \x7b\"expression\": ...\x7d"))]
  | ping => json 200 [("status", .text "ok"), ("service", .text serviceName)]
  | health =>
    json 200
      [("status", .text "healthy"), ("service", .text serviceName), ("version", .text version),
        ("capabilities",
          .record
            [(ExpressionTools.capability.name, .text ExpressionTools.capability.description)])]
  | functions => render 200 (.ofValue ExpressionTools.listing)
  | evaluate => WebServer.evaluate settings words body

/-- The answer to a request.  A path that is right but for its final slash is
answered by a redirection. -/
def respond (settings : Except Failure Settings) (words : List UInt8 → String)
    (method path : String) (body : List UInt8) : Except Unencodable Response :=
  match Page.ofPath? path with
  | some page =>
    if page.methods.contains method then page.respond settings words body
    else .ok { status := 405, body := "Method Not Allowed" }
  | none =>
    if (Page.ofPath? (otherSlash path)).isSome then .ok { status := 307, body := "" }
    else .ok { status := 404, body := "Not Found" }

end Calculator.WebServer

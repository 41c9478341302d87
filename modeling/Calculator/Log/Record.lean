import Calculator.Json.Writer
import Calculator.Log.Level

/-!
# Log records

A message comes with a level and with named fields.  Names that a record uses
for itself get a low line in front.  The session of the log is one of the
fields and gives way to a field of that name; a later field gives way to none.

A record is written on a line of its own, as JSON or as plain text.
-/

namespace Calculator.Log

open Calculator.Text

/-- A message as it is handed to a log. -/
structure Entry where
  level : Level
  message : String
  fields : Fields Value := []

/-- A log: its name, its session, what it prints and how. -/
structure Source where
  name : String
  session : String
  threshold : Int
  json : Bool

/-- The names that a record uses for itself. -/
def reservedNames : List String :=
  ["args", "asctime", "created", "exc_info", "exc_text", "filename", "funcName", "levelname",
    "levelno", "lineno", "module", "msecs", "message", "msg", "name", "pathname", "process",
    "processName", "relativeCreated", "stack_info", "thread", "threadName", "taskName"]

/-- The name of a field in the record. -/
def fieldName (name : String) : String :=
  if reservedNames.contains name then "_" ++ name else name

def sessionName : String :=
  "session_id"

namespace Entry

/-- The session and the fields of a message under the names of the record. -/
def named (entry : Entry) (source : Source) : Fields Value :=
  Fields.update [(sessionName, .text source.session)]
    (entry.fields.map fun field => (fieldName field.1, field.2))

def session (entry : Entry) (source : Source) : Value :=
  ((entry.named source).get? sessionName).getD .null

/-- The fields apart from the session. -/
def extras (entry : Entry) (source : Source) : Fields Value :=
  (entry.named source).filter fun field => field.1 != sessionName

/-- The record as data: a header, the session unless it is empty, and the
fields, which take the place of header entries of the same name. -/
def toFields (entry : Entry) (source : Source) (time : String) : Fields Value :=
  let header : Fields Value :=
    [("timestamp", .text time), ("level", .text entry.level.name),
      ("message", .text entry.message), ("logger", .text source.name)]
  let session := entry.session source
  let header :=
    if session.isGiven then Fields.insert sessionName (.text session.shown) header else header
  header.update (entry.extras source)

/-- The record as plain text, the fields behind the message. -/
def toText (entry : Entry) (source : Source) (time : String) : String :=
  let parts := (entry.extras source).map fun field => field.1 ++ "=" ++ field.2.shown
  time ++ " [" ++ entry.level.name ++ "] [session:" ++ (entry.session source).shown ++ "] " ++
    entry.message ++ String.join (parts.map (" " ++ ·))

end Entry

/-- The line that a log prints for a message, unless the message is below its
threshold. -/
def Source.line? (source : Source) (time : String) (entry : Entry) : Option String :=
  if entry.level.passes source.threshold then
    some (if source.json then Json.write .spaced (.record (entry.toFields source time))
      else entry.toText source time)
  else none

/-- The notice that the file of a log cannot be opened; the log goes on without
it. -/
def fileNotice (path reason : String) : String :=
  "Failed to setup log file " ++ path ++ ": " ++ reason

end Calculator.Log

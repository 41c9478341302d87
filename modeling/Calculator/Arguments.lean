import Calculator.Text.Blank
import Calculator.Text.Digit
import Calculator.Value

/-!
# Command line arguments

A command line is made of options, which start with a minus sign, and of plain
arguments.  A long option may be cut short as long as it stays the only one
that starts so, and may bring its value behind an equals sign.  Negative
numbers and arguments with a blank in them are plain, and so is everything
after a double minus.

Plain arguments are taken in one row.  Once options have followed a row, later
plain arguments are in excess, as all of them are where none are expected.
-/

namespace Calculator

open Calculator.Text

/-- An option.  One without a value asks for help. -/
structure CommandOption where
  names : List String
  /-- The value that an argument gives, or the complaint about it; none for an
  option without a value. -/
  value? : Option (String → Except String Value)

inductive ArgumentError where
  | ambiguous (argument : String) (candidates : List String)
  | expectedValue (option : List String)
  | ignoredValue (option : List String) (value : String)
  | invalidValue (option : List String) (complaint : String)
  | unrecognized (arguments : List String)

def ArgumentError.message : ArgumentError → String
  | ambiguous argument candidates =>
    "ambiguous option: " ++ argument ++ " could match " ++ join ", " candidates
  | expectedValue option => "argument " ++ join "/" option ++ ": expected one argument"
  | ignoredValue option value =>
    "argument " ++ join "/" option ++ ": ignored explicit argument " ++ quoted value
  | invalidValue option complaint => "argument " ++ join "/" option ++ ": " ++ complaint
  | unrecognized arguments => "unrecognized arguments: " ++ join " " arguments

namespace Arguments

/-- The text behind an option in the same argument, and whether an equals sign
stands in between. -/
structure Attached where
  marked : Bool
  text : String

/-- What an argument is by its form alone. -/
inductive Form where
  | plain (text : String)
  /-- The double minus after which everything is plain. -/
  | divider
  /-- An option under one of its names, with the text attached to it. -/
  | known (option : CommandOption) (name : String) (attached : Option Attached)
  | unknown (text : String)

def Form.text : Form → String
  | plain text | unknown text | known _ text _ => text
  | divider => "--"

def Form.isOption : Form → Bool
  | known .. | unknown _ => true
  | plain _ | divider => false

/-- A minus sign and digits, with at most one point, and a digit behind it.  A
line feed at the end does not count. -/
def isNegativeNumber (argument : List Char) : Bool :=
  let isDigit (c : Char) := (digitValue? c).isSome
  let argument := if argument.getLast? = some '\n' then argument.dropLast else argument
  match argument with
  | '-' :: rest =>
    let whole := rest.takeWhile isDigit
    match rest.dropWhile isDigit with
    | [] => !whole.isEmpty
    | '.' :: fraction => !fraction.isEmpty && fraction.all isDigit
    | _ => false
  | _ => false

/-- The text before the first equals sign, and what is attached behind it. -/
def splitValue (argument : String) : String × Option Attached :=
  let before := argument.toList.takeWhile (· != '=')
  match argument.toList.dropWhile (· != '=') with
  | [] => (argument, none)
  | _ :: behind => (String.ofList before, some ⟨true, String.ofList behind⟩)

/-- The options under their single names. -/
def byName (options : List CommandOption) : List (String × CommandOption) :=
  options.flatMap fun option => option.names.map (·, option)

/-- The options that an argument may be short for.  A long option may be cut
anywhere; a short one may have its value right behind it. -/
def candidates (options : List CommandOption) (argument : String) :
    List (String × CommandOption × Option Attached) :=
  let chars := argument.toList
  if chars.take 2 = ['-', '-'] then
    let (start, attached) := splitValue argument
    (byName options).filterMap fun (name, option) =>
      if start.toList.isPrefixOf name.toList then some (name, option, attached) else none
  else
    (byName options).filterMap fun (name, option) =>
      if name.toList = chars.take 2 then
        some (name, option, some ⟨false, String.ofList (chars.drop 2)⟩)
      else if chars.isPrefixOf name.toList then some (name, option, none)
      else none

/-- The form of one argument before any double minus. -/
def form (options : List CommandOption) (argument : String) : Except ArgumentError Form :=
  let chars := argument.toList
  if chars.head? != some '-' || chars.length = 1 then .ok (.plain argument)
  else
    match (byName options).lookup argument, (byName options).lookup (splitValue argument).1 with
    | some option, _ => .ok (.known option argument none)
    | none, some option =>
      .ok (.known option (splitValue argument).1 (splitValue argument).2)
    | none, none =>
      match candidates options argument with
      | [(name, option, attached)] => .ok (.known option name attached)
      | [] =>
        if isNegativeNumber chars || chars.contains ' ' then .ok (.plain argument)
        else .ok (.unknown argument)
      | several => .error (.ambiguous argument (several.map Prod.fst))

/-- The forms of all arguments. -/
def forms (options : List CommandOption) : List String → Except ArgumentError (List Form)
  | [] => .ok []
  | argument :: rest =>
    if argument = "--" then .ok (.divider :: rest.map .plain)
    else do
      let first ← form options argument
      let others ← forms options rest
      return first :: others

/-- What has been understood of a command line. -/
structure Parsed where
  /-- The values of options by their last name, the last one given first. -/
  values : List (String × Value) := []
  /-- The row of plain arguments; none if none has come and one is expected,
  and empty where none are expected. -/
  row : Option (List String)
  excess : List String := []

/-- The value that an option takes from a text. -/
def readValue (option : CommandOption) (read : String → Except String Value) (text : String) :
    Except ArgumentError Value :=
  (read text).mapError (.invalidValue option.names)

/-- The attached text that an option without a value cannot take, if any.  Short
options of this kind may be written in a row behind one minus sign. -/
def refused? (letter : Char) : (marked : Bool) → List Char → Option (List Char)
  | _, [] => some []
  | marked, [c] => if marked || c = '-' then some [c] else none
  | marked, c :: d :: rest =>
    if marked || c = '-' then some (c :: d :: rest)
    else if c != letter then none
    else if d = '=' then refused? letter true rest
    else refused? letter false (d :: rest)

def Parsed.withValue (parsed : Parsed) (option : CommandOption) (value : Value) : Parsed :=
  { parsed with values := (option.names.getLastD "", value) :: parsed.values }

/-- Takes a stretch of plain arguments as the row, or as excess. -/
def Parsed.withPlain (parsed : Parsed) (stretch : List Form) : Parsed :=
  match parsed.row, stretch with
  | none, _ :: _ =>
    { parsed with row := some ((stretch.filter fun f => f matches .plain _).map Form.text) }
  | _, _ => { parsed with excess := parsed.excess ++ stretch.map Form.text }

/-- Goes through the forms, with the plain ones passed over last; no result is a
request for help. -/
def readForms (parsed : Parsed) (stretch : List Form) :
    List Form → Except ArgumentError (Option Parsed)
  | [] => .ok (some (parsed.withPlain stretch))
  | .unknown text :: rest =>
    let parsed := parsed.withPlain stretch
    readForms { parsed with excess := parsed.excess ++ [text] } [] rest
  | .known option name attached :: rest =>
    let parsed := parsed.withPlain stretch
    match option.value?, attached with
    | some read, some attached => do
      let value ← readValue option read attached.text
      readForms (parsed.withValue option value) [] rest
    | some read, none =>
      match rest with
      | .plain argument :: rest => do
        let value ← readValue option read argument
        readForms (parsed.withValue option value) [] rest
      | _ => .error (.expectedValue option.names)
    | none, none => .ok none
    | none, some attached =>
      let refused :=
        match name.toList with
        | ['-', letter] => refused? letter attached.marked attached.text.toList
        | _ => some attached.text.toList
      match refused with
      | none => .ok none
      | some text => .error (.ignoredValue option.names (String.ofList text))
  | other :: rest => readForms parsed (stretch ++ [other]) rest

/-- Reads a command line with the given options.  No result is a request for
help. -/
def read (options : List CommandOption) (takesRow : Bool) (arguments : List String) :
    Except ArgumentError (Option Parsed) := do
  let forms ← forms options arguments
  match ← readForms { row := if takesRow then none else some [] } [] forms with
  | none => .ok none
  | some parsed =>
    if parsed.excess.isEmpty then .ok (some parsed)
    else .error (.unrecognized parsed.excess)

/-- The option that asks for help. -/
def help : CommandOption :=
  { names := ["-h", "--help"], value? := none }

end Arguments

end Calculator

import Calculator.Json.Datum

/-!
# Writing JSON

The three layouts in use: on one line with a blank after comma and colon, on
one line without blanks, and with every item on a line of its own.  The strict
JSON words for doubles that are no numbers do not exist; the ones written here
are those that lenient readers accept.

Data are written like values, but the texts that come about may hold halves of
surrogate pairs.
-/

namespace Calculator.Json

open Calculator.Text

/-- The choices in writing a value. -/
structure Style where
  /-- Whether all that is not a printable ASCII character is escaped. -/
  ascii : Bool
  comma : String
  colon : String
  /-- The blanks that a line is moved in by, where items have lines of their
  own. -/
  indent : Option Nat

namespace Style

/-- One line with blanks, for logs. -/
def spaced : Style := ⟨true, ", ", ": ", none⟩

/-- One line without blanks, for network answers. -/
def compact : Style := ⟨false, ",", ":", none⟩

/-- Every item on its own line, for tool answers. -/
def indented : Style := ⟨true, ",", ": ", some 2⟩

end Style

/-- The escape of one unit of sixteen bits. -/
def unitEscape (n : Nat) : List Char :=
  '\\' :: 'u' :: hexText 4 n

/-- The escape of a character by its units of sixteen bits: one up to
`U+FFFF`, above that a high and a low surrogate. -/
def pointEscape (n : Nat) : List Char :=
  if n < 0x10000 then unitEscape n
  else
    unitEscape (0xd800 + (n - 0x10000) / 0x400) ++ unitEscape (0xdc00 + (n - 0x10000) % 0x400)

def escapedChar (ascii : Bool) (c : Char) : List Char :=
  if c = '\x22' || c = '\\' then ['\\', c]
  else if c = '\n' then ['\\', 'n']
  else if c = '\r' then ['\\', 'r']
  else if c = '\t' then ['\\', 't']
  else if c = '\x0c' then ['\\', 'f']
  else if c = '\x08' then ['\\', 'b']
  else if c.toNat < 0x20 || (ascii && 0x7e < c.toNat) then pointEscape c.toNat
  else [c]

def stringText (ascii : Bool) (text : String) : String :=
  String.ofList ('\x22' :: text.toList.flatMap (escapedChar ascii) ++ ['\x22'])

/-- The start of a new line at the given depth, if lines are used. -/
def Style.newline (style : Style) (depth : Nat) : String :=
  match style.indent with
  | none => ""
  | some width => String.ofList ('\n' :: List.replicate (width * depth) ' ')

/-- Items between brackets, or the brackets alone. -/
def Style.bracketed (style : Style) (depth : Nat) (left right : String) (items : List String) :
    String :=
  if items.isEmpty then left ++ right
  else
    left ++ style.newline (depth + 1) ++
      join (style.comma ++ style.newline (depth + 1)) items ++ style.newline depth ++ right

mutual

def writeAt (style : Style) (depth : Nat) : Value → String
  | .null => "null"
  | .truth true => "true"
  | .truth false => "false"
  | .whole n => intText n
  | .number x => Number.Layout.exchange.write x
  | .text s => stringText style.ascii s
  | .list items => style.bracketed depth "[" "]" (writeItems style (depth + 1) items)
  | .record fields => style.bracketed depth "\x7b" "\x7d" (writeFields style (depth + 1) fields)

def writeItems (style : Style) (depth : Nat) : List Value → List String
  | [] => []
  | item :: rest => writeAt style depth item :: writeItems style depth rest

def writeFields (style : Style) (depth : Nat) : List (String × Value) → List String
  | [] => []
  | (name, value) :: rest =>
    (stringText style.ascii name ++ style.colon ++ writeAt style depth value) ::
      writeFields style depth rest

end

/-- A value in the given style. -/
def write (style : Style) (value : Value) : String :=
  writeAt style 0 value

/-! ### Texts with halves -/

/-- A half is escaped like a character, or left as it is. -/
def escapedPoint (ascii : Bool) : Point → List Point
  | .char c => (escapedChar ascii c).map .char
  | .half h => if ascii then (unitEscape h.code).map .char else [.half h]

def textPoints (ascii : Bool) (text : List Point) : List Point :=
  .char '\x22' :: text.flatMap (escapedPoint ascii) ++ [.char '\x22']

def Style.bracketedPoints (style : Style) (depth : Nat) (left right : String)
    (items : List (List Point)) : List Point :=
  if items.isEmpty then points (left ++ right)
  else
    points (left ++ style.newline (depth + 1)) ++
      (points (style.comma ++ style.newline (depth + 1))).intercalate items ++
        points (style.newline depth ++ right)

namespace Datum

mutual

def writeAt (style : Style) (depth : Nat) : Datum → List Point
  | .null => points "null"
  | .truth true => points "true"
  | .truth false => points "false"
  | .whole n => points (intText n)
  | .number x => points (Number.Layout.exchange.write x)
  | .text s => textPoints style.ascii s
  | .list items => style.bracketedPoints depth "[" "]" (writeItems style (depth + 1) items)
  | .record fields =>
    style.bracketedPoints depth "\x7b" "\x7d" (writeFields style (depth + 1) fields)

def writeItems (style : Style) (depth : Nat) : List Datum → List (List Point)
  | [] => []
  | item :: rest => writeAt style depth item :: writeItems style depth rest

def writeFields (style : Style) (depth : Nat) : List (List Point × Datum) → List (List Point)
  | [] => []
  | (name, datum) :: rest =>
    (textPoints style.ascii name ++ points style.colon ++ writeAt style depth datum) ::
      writeFields style depth rest

end

/-- A datum in the given style. -/
def write (style : Style) (datum : Datum) : List Point :=
  writeAt style 0 datum

end Datum

end Calculator.Json

import Calculator.Json.Datum
import Calculator.Number.Reading

/-!
# Reading JSON

A text is read in two passes, each going through its input once.  The first
passes over the characters and finds the marks, words and strings; the second
passes over these and keeps the lists and records that are still open.

Besides strict JSON the words of lenient writers for doubles that are no
numbers are accepted.  Control characters inside strings are refused.  Halves of
surrogate pairs may stand in strings, as they are or by their escapes; where the
escape of a low one follows that of a high one, the two stand for a character.
-/

namespace Calculator.Json

open Calculator.Text

/-! ### Marks, words and strings -/

/-- A mark, or a value that holds no other values. -/
inductive Lexeme where
  | listOpen
  | listClose
  | recordOpen
  | recordClose
  | comma
  | colon
  | scalar (datum : Datum)

/-- The digits of a whole number: a zero alone, or no zero in front. -/
def isWholePart (digits : List Char) : Bool :=
  digits = ['0'] || (!digits.isEmpty && digits.head? != some '0')

/-- Whether a text is the end of a number after its exponent mark. -/
def isExponent (text : List Char) : Bool :=
  let digits := (Number.signed text).2
  !digits.isEmpty && digits.all isAsciiDigit

/-- A number: a whole part, then a fraction or none, then an exponent or
none.  It is whole if it has neither. -/
def number? (word : List Char) : Option Datum :=
  let unsigned := if word.head? = some '-' then word.drop 1 else word
  let whole := unsigned.takeWhile isAsciiDigit
  let rest := unsigned.dropWhile isAsciiDigit
  let fraction := if rest.head? = some '.' then (rest.drop 1).takeWhile isAsciiDigit else []
  let tail := if rest.head? = some '.' then (rest.drop 1).dropWhile isAsciiDigit else rest
  if !isWholePart whole || (rest.head? = some '.' && fraction.isEmpty) then none
  else if rest.isEmpty then (Number.integer? (String.ofList word)).map Datum.whole
  else
    match tail with
    | [] => (Number.ofText? (String.ofList word)).map Datum.number
    | c :: power =>
      if (c = 'e' || c = 'E') && isExponent power then
        (Number.ofText? (String.ofList word)).map Datum.number
      else none

/-- What a word stands for. -/
def word? (word : List Char) : Option Datum :=
  if word = "null".toList then some .null
  else if word = "true".toList then some (.truth true)
  else if word = "false".toList then some (.truth false)
  else if word = "NaN".toList then some (.number Number.nan)
  else if word = "Infinity".toList then some (.number (1.0 / 0.0))
  else if word = "-Infinity".toList then some (.number (-1.0 / 0.0))
  else number? word

def hexValue? (c : Char) : Option Nat :=
  if '0' ≤ c && c ≤ '9' then some (c.toNat - '0'.toNat)
  else if 'a' ≤ c && c ≤ 'f' then some (c.toNat - 'a'.toNat + 10)
  else if 'A' ≤ c && c ≤ 'F' then some (c.toNat - 'A'.toNat + 10)
  else none

def blank (c : Char) : Bool :=
  c = ' ' || c = '\t' || c = '\n' || c = '\r'

def mark? (c : Char) : Option Lexeme :=
  match c with
  | '[' => some .listOpen
  | ']' => some .listClose
  | '\x7b' => some .recordOpen
  | '\x7d' => some .recordClose
  | ',' => some .comma
  | ':' => some .colon
  | _ => none

/-- What a letter after a backslash stands for. -/
def shortEscape? (c : Char) : Option Char :=
  match c with
  | '\x22' => some '\x22'
  | '\\' => some '\\'
  | '/' => some '/'
  | 'b' => some '\x08'
  | 'f' => some '\x0c'
  | 'n' => some '\n'
  | 'r' => some '\r'
  | 't' => some '\t'
  | _ => none

/-- Where the first pass stands.  What has been collected has its last part
first; a string is collected in pieces, since its escapes give units. -/
inductive Place where
  | between
  | word (letters : List Char)
  | string (pieces : List Piece)
  | escape (pieces : List Piece)
  | hex (pieces : List Piece) (count : Nat) (unit : Nat)

/-- The first pass, one character on: the new place, and the lexemes ended by
the character. -/
def Place.step? (place : Place) (c : Char) : Option (Place × List Lexeme) :=
  match place with
  | .between =>
    if blank c then some (.between, [])
    else if c = '\x22' then some (.string [], [])
    else match mark? c with
      | some mark => some (.between, [mark])
      | none => some (.word [c], [])
  | .word letters =>
    if blank c then (word? letters.reverse).map fun datum => (.between, [.scalar datum])
    else if c = '\x22' then none
    else match mark? c with
      | some mark => (word? letters.reverse).map fun datum => (.between, [.scalar datum, mark])
      | none => some (.word (c :: letters), [])
  | .string pieces =>
    if c = '\x22' then some (.between, [.scalar (.text (assembled pieces.reverse))])
    else if c = '\\' then some (.escape pieces, [])
    else if c.toNat < 0x20 then none
    else some (.string (.point (.char c) :: pieces), [])
  | .escape pieces =>
    if c = 'u' then some (.hex pieces 0 0, [])
    else (shortEscape? c).map fun e => (.string (.point (.char e) :: pieces), [])
  | .hex pieces count unit =>
    (hexValue? c).map fun digit =>
      let unit := 16 * unit + digit
      if count = 3 then (.string (.ofUnit unit :: pieces), [])
      else (.hex pieces (count + 1) unit, [])

/-- The first pass, one half on, which may stand in a string only. -/
def Place.passHalf? (place : Place) (half : Half) : Option Place :=
  match place with
  | .string pieces => some (.string (.point (.half half) :: pieces))
  | _ => none

/-- The lexemes of a text from a place on. -/
def lexemesFrom? (place : Place) : List Point → Option (List Lexeme)
  | [] =>
    match place with
    | .between => some []
    | .word letters => (word? letters.reverse).map fun datum => [.scalar datum]
    | _ => none
  | .char c :: rest => do
    let (place, ended) ← place.step? c
    let more ← lexemesFrom? place rest
    return ended ++ more
  | .half h :: rest => do
    let place ← place.passHalf? h
    lexemesFrom? place rest

/-! ### Lists and records -/

/-- A list or a record that is still open and waits for a datum.  What it has so
far has its last part first. -/
inductive Frame where
  | list (items : List Datum)
  /-- The fields so far, and the name whose datum comes. -/
  | record (fields : List (List Point × Datum)) (name : List Point)

/-- What may come next, and the frames it comes in, the innermost first. -/
inductive Phase where
  | wantsDatum (frames : List Frame)
  | firstItem (frames : List Frame)
  | firstName (frames : List Frame)
  | wantsName (frames : List Frame) (fields : List (List Point × Datum))
  | colon (frames : List Frame) (fields : List (List Point × Datum)) (name : List Point)
  | afterItem (frames : List Frame) (items : List Datum)
  | afterField (frames : List Frame) (fields : List (List Point × Datum))
  | finished (datum : Datum)

/-- Puts a complete datum into the innermost frame. -/
def Phase.placed (datum : Datum) : List Frame → Phase
  | [] => .finished datum
  | .list items :: frames => .afterItem frames (datum :: items)
  | .record fields name :: frames => .afterField frames ((name, datum) :: fields)

/-- Starts a datum. -/
def Phase.started? (frames : List Frame) : Lexeme → Option Phase
  | .scalar datum => some (.placed datum frames)
  | .listOpen => some (.firstItem frames)
  | .recordOpen => some (.firstName frames)
  | _ => none

/-- The second pass, one lexeme on. -/
def Phase.step? : Phase → Lexeme → Option Phase
  | .wantsDatum frames, lexeme => started? frames lexeme
  | .firstItem frames, .listClose => some (placed (.list []) frames)
  | .firstItem frames, lexeme => started? (.list [] :: frames) lexeme
  | .firstName frames, .recordClose => some (placed (.record []) frames)
  | .firstName frames, .scalar (.text name) => some (.colon frames [] name)
  | .wantsName frames fields, .scalar (.text name) => some (.colon frames fields name)
  | .colon frames fields name, .colon => some (.wantsDatum (.record fields name :: frames))
  | .afterItem frames items, .comma => some (.wantsDatum (.list items :: frames))
  | .afterItem frames items, .listClose => some (placed (.list items.reverse) frames)
  | .afterField frames fields, .comma => some (.wantsName frames fields)
  | .afterField frames fields, .recordClose => some (placed (.record fields.reverse) frames)
  | _, _ => none

/-- The datum that a text writes, if it writes exactly one. -/
def read? (text : List Point) : Option Datum := do
  let lexemes ← lexemesFrom? .between text
  match ← lexemes.foldlM Phase.step? (.wantsDatum []) with
  | .finished datum => some datum
  | _ => none

end Calculator.Json

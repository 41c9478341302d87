import Calculator.Fields
import Calculator.Number.Layout
import Calculator.Text.Blank
import Calculator.Text.Quoted

/-!
# Values

The data that requests bring and answers carry: nothing, truth values, whole
numbers, doubles, texts, lists and records.  Besides the written form of data
exchange a value has a form for messages, in which texts inside lists and
records are quoted and a text on its own is not.
-/

namespace Calculator

inductive Value where
  | null
  | truth (b : Bool)
  | whole (n : Int)
  | number (x : Float)
  | text (s : String)
  | list (items : List Value)
  | record (fields : List (String × Value))
  deriving Inhabited

namespace Value

/-- The word for the type of a value in messages. -/
def typeName : Value → String
  | null => "NoneType"
  | truth _ => "bool"
  | whole _ => "int"
  | number _ => "float"
  | text _ => "str"
  | list _ => "list"
  | record _ => "dict"

/-- Whether a value counts as given: zero and everything empty do not. -/
def isGiven : Value → Bool
  | null => false
  | truth b => b
  | whole n => n != 0
  | number x => x != 0.0
  | text s => !s.isEmpty
  | list items => !items.isEmpty
  | record fields => !fields.isEmpty

mutual

/-- A value inside a message, texts in quotes. -/
def quoted : Value → String
  | null => "None"
  | truth true => "True"
  | truth false => "False"
  | whole n => Text.intText n
  | number x => Number.text x
  | text s => Text.quoted s
  | list items => "[" ++ Text.join ", " (quotedItems items) ++ "]"
  | record fields => "\x7b" ++ Text.join ", " (quotedFields fields) ++ "\x7d"

def quotedItems : List Value → List String
  | [] => []
  | item :: rest => quoted item :: quotedItems rest

def quotedFields : List (String × Value) → List String
  | [] => []
  | (name, value) :: rest => (Text.quoted name ++ ": " ++ quoted value) :: quotedFields rest

end

/-- A value as a message shows it on its own. -/
def shown : Value → String
  | text s => s
  | value => value.quoted

@[simp] theorem shown_text (s : String) : (text s).shown = s := rfl

/-- A double in an answer.  What data exchange has no number for is given by
its word instead. -/
def ofNumber (x : Float) : Value :=
  if x.isFinite then number x else text (Number.text x)

/-- A double that stands on its own made fit for data exchange; any other value
is left alone. -/
def exchangeable : Value → Value
  | number x => ofNumber x
  | value => value

end Value

end Calculator

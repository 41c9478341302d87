import Calculator.Failure

/-!
# Lexemes

The parts that an expression is written in, from left to right.  Commas
separate thousands and are left out everywhere, blanks are left out around the
expression and passed over between its parts.

What stands at a place is decided by its first character, except that a name
of a function comes before the constant that it may start with.  A number goes
on as long as it can: over all digits and one point.  A point without a digit
on either side is no number.
-/

namespace Calculator

open Calculator.Text

/-- The text of an expression as it is read, without commas and outer
blanks. -/
def sanitize : Option String → String
  | none => ""
  | some text => String.ofList (strip isBlank (text.toList.filter (· != ',')))

namespace Lexeme

/-- The digits and the first point at the front of a text; the flag says
whether the point has gone by. -/
def digits (pointed : Bool) : List Char → List Char
  | [] => []
  | c :: rest =>
    if isAsciiDigit c then c :: digits pointed rest
    else if c = '.' && !pointed then c :: digits true rest
    else []

/-- The function whose name stands at the front of a text. -/
def function? (text : List Char) : Option NamedFunction :=
  NamedFunction.longestFirst.find? fun f => f.name.toList.isPrefixOf text

/-- What a character is on its own, if it is not part of a number or name. -/
def single? (c : Char) : Option Token :=
  match Constant.ofSymbol? (String.singleton c) with
  | some constant => some ⟨.constant, constant.symbol⟩
  | none =>
    if c = '(' then some .leftParen
    else if c = ')' then some .rightParen
    else if c = '|' then some .bar
    else if ['+', '-', '*', '/', '^', '%'].contains c then
      some ⟨.operator, String.singleton c⟩
    else none

/-- The lexeme at the front of a text. -/
def first? (text : List Char) : Option Token :=
  match text with
  | [] => none
  | c :: _ =>
    if isAsciiDigit c || c = '.' then
      let literal := digits false text
      if literal = ['.'] then none else some ⟨.number, String.ofList literal⟩
    else
      match function? text with
      | some f => some ⟨.function, f.name⟩
      | none => single? c

/-- Why nothing can be read at a place, by the character there. -/
def unreadable (c : Char) (position : Nat) : Fault :=
  if c = '.' then .invalidNumber position else .invalidCharacter c position

/-- The lexemes of a text that starts at the given position of the
expression. -/
def readFrom (position : Nat) : List Char → Except Failure (List Token)
  | [] => .ok []
  | c :: rest =>
    if isBlank c then readFrom (position + 1) rest
    else
      match first? (c :: rest) with
      | none => .error (.fault (unreadable c position))
      | some token => do
        -- the first character belongs to the lexeme in any case
        let more := token.text.length - 1
        let tokens ← readFrom (position + 1 + more) (rest.drop more)
        return token :: tokens
termination_by text => text.length
decreasing_by
  · exact Nat.lt_succ_self _
  · exact Nat.lt_succ_of_le (by simp)

end Lexeme

/-- The lexemes of an expression. -/
def lexemes (expression : Option String) : Except Failure (List Token) :=
  Lexeme.readFrom 0 (sanitize expression).toList

end Calculator

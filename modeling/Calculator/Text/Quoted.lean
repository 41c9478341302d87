import Calculator.Text.Digit
import Calculator.Text.Printable

/-!
# Quoted text

A text between quotes, readable on one line.  The mark is the apostrophe,
unless the text holds apostrophes and no double quotes.  The mark and the
backslash are written after a backslash; tab, line feed and carriage return
have a short escape; any other character that is not printable is written by
its code point in hexadecimal, in two, four or eight places.
-/

namespace Calculator.Text

/-- The quote that needs the fewest escapes, the apostrophe in doubt. -/
def quoteMark (text : List Char) : Char :=
  if text.contains '\x27' && !text.contains '\x22' then '\x22' else '\x27'

def quotedChar (mark c : Char) : List Char :=
  if c = mark || c = '\\' then ['\\', c]
  else if c = '\t' then ['\\', 't']
  else if c = '\n' then ['\\', 'n']
  else if c = '\r' then ['\\', 'r']
  else if isPrintable c then [c]
  else if c.toNat < 0x100 then '\\' :: 'x' :: hexText 2 c.toNat
  else if c.toNat < 0x10000 then '\\' :: 'u' :: hexText 4 c.toNat
  else '\\' :: 'U' :: hexText 8 c.toNat

def quoted (text : String) : String :=
  let mark := quoteMark text.toList
  String.ofList (mark :: text.toList.flatMap (quotedChar mark) ++ [mark])

end Calculator.Text
